/-
# Text operations of the Rust standard library

The settings and padding-scheme formats are parsed with a handful of `str`
methods: lossy UTF-8 decoding, `lines`, `split_once`, `split`, `trim` and the
integer `parse` implementations. Each is written here as its documentation
describes it, over `List Char` so that the parsers of the model evaluate, with
the facts a round trip through them needs: decoding undoes `into_bytes`,
`lines` undoes joining with line feeds, `split_once` finds the first separator
and `trim` is idempotent.
-/

import Mathlib

namespace RustText

/-- `ToString` for an unsigned integer: its decimal digits. -/
def decimal (value : Nat) : List Char := Nat.toDigits 10 value

/-! ### `String::from_utf8_lossy` -/

/-- The bytes a valid sequence may hold in second position after `lead`, and the
sequence's length, per the UTF-8 well-formedness table; `none` for a byte that
starts no multi-byte sequence. -/
def sequenceShape (lead : Nat) : Option (Nat × Nat × Nat) :=
  if 0xC2 ≤ lead ∧ lead ≤ 0xDF then some (0x80, 0xBF, 2)
  else if lead = 0xE0 then some (0xA0, 0xBF, 3)
  else if 0xE1 ≤ lead ∧ lead ≤ 0xEC then some (0x80, 0xBF, 3)
  else if lead = 0xED then some (0x80, 0x9F, 3)
  else if 0xEE ≤ lead ∧ lead ≤ 0xEF then some (0x80, 0xBF, 3)
  else if lead = 0xF0 then some (0x90, 0xBF, 4)
  else if 0xF1 ≤ lead ∧ lead ≤ 0xF3 then some (0x80, 0xBF, 4)
  else if lead = 0xF4 then some (0x80, 0x8F, 4)
  else none

/-- A continuation byte. -/
def isContinuation (byte : UInt8) : Bool := 0x80 ≤ byte.toNat && byte.toNat ≤ 0xBF

/-- The replacement character U+FFFD. -/
def replacement : Char := Char.ofNat 0xFFFD

/-- The scalar value of a well-formed sequence of two, three or four bytes. -/
def scalar (lead : UInt8) (continuations : List UInt8) : Char :=
  let leadBits := match continuations.length with
    | 1 => lead.toNat % 0x20
    | 2 => lead.toNat % 0x10
    | _ => lead.toNat % 0x08
  Char.ofNat (continuations.foldl (fun acc byte => acc * 64 + byte.toNat % 64) leadBits)

/-- One step of `String::from_utf8_lossy` at a byte that is not ASCII: the
scalar value of a well-formed sequence, or U+FFFD for the maximal prefix of a
well-formed sequence that is cut short (at least the lead byte), together with
the bytes after what was consumed. -/
def decodeSequence (lead : UInt8) (rest : List UInt8) : Char × List UInt8 :=
  match sequenceShape lead.toNat with
  | none => (replacement, rest)
  | some (low, high, length) =>
      match rest with
      | [] => (replacement, [])
      | second :: afterSecond =>
          if ¬ (low ≤ second.toNat ∧ second.toNat ≤ high) then (replacement, rest)
          else if length = 2 then (scalar lead [second], afterSecond)
          else
            match afterSecond with
            | [] => (replacement, [])
            | third :: afterThird =>
                if ¬ isContinuation third then (replacement, afterSecond)
                else if length = 3 then (scalar lead [second, third], afterThird)
                else
                  match afterThird with
                  | [] => (replacement, [])
                  | fourth :: afterFourth =>
                      if ¬ isContinuation fourth then (replacement, afterThird)
                      else (scalar lead [second, third, fourth], afterFourth)

/-- The decoding loop, one character per step, each step consuming at least one
byte; `fuel` bounds the number of steps. -/
def fromUtf8LossyLoop : Nat → List UInt8 → List Char
  | 0, _ => []
  | _ + 1, [] => []
  | fuel + 1, lead :: rest =>
      if lead.toNat < 0x80 then Char.ofNat lead.toNat :: fromUtf8LossyLoop fuel rest
      else
        let (decoded, after) := decodeSequence lead rest
        decoded :: fromUtf8LossyLoop fuel after

/-- `String::from_utf8_lossy`: well-formed sequences decode to their scalar
values, and each maximal prefix of a well-formed sequence that is cut short, as
well as each byte that starts none, becomes one U+FFFD. -/
def fromUtf8Lossy (bytes : List UInt8) : List Char := fromUtf8LossyLoop bytes.length bytes

/-- The UTF-8 encoding of one character. -/
def utf8EncodeChar (c : Char) : List UInt8 :=
  let n := c.toNat
  if n < 0x80 then [UInt8.ofNat n]
  else if n < 0x800 then [UInt8.ofNat (0xC0 + n / 64), UInt8.ofNat (0x80 + n % 64)]
  else if n < 0x10000 then
    [UInt8.ofNat (0xE0 + n / 4096), UInt8.ofNat (0x80 + n / 64 % 64), UInt8.ofNat (0x80 + n % 64)]
  else
    [UInt8.ofNat (0xF0 + n / 262144), UInt8.ofNat (0x80 + n / 4096 % 64),
      UInt8.ofNat (0x80 + n / 64 % 64), UInt8.ofNat (0x80 + n % 64)]

/-- `String::into_bytes`: the UTF-8 encoding of the text. -/
def intoBytes (text : List Char) : List UInt8 := text.flatMap utf8EncodeChar

theorem utf8EncodeChar_ne_nil (c : Char) : utf8EncodeChar c ≠ [] := by
  unfold utf8EncodeChar
  dsimp only
  split_ifs <;> simp

theorem intoBytes_ne_nil {text : List Char} (nonempty : text ≠ []) : intoBytes text ≠ [] := by
  obtain ⟨c, rest, rfl⟩ := List.exists_cons_of_ne_nil nonempty
  simp [intoBytes, utf8EncodeChar_ne_nil]

/-! ### `String::from_utf8` -/

/-- `Utf8Error`: the length of the valid prefix, and the length of the invalid
sequence after it, `none` when the input ends inside a sequence. -/
structure Utf8Error where
  validUpTo : Nat
  errorLen : Option Nat
  deriving DecidableEq, Repr

/-- `Display` for `Utf8Error` (and so for `FromUtf8Error`). -/
def Utf8Error.toString (e : Utf8Error) : List Char :=
  match e.errorLen with
  | some len => "invalid utf-8 sequence of ".toList ++ decimal len ++ " bytes from index ".toList ++
      decimal e.validUpTo
  | none => "incomplete utf-8 byte sequence from index ".toList ++ decimal e.validUpTo

/-- One step of the validation at a byte that is not ASCII: the scalar value of
a well-formed sequence and the bytes after it, or the length of the invalid
sequence (`none` when the input ends inside it). -/
def checkSequence (lead : UInt8) (rest : List UInt8) : Except (Option Nat) (Char × List UInt8) :=
  match sequenceShape lead.toNat with
  | none => .error (some 1)
  | some (low, high, length) =>
      match rest with
      | [] => .error none
      | second :: afterSecond =>
          if ¬ (low ≤ second.toNat ∧ second.toNat ≤ high) then .error (some 1)
          else if length = 2 then .ok (scalar lead [second], afterSecond)
          else
            match afterSecond with
            | [] => .error none
            | third :: afterThird =>
                if ¬ isContinuation third then .error (some 2)
                else if length = 3 then .ok (scalar lead [second, third], afterThird)
                else
                  match afterThird with
                  | [] => .error none
                  | fourth :: afterFourth =>
                      if ¬ isContinuation fourth then .error (some 3)
                      else .ok (scalar lead [second, third, fourth], afterFourth)

/-- The validation loop from byte `index` on; `fuel` bounds the number of
steps, each of which consumes at least one byte. -/
def fromUtf8Loop : Nat → Nat → List UInt8 → Except Utf8Error (List Char)
  | 0, _, _ => .ok []
  | _ + 1, _, [] => .ok []
  | fuel + 1, index, lead :: rest =>
      if lead.toNat < 0x80 then (Char.ofNat lead.toNat :: ·) <$> fromUtf8Loop fuel (index + 1) rest
      else
        match checkSequence lead rest with
        | .error len => .error ⟨index, len⟩
        | .ok (decoded, after) =>
            (decoded :: ·) <$> fromUtf8Loop fuel (index + 1 + (rest.length - after.length)) after

/-- `String::from_utf8`: the text when the bytes are well-formed UTF-8, and the
first invalid sequence otherwise. -/
def fromUtf8 (bytes : List UInt8) : Except Utf8Error (List Char) := fromUtf8Loop bytes.length 0 bytes

/-! ### Decoding what was encoded

Every character's encoding is a well-formed sequence (`utf8EncodeChar_sequence`),
so both decoders give the character back: the lead byte's shape admits the
second byte (the narrow ranges after `E0`, `ED`, `F0` and `F4` are exactly what
excludes overlong forms, surrogates and values past U+10FFFF), and the scalar
value is reassembled from the six-bit groups. Lossy decoding agrees with the
validation on every sequence the validation accepts (`decodeSequence_of_check`). -/

theorem fromUtf8LossyLoop_nil (fuel : Nat) : fromUtf8LossyLoop fuel [] = [] := by
  cases fuel <;> rfl

theorem toNat_valid (c : Char) : c.toNat < 0xD800 ∨ (0xDFFF < c.toNat ∧ c.toNat < 0x110000) :=
  c.valid

theorem byte_toNat {k : Nat} (small : k < 256) : (UInt8.ofNat k).toNat = k :=
  UInt8.toNat_ofNat_of_lt' small

theorem checkSequence_two {lead second : UInt8} {low high : Nat} {rest : List UInt8}
    (shape : sequenceShape lead.toNat = some (low, high, 2))
    (inRange : low ≤ second.toNat ∧ second.toNat ≤ high) :
    checkSequence lead (second :: rest) = .ok (scalar lead [second], rest) := by
  simp [checkSequence, shape, inRange]

theorem checkSequence_three {lead second third : UInt8} {low high : Nat} {rest : List UInt8}
    (shape : sequenceShape lead.toNat = some (low, high, 3))
    (inRange : low ≤ second.toNat ∧ second.toNat ≤ high) (continues : isContinuation third) :
    checkSequence lead (second :: third :: rest) = .ok (scalar lead [second, third], rest) := by
  simp [checkSequence, shape, inRange, continues]

theorem checkSequence_four {lead second third fourth : UInt8} {low high : Nat}
    {rest : List UInt8} (shape : sequenceShape lead.toNat = some (low, high, 4))
    (inRange : low ≤ second.toNat ∧ second.toNat ≤ high) (continues : isContinuation third)
    (continues' : isContinuation fourth) :
    checkSequence lead (second :: third :: fourth :: rest) =
      .ok (scalar lead [second, third, fourth], rest) := by
  simp [checkSequence, shape, inRange, continues, continues']

theorem decodeSequence_of_check {lead : UInt8} {bytes after : List UInt8} {c : Char}
    (checked : checkSequence lead bytes = .ok (c, after)) :
    decodeSequence lead bytes = (c, after) := by
  unfold checkSequence at checked
  unfold decodeSequence
  rcases shape : sequenceShape lead.toNat with _ | ⟨low, high, length⟩ <;>
    simp only [shape] at checked ⊢
  · cases checked
  -- the two functions split alike, and agree wherever the validation accepts
  rcases bytes with _ | ⟨second, _ | ⟨third, _ | ⟨fourth, rest⟩⟩⟩ <;> dsimp only at checked ⊢ <;>
    (try split_ifs at checked ⊢) <;> cases checked <;> rfl

theorem sequenceShape_three {n : Nat} (low : 0x800 ≤ n) (high : n < 0x10000)
    (valid : n < 0xD800 ∨ 0xDFFF < n) :
    ∃ lo hi, sequenceShape (0xE0 + n / 4096) = some (lo, hi, 3) ∧
      lo ≤ 0x80 + n / 64 % 64 ∧ 0x80 + n / 64 % 64 ≤ hi := by
  unfold sequenceShape
  -- the lead byte is one of `E0` to `EF`: the arms for `E0`, `E1`-`EC`, `ED` and `EE`-`EF`
  rw [if_neg (by omega)]
  by_cases e0 : 0xE0 + n / 4096 = 0xE0
  · rw [if_pos e0]
    exact ⟨_, _, rfl, by omega, by omega⟩
  rw [if_neg e0]
  by_cases e1 : 0xE1 ≤ 0xE0 + n / 4096 ∧ 0xE0 + n / 4096 ≤ 0xEC
  · rw [if_pos e1]
    exact ⟨_, _, rfl, by omega, by omega⟩
  rw [if_neg e1]
  by_cases ed : 0xE0 + n / 4096 = 0xED
  · rw [if_pos ed]
    exact ⟨_, _, rfl, by omega, by omega⟩
  rw [if_neg ed, if_pos (by omega)]
  exact ⟨_, _, rfl, by omega, by omega⟩

theorem sequenceShape_four {n : Nat} (low : 0x10000 ≤ n) (high : n < 0x110000) :
    ∃ lo hi, sequenceShape (0xF0 + n / 262144) = some (lo, hi, 4) ∧
      lo ≤ 0x80 + n / 4096 % 64 ∧ 0x80 + n / 4096 % 64 ≤ hi := by
  unfold sequenceShape
  -- the lead byte is one of `F0` to `F4`, past the arms of shorter sequences
  rw [if_neg (by omega), if_neg (by omega), if_neg (by omega), if_neg (by omega),
    if_neg (by omega)]
  by_cases f0 : 0xF0 + n / 262144 = 0xF0
  · rw [if_pos f0]
    exact ⟨_, _, rfl, by omega, by omega⟩
  rw [if_neg f0]
  by_cases f1 : 0xF1 ≤ 0xF0 + n / 262144 ∧ 0xF0 + n / 262144 ≤ 0xF3
  · rw [if_pos f1]
    exact ⟨_, _, rfl, by omega, by omega⟩
  rw [if_neg f1, if_pos (by omega)]
  exact ⟨_, _, rfl, by omega, by omega⟩
theorem continuation_byte (k : Nat) : isContinuation (UInt8.ofNat (0x80 + k % 64)) := by
  have : (UInt8.ofNat (0x80 + k % 64)).toNat = 0x80 + k % 64 := byte_toNat (by omega)
  simp only [isContinuation, this, Bool.and_eq_true, decide_eq_true_eq]
  omega

theorem fromUtf8LossyLoop_of_decode {lead : UInt8} {bytes rest : List UInt8} {c : Char}
    (fuel : Nat) (notAscii : 0x80 ≤ lead.toNat) (decoded : decodeSequence lead bytes = (c, rest)) :
    fromUtf8LossyLoop (fuel + 1) (lead :: bytes) = c :: fromUtf8LossyLoop fuel rest := by
  simp [fromUtf8LossyLoop, decoded, Nat.not_lt.mpr notAscii]

theorem ofNat_eq_of_toNat {n : Nat} {c : Char} (same : n = c.toNat) : Char.ofNat n = c := by
  rw [same, Char.ofNat_toNat]

/-- Every character's encoding is one well-formed sequence: a byte below `0x80`
that is the character itself, or a lead byte with continuation bytes that
`checkSequence` accepts as the character. -/
theorem utf8EncodeChar_sequence (c : Char) (rest : List UInt8) :
    (utf8EncodeChar c = [UInt8.ofNat c.toNat] ∧ (UInt8.ofNat c.toNat).toNat < 0x80 ∧
      Char.ofNat (UInt8.ofNat c.toNat).toNat = c) ∨
    ∃ lead continuations, utf8EncodeChar c = lead :: continuations ∧ 0x80 ≤ lead.toNat ∧
      checkSequence lead (continuations ++ rest) = .ok (c, rest) := by
  have valid := toNat_valid c
  unfold utf8EncodeChar
  dsimp only
  split_ifs with ascii two three
  · -- one byte: the character itself
    have lead : (UInt8.ofNat c.toNat).toNat = c.toNat := byte_toNat (by omega)
    exact .inl ⟨rfl, by omega, ofNat_eq_of_toNat lead⟩
  · have lead : (UInt8.ofNat (0xC0 + c.toNat / 64)).toNat = 0xC0 + c.toNat / 64 :=
      byte_toNat (by omega)
    have second : (UInt8.ofNat (0x80 + c.toNat % 64)).toNat = 0x80 + c.toNat % 64 :=
      byte_toNat (by omega)
    have shape : sequenceShape (0xC0 + c.toNat / 64) = some (0x80, 0xBF, 2) := by
      have : 0xC2 ≤ 0xC0 + c.toNat / 64 ∧ 0xC0 + c.toNat / 64 ≤ 0xDF := by omega
      simp [sequenceShape, this]
    rw [← lead] at shape
    have value : scalar (UInt8.ofNat (0xC0 + c.toNat / 64)) [UInt8.ofNat (0x80 + c.toNat % 64)] = c := by
      simp only [scalar, List.length_singleton, List.foldl_cons, List.foldl_nil, lead, second]
      exact ofNat_eq_of_toNat (by omega)
    refine .inr ⟨_, _, rfl, by omega, ?_⟩
    rw [List.cons_append, List.nil_append, checkSequence_two shape (by rw [second]; omega), value]
  · have lead : (UInt8.ofNat (0xE0 + c.toNat / 4096)).toNat = 0xE0 + c.toNat / 4096 :=
      byte_toNat (by omega)
    have second : (UInt8.ofNat (0x80 + c.toNat / 64 % 64)).toNat = 0x80 + c.toNat / 64 % 64 :=
      byte_toNat (by omega)
    have third : (UInt8.ofNat (0x80 + c.toNat % 64)).toNat = 0x80 + c.toNat % 64 :=
      byte_toNat (by omega)
    obtain ⟨lo, hi, shape, aboveLo, belowHi⟩ := sequenceShape_three (by omega) three (by omega)
    rw [← lead] at shape
    have value : scalar (UInt8.ofNat (0xE0 + c.toNat / 4096))
        [UInt8.ofNat (0x80 + c.toNat / 64 % 64), UInt8.ofNat (0x80 + c.toNat % 64)] = c := by
      simp only [scalar, List.length_cons, List.length_nil, Nat.reduceAdd, List.foldl_cons,
        List.foldl_nil, lead, second, third]
      exact ofNat_eq_of_toNat (by omega)
    refine .inr ⟨_, _, rfl, by omega, ?_⟩
    rw [List.cons_append, List.cons_append, List.nil_append,
      checkSequence_three shape (by rw [second]; omega) (continuation_byte _), value]
  · have lead : (UInt8.ofNat (0xF0 + c.toNat / 262144)).toNat = 0xF0 + c.toNat / 262144 :=
      byte_toNat (by omega)
    have second : (UInt8.ofNat (0x80 + c.toNat / 4096 % 64)).toNat = 0x80 + c.toNat / 4096 % 64 :=
      byte_toNat (by omega)
    have third : (UInt8.ofNat (0x80 + c.toNat / 64 % 64)).toNat = 0x80 + c.toNat / 64 % 64 :=
      byte_toNat (by omega)
    have fourth : (UInt8.ofNat (0x80 + c.toNat % 64)).toNat = 0x80 + c.toNat % 64 :=
      byte_toNat (by omega)
    obtain ⟨lo, hi, shape, aboveLo, belowHi⟩ := @sequenceShape_four c.toNat (by omega) (by omega)
    rw [← lead] at shape
    have value : scalar (UInt8.ofNat (0xF0 + c.toNat / 262144))
        [UInt8.ofNat (0x80 + c.toNat / 4096 % 64), UInt8.ofNat (0x80 + c.toNat / 64 % 64),
          UInt8.ofNat (0x80 + c.toNat % 64)] = c := by
      simp only [scalar, List.length_cons, List.length_nil, Nat.reduceAdd, List.foldl_cons,
        List.foldl_nil, lead, second, third, fourth]
      exact ofNat_eq_of_toNat (by omega)
    refine .inr ⟨_, _, rfl, by omega, ?_⟩
    rw [List.cons_append, List.cons_append, List.cons_append, List.nil_append,
      checkSequence_four shape (by rw [second]; omega) (continuation_byte _)
        (continuation_byte _), value]

theorem fromUtf8LossyLoop_utf8EncodeChar (c : Char) (fuel : Nat) (rest : List UInt8) :
    fromUtf8LossyLoop (fuel + 1) (utf8EncodeChar c ++ rest) = c :: fromUtf8LossyLoop fuel rest := by
  rcases utf8EncodeChar_sequence c rest with
    ⟨encoded, ascii, same⟩ | ⟨lead, continuations, encoded, notAscii, checked⟩
  · rw [encoded, List.singleton_append, fromUtf8LossyLoop, if_pos ascii, same]
  · rw [encoded, List.cons_append]
    exact fromUtf8LossyLoop_of_decode fuel notAscii (decodeSequence_of_check checked)

theorem fromUtf8Loop_nil (fuel index : Nat) : fromUtf8Loop fuel index [] = .ok [] := by
  cases fuel <;> rfl

theorem fromUtf8Loop_utf8EncodeChar (c : Char) (fuel index : Nat) (rest : List UInt8) :
    fromUtf8Loop (fuel + 1) index (utf8EncodeChar c ++ rest) =
      (c :: ·) <$> fromUtf8Loop fuel (index + (utf8EncodeChar c).length) rest := by
  rcases utf8EncodeChar_sequence c rest with
    ⟨encoded, ascii, same⟩ | ⟨lead, continuations, encoded, notAscii, checked⟩
  · rw [encoded, List.singleton_append, fromUtf8Loop, if_pos ascii, same]
    rfl
  · have consumed : index + 1 + ((continuations ++ rest).length - rest.length) =
        index + (lead :: continuations).length := by
      simp only [List.length_append, List.length_cons]
      omega
    rw [encoded, List.cons_append, fromUtf8Loop, if_neg (by omega), checked]
    dsimp only
    rw [consumed]

theorem fromUtf8LossyLoop_intoBytes (text : List Char) :
    ∀ fuel, text.length ≤ fuel → fromUtf8LossyLoop fuel (intoBytes text) = text := by
  induction text with
  | nil => intro fuel _; exact fromUtf8LossyLoop_nil fuel
  | cons c rest ih =>
    intro fuel enough
    obtain ⟨fuel, rfl⟩ : ∃ smaller, fuel = smaller + 1 := ⟨fuel - 1, by simp at enough; omega⟩
    rw [intoBytes, List.flatMap_cons, fromUtf8LossyLoop_utf8EncodeChar, ← intoBytes,
      ih fuel (by simpa using enough)]

theorem length_le_intoBytes (text : List Char) : text.length ≤ (intoBytes text).length := by
  induction text with
  | nil => simp
  | cons c rest ih =>
    have : 0 < (utf8EncodeChar c).length := List.length_pos_iff.mpr (utf8EncodeChar_ne_nil c)
    simp only [intoBytes, List.flatMap_cons, List.length_append, List.length_cons] at ih ⊢
    omega

/-- Lossy decoding gives back any text it is handed the UTF-8 encoding of. -/
theorem fromUtf8Lossy_intoBytes (text : List Char) : fromUtf8Lossy (intoBytes text) = text :=
  fromUtf8LossyLoop_intoBytes text _ (length_le_intoBytes text)

theorem fromUtf8Loop_intoBytes (text : List Char) :
    ∀ fuel index, text.length ≤ fuel → fromUtf8Loop fuel index (intoBytes text) = .ok text := by
  induction text with
  | nil => intro fuel index _; exact fromUtf8Loop_nil fuel index
  | cons c rest ih =>
    intro fuel index enough
    obtain ⟨fuel, rfl⟩ : ∃ smaller, fuel = smaller + 1 := ⟨fuel - 1, by simp at enough; omega⟩
    rw [intoBytes, List.flatMap_cons, fromUtf8Loop_utf8EncodeChar, ← intoBytes,
      ih fuel _ (by simpa using enough)]
    rfl

/-- `String::from_utf8` accepts the UTF-8 encoding of any text, as that text. -/
theorem fromUtf8_intoBytes (text : List Char) : fromUtf8 (intoBytes text) = .ok text :=
  fromUtf8Loop_intoBytes text _ 0 (length_le_intoBytes text)

/-! ### `str` methods -/

/-- `str::contains` with a string pattern: `pattern` occurs in `text`. -/
def contains (pattern : List Char) : List Char → Bool
  | [] => pattern.isEmpty
  | c :: rest => pattern.isPrefixOf (c :: rest) || contains pattern rest

/-- `char::is_whitespace`: the Unicode `White_Space` property. -/
def isWhitespace (c : Char) : Bool :=
  let n := c.toNat
  (0x09 ≤ n && n ≤ 0x0D) || n = 0x20 || n = 0x85 || n = 0xA0 || n = 0x1680 ||
    (0x2000 ≤ n && n ≤ 0x200A) || n = 0x2028 || n = 0x2029 || n = 0x202F || n = 0x205F ||
    n = 0x3000

/-- `str::trim`: leading and trailing whitespace removed. -/
def trim (text : List Char) : List Char :=
  ((text.dropWhile isWhitespace).reverse.dropWhile isWhitespace).reverse

/-- `str::split_once`: the text before and after the first occurrence of `sep`. -/
def splitOnce (sep : Char) : List Char → Option (List Char × List Char)
  | [] => none
  | c :: rest =>
      if c = sep then some ([], rest)
      else (splitOnce sep rest).map fun (before, after) => (c :: before, after)

/-- `str::split` on a character: every piece between separators, empty ones
included; the empty text is one empty piece. -/
def split (sep : Char) : List Char → List (List Char)
  | [] => [[]]
  | c :: rest =>
      match split sep rest with
      | [] => [[c]]
      | first :: others => if c = sep then [] :: first :: others else (c :: first) :: others

/-- `str::split_inclusive('\n')`: pieces that end with their line feed, and a
last piece without one unless the text ends with a line feed. -/
def splitInclusive (sep : Char) : List Char → List (List Char)
  | [] => []
  | c :: rest =>
      if c = sep then [c] :: splitInclusive sep rest
      else
        match splitInclusive sep rest with
        | [] => [[c]]
        | first :: others => (c :: first) :: others

/-- The line ending `str::lines` strips: a final `\n`, and then a `\r` before it. -/
def stripLineEnding (line : List Char) : List Char :=
  match line.reverse with
  | '\n' :: '\r' :: body => body.reverse
  | '\n' :: body => body.reverse
  | _ => line

/-- `str::lines`: `split_inclusive('\n')` with each line's ending stripped. -/
def lines (text : List Char) : List (List Char) :=
  (splitInclusive '\n' text).map stripLineEnding

/-! ### Request text

The HTTP front end reads its request with these. Positions count characters
where Rust counts bytes; every pattern searched for is ASCII, so both cut the
text at the same place.
-/

/-- `str::split` with a non-empty string pattern: the pieces between the
occurrences of `pattern`, found from the left, with the text's length as fuel. -/
def splitStrLoop (pattern : List Char) : Nat → List Char → List (List Char)
  | 0, _ => [[]]
  | _ + 1, [] => [[]]
  | fuel + 1, c :: rest =>
      match (c :: rest).dropPrefix? pattern with
      | some after => [] :: splitStrLoop pattern fuel after
      | none =>
          match splitStrLoop pattern fuel rest with
          | [] => [[c]]
          | first :: others => (c :: first) :: others

/-- `str::split` with a non-empty string pattern. -/
def splitStr (pattern text : List Char) : List (List Char) :=
  splitStrLoop pattern text.length text

/-- `str::split_whitespace`: the non-empty pieces between whitespace. -/
def splitWhitespace (text : List Char) : List (List Char) :=
  (text.splitOnP isWhitespace).filter fun piece => !piece.isEmpty

/-- `str::to_ascii_lowercase`. -/
def toAsciiLowercase (text : List Char) : List Char := text.map Char.toLower

/-- `str::eq_ignore_ascii_case`. -/
def eqIgnoreAsciiCase (text other : List Char) : Bool :=
  toAsciiLowercase text == toAsciiLowercase other

/-- `str::find` with a string pattern: where its first occurrence starts. -/
def find (pattern : List Char) : List Char → Option Nat
  | [] => if pattern.isEmpty then some 0 else none
  | c :: rest =>
      if pattern.isPrefixOf (c :: rest) then some 0 else (find pattern rest).map (· + 1)

/-- `str::rfind` with a character: where its last occurrence is. -/
def rfind (sep : Char) : List Char → Option Nat
  | [] => none
  | c :: rest =>
      match rfind sep rest with
      | some pos => some (pos + 1)
      | none => if c = sep then some 0 else none

/-- `str::trim_matches` with a character: every copy of it removed from both ends. -/
def trimMatches (sep : Char) (text : List Char) : List Char :=
  ((text.dropWhile (· == sep)).reverse.dropWhile (· == sep)).reverse

/-! ### splitOnce -/

theorem splitOnce_append {sep : Char} {before : List Char} (absent : sep ∉ before)
    (after : List Char) : splitOnce sep (before ++ sep :: after) = some (before, after) := by
  induction before with
  | nil => simp [splitOnce]
  | cons c before ih =>
    have : c ≠ sep ∧ sep ∉ before := by simpa [eq_comm] using absent
    simp [splitOnce, this.1, ih this.2]

theorem eq_of_splitOnce {sep : Char} {text before after : List Char}
    (split : splitOnce sep text = some (before, after)) :
    text = before ++ sep :: after ∧ sep ∉ before := by
  induction text generalizing before with
  | nil => simp [splitOnce] at split
  | cons c rest ih =>
    simp only [splitOnce] at split
    split_ifs at split with isSep
    · simp only [Option.some.injEq, Prod.mk.injEq] at split
      obtain ⟨rfl, rfl⟩ := split
      simp [isSep]
    · obtain ⟨⟨b, a⟩, inner, same⟩ := Option.map_eq_some_iff.mp split
      simp only [Prod.mk.injEq] at same
      obtain ⟨rfl, rfl⟩ := same
      obtain ⟨rfl, absent⟩ := ih inner
      simp [absent, Ne.symm isSep]

/-! ### trim -/

theorem trim_eq_rdropWhile (text : List Char) :
    trim text = (text.dropWhile isWhitespace).rdropWhile isWhitespace := rfl

theorem trim_sublist (text : List Char) : (trim text).Sublist text :=
  (List.rdropWhile_prefix _ _).sublist.trans (List.dropWhile_sublist _)

theorem trim_isInfix (text : List Char) : trim text <:+: text :=
  (List.rdropWhile_prefix _ _).isInfix.trans (List.dropWhile_suffix _).isInfix

theorem trimMatches_isInfix (sep : Char) (text : List Char) : trimMatches sep text <:+: text :=
  (List.rdropWhile_prefix _ _).isInfix.trans (List.dropWhile_suffix _).isInfix

theorem trim_space_cons (text : List Char) : trim (' ' :: text) = trim text := by
  rw [trim, List.dropWhile_cons_of_pos (by decide)]
  rfl

theorem dropWhile_of_head? {α : Type} {p : α → Bool} {l : List α}
    (keeps : ∀ c ∈ l.head?, p c = false) :
    l.dropWhile p = l := by
  cases l with
  | nil => rfl
  | cons c rest => simp_all

theorem trim_head? (text : List Char) : ∀ c ∈ (trim text).head?, isWhitespace c = false := by
  -- the first character left is one `dropWhile` stopped at
  intro c first
  rw [trim_eq_rdropWhile] at first
  obtain ⟨suffix, whole⟩ := List.rdropWhile_prefix isWhitespace (text.dropWhile isWhitespace)
  have nonempty : (text.dropWhile isWhitespace).rdropWhile isWhitespace ≠ [] := by
    rintro empty; simp [empty] at first
  have : (text.dropWhile isWhitespace).head? = some c := by
    rw [← whole, List.head?_append_of_ne_nil _ nonempty]; exact first
  simpa [this] using List.head?_dropWhile_not isWhitespace text

theorem trim_getLast? (text : List Char) : ∀ c ∈ (trim text).getLast?, isWhitespace c = false := by
  intro c last
  have nonempty : trim text ≠ [] := by rintro empty; simp [empty] at last
  have : c = (trim text).getLast nonempty := by
    rw [List.getLast?_eq_some_getLast nonempty] at last; exact (Option.some.inj last).symm
  subst this
  exact Bool.eq_false_iff.mpr
    (List.rdropWhile_last_not isWhitespace (text.dropWhile isWhitespace) nonempty)

/-- A text that neither starts nor ends with whitespace is its own trim. -/
theorem trim_eq_self {text : List Char} (first : ∀ c ∈ text.head?, isWhitespace c = false)
    (last : ∀ c ∈ text.getLast?, isWhitespace c = false) : trim text = text := by
  rw [trim_eq_rdropWhile, dropWhile_of_head? first, List.rdropWhile_eq_self_iff]
  intro nonempty
  simpa using last _ (List.getLast?_eq_some_getLast nonempty)

/-- A character the text does not hold is trimmed from neither end. -/
theorem trimMatches_of_not_mem {sep : Char} {text : List Char} (absent : sep ∉ text) :
    trimMatches sep text = text := by
  have keeps : ∀ piece : List Char, sep ∉ piece → piece.dropWhile (· == sep) = piece :=
    fun piece outside => dropWhile_of_head? fun c first => by
      have other : c ≠ sep := fun same => outside (same ▸ List.mem_of_mem_head? first)
      simpa using other
  rw [trimMatches, keeps text absent, keeps _ (by simpa using absent), List.reverse_reverse]

theorem trim_trim (text : List Char) : trim (trim text) = trim text :=
  trim_eq_self (trim_head? text) (trim_getLast? text)

theorem isWhitespace_of_isDigit {c : Char} (digit : c.isDigit = true) : isWhitespace c = false := by
  simp only [Char.isDigit, Bool.and_eq_true, decide_eq_true_eq] at digit
  have low : 48 ≤ c.toNat := digit.1
  have high : c.toNat ≤ 57 := digit.2
  unfold isWhitespace
  simp only [Bool.or_eq_false_iff, Bool.and_eq_false_iff, decide_eq_false_iff_not]
  omega

/-! ### Splitting on a string pattern -/

section SplitStr

variable {pattern : List Char}

theorem length_lt_of_dropPrefix? (nonempty : pattern ≠ []) {text after : List Char}
    (dropped : text.dropPrefix? pattern = some after) : after.length < text.length := by
  obtain ⟨front, rfl, same⟩ := List.dropPrefix?_eq_some_iff.mp dropped
  rw [beq_iff_eq.mp same, List.length_append]
  have : 0 < pattern.length := List.length_pos_iff.mpr nonempty
  omega

theorem dropPrefix?_eq_none_of_absent {text : List Char} (absent : ¬ pattern <+: text) :
    text.dropPrefix? pattern = none := by
  rcases dropped : text.dropPrefix? pattern with _ | after
  · rfl
  · obtain ⟨front, rfl, same⟩ := List.dropPrefix?_eq_some_iff.mp dropped
    rw [beq_iff_eq.mp same] at absent
    exact absurd (List.prefix_append _ _) absent

/-- Any fuel past the text's length gives the same pieces; by induction on the
fuel, each round consuming at least one character. -/
theorem splitStrLoop_fuel (nonempty : pattern ≠ []) :
    ∀ (fuel other : Nat) (text : List Char), text.length ≤ fuel → text.length ≤ other →
      splitStrLoop pattern fuel text = splitStrLoop pattern other text
  | fuel, other, [], _, _ => by
      cases fuel <;> cases other <;> rfl
  | 0, _, _ :: _, enough, _ => absurd enough (by simp)
  | _, 0, _ :: _, _, enough => absurd enough (by simp)
  | fuel + 1, other + 1, c :: rest, enough, enough' => by
      simp only [splitStrLoop]
      rcases dropped : (c :: rest).dropPrefix? pattern with _ | after <;> dsimp only
      · rw [splitStrLoop_fuel nonempty fuel other rest (by simpa using enough)
          (by simpa using enough')]
      · have shorter := length_lt_of_dropPrefix? nonempty dropped
        rw [splitStrLoop_fuel nonempty fuel other after (by simp at enough shorter; omega)
          (by simp at enough' shorter; omega)]

/-- Text with no occurrence of the pattern starting inside `piece`, then the
pattern: `piece` is the first piece. -/
theorem splitStr_append_pattern (nonempty : pattern ≠ []) {rest : List Char} :
    ∀ piece : List Char, (∀ k < piece.length, ¬ pattern <+: (piece ++ pattern ++ rest).drop k) →
      splitStr pattern (piece ++ pattern ++ rest) = piece :: splitStr pattern rest
  | [], _ => by
      obtain ⟨c, tail, rfl⟩ := List.exists_cons_of_ne_nil nonempty
      have dropped : (c :: tail ++ rest).dropPrefix? (c :: tail) = some rest :=
        List.dropPrefix?_append_of_beq rest (beq_self_eq_true _)
      rw [List.nil_append, splitStr]
      simp only [List.cons_append, List.length_cons, splitStrLoop] at dropped ⊢
      rw [dropped]
      dsimp only
      rw [splitStrLoop_fuel nonempty _ rest.length rest (by simp) le_rfl]
      rfl
  | c :: piece, clear => by
      have first : ¬ pattern <+: c :: (piece ++ pattern ++ rest) := clear 0 (by simp)
      have later : ∀ k < piece.length, ¬ pattern <+: (piece ++ pattern ++ rest).drop k :=
        fun k small => clear (k + 1) (by simpa using small)
      rw [splitStr]
      simp only [List.cons_append, List.length_cons, splitStrLoop]
      rw [dropPrefix?_eq_none_of_absent (by simpa using first)]
      dsimp only
      rw [splitStrLoop_fuel nonempty _ (piece ++ pattern ++ rest).length _ (by simp) le_rfl,
        ← splitStr, splitStr_append_pattern nonempty piece later]

/-- The first piece is where the text starts. -/
theorem prefix_of_splitStrLoop_head :
    ∀ (fuel : Nat) (text : List Char) {first : List Char} {others : List (List Char)},
      splitStrLoop pattern fuel text = first :: others → first <+: text
  | 0, _, _, _, split => by
      simp only [splitStrLoop, List.cons.injEq] at split
      rw [← split.1]
      exact List.nil_prefix
  | _ + 1, [], _, _, split => by
      simp only [splitStrLoop, List.cons.injEq] at split
      rw [← split.1]
  | fuel + 1, c :: rest, first, others, split => by
      simp only [splitStrLoop] at split
      split at split
      · simp only [List.cons.injEq] at split
        rw [← split.1]
        exact List.nil_prefix
      · split at split
        case h_1 => simp only [List.cons.injEq] at split; rw [← split.1]; simp
        case h_2 head tail later =>
          simp only [List.cons.injEq] at split
          rw [← split.1]
          exact List.cons_prefix_cons.mpr ⟨rfl, prefix_of_splitStrLoop_head fuel rest later⟩

/-- No piece holds the pattern. -/
theorem not_infix_of_mem_splitStrLoop (nonempty : pattern ≠ []) :
    ∀ (fuel : Nat) (text piece : List Char), piece ∈ splitStrLoop pattern fuel text →
      ¬ pattern <:+: piece
  | 0, _, piece, mem => by
      simp only [splitStrLoop, List.mem_singleton] at mem
      rw [mem]
      exact fun inside => nonempty (List.eq_nil_of_infix_nil inside)
  | _ + 1, [], piece, mem => by
      simp only [splitStrLoop, List.mem_singleton] at mem
      rw [mem]
      exact fun inside => nonempty (List.eq_nil_of_infix_nil inside)
  | fuel + 1, c :: rest, piece, mem => by
      simp only [splitStrLoop] at mem
      split at mem
      · rcases List.mem_cons.mp mem with rfl | later
        · exact fun inside => nonempty (List.eq_nil_of_infix_nil inside)
        · exact not_infix_of_mem_splitStrLoop nonempty fuel _ piece later
      case h_2 none =>
        -- a piece that starts with `c` would hold the pattern only at its start
        have notHere : ¬ pattern <+: c :: rest := fun here => by
          obtain ⟨after, whole⟩ := here
          rw [← whole, List.dropPrefix?_append_of_beq after (beq_self_eq_true _)] at none
          cases none
        split at mem
        case h_1 alone =>
          rw [List.mem_singleton.mp mem]
          intro inside
          rcases List.infix_cons_iff.mp inside with start | inner
          · exact notHere (start.trans (List.cons_prefix_cons.mpr ⟨rfl, List.nil_prefix⟩))
          · exact nonempty (List.eq_nil_of_infix_nil inner)
        case h_2 head tail later =>
          rcases List.mem_cons.mp mem with rfl | mem
          · intro inside
            rcases List.infix_cons_iff.mp inside with start | inner
            · exact notHere (start.trans (List.cons_prefix_cons.mpr
                ⟨rfl, prefix_of_splitStrLoop_head fuel rest later⟩))
            · exact not_infix_of_mem_splitStrLoop nonempty fuel rest head (by simp [later]) inner
          · exact not_infix_of_mem_splitStrLoop nonempty fuel rest piece (by simp [later, mem])

theorem not_infix_of_mem_splitStr (nonempty : pattern ≠ []) {text piece : List Char}
    (mem : piece ∈ splitStr pattern text) : ¬ pattern <:+: piece :=
  not_infix_of_mem_splitStrLoop nonempty _ text piece mem

end SplitStr

/-- A two-character pattern of distinct characters cannot start at the last
character of a piece it is not in: no occurrence starts inside the piece. -/
theorem clear_of_pair_absent {first second : Char} (distinct : first ≠ second)
    {piece rest : List Char} (absent : ¬ [first, second] <:+: piece) :
    ∀ k < piece.length, ¬ [first, second] <+: (piece ++ [first, second] ++ rest).drop k := by
  intro k small start
  rw [List.append_assoc, List.drop_append_of_le_length small.le] at start
  obtain ⟨x, tail, split⟩ := List.exists_cons_of_ne_nil
    (by simpa [List.drop_eq_nil_iff] using small : piece.drop k ≠ [])
  rw [split] at start
  cases tail with
  | nil =>
    -- the occurrence would start at the piece's last character
    simp only [List.cons_append, List.nil_append, List.cons_prefix_cons] at start
    exact distinct start.2.1.symm
  | cons y tail =>
    simp only [List.cons_append, List.cons_prefix_cons] at start
    have here : [first, second] <+: piece.drop k := by
      rw [split, start.1, start.2.1]
      exact ⟨tail, rfl⟩
    exact absent (here.isInfix.trans (List.drop_suffix k piece).isInfix)

/-- Pieces without a two-character pattern of distinct characters, each
followed by the pattern, split back into those pieces. -/
theorem splitStr_flatMap {first second : Char} (distinct : first ≠ second) (rest : List Char) :
    ∀ pieces : List (List Char), (∀ piece ∈ pieces, ¬ [first, second] <:+: piece) →
      splitStr [first, second] (pieces.flatMap (· ++ [first, second]) ++ rest) =
        pieces ++ splitStr [first, second] rest
  | [], _ => rfl
  | piece :: pieces, absent => by
      rw [List.flatMap_cons, List.append_assoc,
        splitStr_append_pattern (List.cons_ne_nil _ _) piece
          (clear_of_pair_absent distinct (absent piece List.mem_cons_self)),
        splitStr_flatMap distinct rest pieces fun other mem =>
          absent other (List.mem_cons_of_mem _ mem)]
      rfl

/-- An occurrence of a two-element pattern in `front ++ back` lies in one of
them or across the junction. -/
theorem pair_infix_append {α : Type} {a b : α} :
    ∀ {front back : List α}, [a, b] <:+: front ++ back →
      [a, b] <:+: front ∨ [a, b] <:+: back ∨ (front.getLast? = some a ∧ back.head? = some b)
  | [], _, inside => .inr (.inl inside)
  | c :: front, back, inside => by
      rcases List.infix_cons_iff.mp inside with start | inner
      · -- the occurrence starts at `c`: inside `c :: front`, or with `c` as its last element
        obtain ⟨rfl, afterFirst⟩ := List.cons_prefix_cons.mp start
        cases front with
        | nil =>
          obtain ⟨tail, whole⟩ := afterFirst
          change [b] ++ tail = back at whole
          rw [← whole]
          exact .inr (.inr ⟨rfl, rfl⟩)
        | cons d front =>
          obtain ⟨rfl, -⟩ := List.cons_prefix_cons.mp afterFirst
          exact .inl (List.prefix_append [a, b] front).isInfix
      · rcases pair_infix_append inner with here | there | ⟨last, first⟩
        · exact .inl (List.infix_cons here)
        · exact .inr (.inl there)
        · rw [List.getLast?_cons, last]
          exact .inr (.inr ⟨rfl, first⟩)

/-- A text without the pattern followed by elements that are neither of its
two does not hold it. -/
theorem not_pair_infix_append {α : Type} {a b : α} {front back : List α}
    (inFront : ¬ [a, b] <:+: front) (notFirst : a ∉ back) (notSecond : b ∉ back) :
    ¬ [a, b] <:+: front ++ back := by
  intro inside
  rcases pair_infix_append inside with here | there | ⟨-, first⟩
  · exact inFront here
  · exact notFirst (there.subset List.mem_cons_self)
  · exact notSecond (List.mem_of_head? first)

/-- Elements other than the pattern's first, followed by a text without the
pattern, do not hold it. -/
theorem not_pair_infix_append_left {α : Type} {a b : α} {front back : List α}
    (notFirst : a ∉ front) (inBack : ¬ [a, b] <:+: back) : ¬ [a, b] <:+: front ++ back := by
  intro inside
  rcases pair_infix_append inside with here | there | ⟨last, -⟩
  · exact notFirst (here.subset List.mem_cons_self)
  · exact inBack there
  · exact notFirst (List.mem_of_getLast? last)

/-- A search whose every hit gives `r`, over a list with a hit, finds `r`. -/
theorem findSome?_of_hits {α β : Type} {f : α → Option β} {r : β} :
    ∀ {l : List α}, (∀ x ∈ l, f x = none ∨ f x = some r) → (∃ x ∈ l, f x = some r) →
      l.findSome? f = some r
  | [], _, ⟨_, mem, _⟩ => absurd mem List.not_mem_nil
  | x :: l, agree, ⟨y, mem, hit⟩ => by
      rw [List.findSome?_cons]
      rcases agree x List.mem_cons_self with miss | found
      · -- the hit is further on
        have later : y ∈ l := by
          rcases List.mem_cons.mp mem with rfl | later
          · rw [miss] at hit
            cases hit
          · exact later
        rw [miss]
        exact findSome?_of_hits (fun z inL => agree z (List.mem_cons_of_mem _ inL)) ⟨y, later, hit⟩
      · rw [found]

/-! ### split_whitespace -/

/-- No piece `List.splitOnP` cuts holds an element it splits on. -/
theorem not_of_mem_splitOnP {α : Type} {p : α → Bool} :
    ∀ {xs piece : List α}, piece ∈ xs.splitOnP p → ∀ x ∈ piece, p x = false
  | [], piece, mem => by
      rw [List.splitOnP_nil, List.mem_singleton] at mem
      simp [mem]
  | x :: xs, piece, mem => by
      rw [List.splitOnP_cons_eq_if_modifyHead] at mem
      split at mem
      · rcases List.mem_cons.mp mem with rfl | later
        · simp
        · exact not_of_mem_splitOnP later
      case isFalse cut =>
        -- `x` joins the first piece of the rest
        obtain ⟨head, tail, pieces⟩ := List.exists_cons_of_ne_nil (List.splitOnP_ne_nil p xs)
        rw [pieces, List.modifyHead_cons] at mem
        have inPieces : ∀ other ∈ head :: tail, ∀ y ∈ other, p y = false := by
          rw [← pieces]
          exact fun other mem => not_of_mem_splitOnP mem
        rcases List.mem_cons.mp mem with rfl | later
        · intro y mem
          rcases List.mem_cons.mp mem with rfl | inHead
          · simpa using cut
          · exact inPieces head List.mem_cons_self y inHead
        · exact inPieces piece (List.mem_cons_of_mem _ later)

/-- A piece `split_whitespace` returns: non-empty, without whitespace. -/
def Word (text : List Char) : Prop := text ≠ [] ∧ ∀ c ∈ text, isWhitespace c = false

theorem Word.not_mem {word : List Char} (isWord : Word word) {c : Char}
    (space : isWhitespace c = true) : c ∉ word := fun mem => by
  rw [isWord.2 c mem] at space
  cases space

theorem mem_splitWhitespace {text piece : List Char} (mem : piece ∈ splitWhitespace text) :
    Word piece := by
  obtain ⟨cut, kept⟩ := List.mem_filter.mp mem
  exact ⟨by simpa using kept, not_of_mem_splitOnP cut⟩

/-- A word, a space and the rest of the text: the word is the first piece. -/
theorem splitWhitespace_append_space {word : List Char} (isWord : Word word) (rest : List Char) :
    splitWhitespace (word ++ ' ' :: rest) = word :: splitWhitespace rest := by
  rw [splitWhitespace, List.splitOnP_append_cons_of_forall_mem isWord.2 ' ' (by decide),
    List.filter_cons_of_pos (by simpa using isWord.1)]
  rfl

theorem splitWhitespace_word {word : List Char} (isWord : Word word) :
    splitWhitespace word = [word] := by
  rw [splitWhitespace, List.splitOnP_eq_singleton isWord.2,
    List.filter_cons_of_pos (by simpa using isWord.1)]
  rfl

/-! ### rfind -/

theorem rfind_eq_none {sep : Char} {text : List Char} (absent : sep ∉ text) :
    rfind sep text = none := by
  induction text with
  | nil => rfl
  | cons c rest ih =>
    have : c ≠ sep ∧ sep ∉ rest := by simpa [eq_comm] using absent
    simp [rfind, ih this.2, this.1]

/-- The last separator is found where it stands, after everything before it. -/
theorem rfind_append {sep : Char} (before : List Char) {after : List Char} (absent : sep ∉ after) :
    rfind sep (before ++ sep :: after) = some before.length := by
  induction before with
  | nil => simp [rfind, rfind_eq_none absent]
  | cons c before ih => simp [rfind, ih]

/-! ### lines -/

theorem splitInclusive_append {sep : Char} {piece : List Char} (absent : sep ∉ piece)
    (rest : List Char) :
    splitInclusive sep (piece ++ sep :: rest) = (piece ++ [sep]) :: splitInclusive sep rest := by
  induction piece with
  | nil => simp [splitInclusive]
  | cons c piece ih =>
    have : c ≠ sep ∧ sep ∉ piece := by simpa [eq_comm] using absent
    simp [splitInclusive, this.1, ih this.2]

theorem splitInclusive_of_not_mem {sep : Char} {piece : List Char} (absent : sep ∉ piece)
    (nonempty : piece ≠ []) : splitInclusive sep piece = [piece] := by
  induction piece with
  | nil => contradiction
  | cons c piece ih =>
    have : c ≠ sep ∧ sep ∉ piece := by simpa [eq_comm] using absent
    cases piece with
    | nil => simp [splitInclusive, this.1]
    | cons d piece => rw [splitInclusive, if_neg this.1, ih this.2 (List.cons_ne_nil _ _)]

theorem stripLineEnding_of_getLast? {line : List Char} (noNewline : line.getLast? ≠ some '\n') :
    stripLineEnding line = line := by
  unfold stripLineEnding
  split
  · rename_i body reversed
    exact absurd (by rw [← List.head?_reverse, reversed]; rfl) noNewline
  · rename_i body reversed
    exact absurd (by rw [← List.head?_reverse, reversed]; rfl) noNewline
  · rfl

theorem stripLineEnding_append_newline {line : List Char} (noReturn : line.getLast? ≠ some '\r') :
    stripLineEnding (line ++ ['\n']) = line := by
  unfold stripLineEnding
  rw [List.reverse_append, List.reverse_singleton, List.singleton_append]
  split
  · rename_i body reversed
    simp only [List.cons.injEq, true_and] at reversed
    exact absurd (by rw [← List.head?_reverse, reversed]; rfl) noReturn
  · rename_i body reversed
    simp only [List.cons.injEq, true_and] at reversed
    rw [← reversed, List.reverse_reverse]
  · rename_i notReturn notNewline
    exact absurd rfl (notNewline line.reverse)

theorem stripLineEnding_isPrefix (body : List Char) : stripLineEnding (body ++ ['\n']) <+: body := by
  unfold stripLineEnding
  rw [List.reverse_append, List.reverse_singleton, List.singleton_append]
  split
  · rename_i rest reversed
    simp only [List.cons.injEq, true_and] at reversed
    rw [← List.reverse_reverse body, reversed, List.reverse_cons]
    exact List.prefix_append _ _
  · rename_i rest reversed
    simp only [List.cons.injEq, true_and] at reversed
    rw [← reversed, List.reverse_reverse]
  · rename_i notReturn notNewline
    exact absurd rfl (notNewline body.reverse)

theorem lines_intercalate {pieces : List (List Char)} (absent : ∀ piece ∈ pieces, '\n' ∉ piece)
    (nonempty : ∀ piece ∈ pieces, piece ≠ [])
    (noReturn : ∀ piece ∈ pieces, piece.getLast? ≠ some '\r') :
    lines (['\n'].intercalate pieces) = pieces := by
  induction pieces with
  | nil => rfl
  | cons piece rest ih =>
    simp only [List.forall_mem_cons] at absent nonempty noReturn
    cases rest with
    | nil =>
      -- the last line has no line feed after it
      have noNewline : piece.getLast? ≠ some '\n' := fun last => absent.1 (List.mem_of_getLast? last)
      simp [lines, splitInclusive_of_not_mem absent.1 nonempty.1, stripLineEnding_of_getLast? noNewline]
    | cons next rest =>
      rw [List.intercalate_cons_cons, List.append_assoc, List.singleton_append, lines,
        splitInclusive_append absent.1, List.map_cons, ← lines,
        stripLineEnding_append_newline noReturn.1, ih absent.2 nonempty.2 noReturn.2]

/-- Every piece of split_inclusive is a text without the separator, or one
followed by the separator. -/
theorem splitInclusive_pieces (sep : Char) (text : List Char) :
    ∀ piece ∈ splitInclusive sep text,
      sep ∉ piece ∨ ∃ body, piece = body ++ [sep] ∧ sep ∉ body := by
  induction text with
  | nil => simp [splitInclusive]
  | cons c rest ih =>
    unfold splitInclusive
    split_ifs with isSep
    · simp only [List.mem_cons, forall_eq_or_imp]
      exact ⟨.inr ⟨[], by simp [isSep], by simp⟩, ih⟩
    · rcases split : splitInclusive sep rest with _ | ⟨first, others⟩
      · simp [Ne.symm isSep]
      · rw [split] at ih
        simp only [List.mem_cons, forall_eq_or_imp] at ih ⊢
        refine ⟨?_, ih.2⟩
        rcases ih.1 with absent | ⟨body, rfl, absent⟩
        · exact .inl (by simp [absent, Ne.symm isSep])
        · exact .inr ⟨c :: body, rfl, by simp [absent, Ne.symm isSep]⟩

theorem newline_not_mem_lines {text line : List Char} (mem : line ∈ lines text) : '\n' ∉ line := by
  obtain ⟨piece, inSplit, rfl⟩ := List.mem_map.mp mem
  rcases splitInclusive_pieces '\n' text piece inSplit with absent | ⟨body, rfl, absent⟩
  · rw [stripLineEnding_of_getLast? fun last => absent (List.mem_of_getLast? last)]
    exact absent
  · exact fun inLine => absent ((stripLineEnding_isPrefix body).subset inLine)

/-! ### Integer parsing -/

/-- The value of a non-empty string of ASCII digits. -/
def digitsValue : List Char → Option Nat
  | [] => none
  | first :: rest =>
      (first :: rest).foldl (fun acc c => acc.bind fun value =>
        if c.isDigit then some (value * 10 + (c.toNat - '0'.toNat)) else none) (some 0)

/-- `u{N}::from_str` for an unsigned type with maximum `max`: an optional `+`,
then digits, in range. -/
def parseUnsigned (max : Nat) : List Char → Option Nat
  | ['+'] => none
  | '+' :: digits => (digitsValue digits).filter (· ≤ max)
  | digits => (digitsValue digits).filter (· ≤ max)

/-- `i{N}::from_str` for a signed type with range `[-bound, bound - 1]`: an
optional sign, then digits, in range. -/
def parseSigned (bound : Nat) : List Char → Option Int
  | ['+'] => none
  | ['-'] => none
  | '+' :: digits => ((digitsValue digits).filter (· < bound)).map Int.ofNat
  | '-' :: digits => ((digitsValue digits).filter (· ≤ bound)).map fun value => -(value : Int)
  | digits => ((digitsValue digits).filter (· < bound)).map Int.ofNat

/-- `u32::from_str`. -/
def parseU32 (text : List Char) : Option Nat := parseUnsigned (2 ^ 32 - 1) text

/-- `u8::from_str`. -/
def parseU8 (text : List Char) : Option Nat := parseUnsigned (2 ^ 8 - 1) text

/-- `u16::from_str`. -/
def parseU16 (text : List Char) : Option Nat := parseUnsigned (2 ^ 16 - 1) text

/-- `i64::from_str`. -/
def parseI64 (text : List Char) : Option Int := parseSigned (2 ^ 63) text

/-- `format!("{:02x}")` for a byte: two lower-case hexadecimal digits. -/
def lowerHex2 (byte : UInt8) : List Char :=
  let digits := Nat.toDigits 16 byte.toNat
  if digits.length < 2 then '0' :: digits else digits

/-! ### Reading back a decimal -/

theorem digitChar_value {d : Nat} (small : d < 10) :
    (Nat.digitChar d).isDigit = true ∧ (Nat.digitChar d).toNat - '0'.toNat = d := by
  interval_cases d <;> decide

theorem decimal_ne_nil (value : Nat) : decimal value ≠ [] := by
  rw [decimal, Nat.toDigits_eq_if (by norm_num)]
  split <;> simp

theorem isDigit_of_mem_decimal {value : Nat} {c : Char} (mem : c ∈ decimal value) :
    c.isDigit = true :=
  Nat.isDigit_of_mem_toDigits (by norm_num) (by norm_num) mem

/-- The digit loop of `digitsValue` reads the digits of `value` back as `value`;
by strong induction, the last digit coming off the end. -/
theorem foldl_digits_decimal (value : Nat) :
    (decimal value).foldl (fun acc c => acc.bind fun value =>
      if c.isDigit then some (value * 10 + (c.toNat - '0'.toNat)) else none) (some 0) =
      some value := by
  induction value using Nat.strong_induction_on with
  | _ value ih =>
    rw [decimal, Nat.toDigits_eq_if (by norm_num)]
    split
    case isTrue small =>
      have only := digitChar_value small
      simp only [List.foldl_cons, List.foldl_nil, Option.bind_some, only, if_true, zero_mul,
        zero_add]
    case isFalse large =>
      have last := digitChar_value (Nat.mod_lt value (by norm_num : 10 > 0))
      rw [List.foldl_append, ← decimal, ih (value / 10) (by omega)]
      simp only [List.foldl_cons, List.foldl_nil, Option.bind_some, last, if_true]
      congr 1
      omega

theorem parseUnsigned_le {max value : Nat} {text : List Char}
    (parsed : parseUnsigned max text = some value) : value ≤ max := by
  unfold parseUnsigned at parsed
  split at parsed
  · cases parsed
  all_goals exact of_decide_eq_true (Option.filter_eq_some_iff.mp parsed).2

theorem parseUnsigned_decimal {max value : Nat} (le : value ≤ max) :
    parseUnsigned max (decimal value) = some value := by
  obtain ⟨first, rest, split⟩ := List.exists_cons_of_ne_nil (decimal_ne_nil value)
  have notSign : first ≠ '+' := by
    rintro rfl
    have := isDigit_of_mem_decimal (split ▸ List.mem_cons_self : '+' ∈ decimal value)
    exact absurd this (by decide)
  have digits : digitsValue (decimal value) = some value := by
    rw [split, digitsValue, ← split, foldl_digits_decimal]
  rw [split]
  unfold parseUnsigned
  split
  · simp_all
  · simp_all
  · rw [← split, digits]
    simp [le]

/-! ### `ParseIntError`

`from_str` reports why it refused a text. The digit loop of `from_str_radix`
looks at one character at a time and stops at the first that is not a digit or
that takes the value past the type's maximum; which error comes first depends
on the order, so the loop is modelled as it runs. Its result without the error
is `parseUnsigned`. -/

/-- The kinds of `ParseIntError` an unsigned `from_str` returns. -/
inductive IntErrorKind
  | empty
  | invalidDigit
  | posOverflow
  deriving DecidableEq, Repr

/-- `Display for ParseIntError`. -/
def IntErrorKind.description : IntErrorKind → List Char
  | .empty => "cannot parse integer from empty string".toList
  | .invalidDigit => "invalid digit found in string".toList
  | .posOverflow => "number too large to fit in target type".toList

/-- The digit loop of `from_str_radix` in base 10, from `value`. -/
def digitsLoop (max : Nat) : Nat → List Char → Except IntErrorKind Nat
  | value, [] => .ok value
  | value, c :: rest =>
      if c.isDigit then
        if value * 10 + (c.toNat - '0'.toNat) ≤ max then
          digitsLoop max (value * 10 + (c.toNat - '0'.toNat)) rest
        else .error .posOverflow
      else .error .invalidDigit

/-- `u{N}::from_str` with its error, for an unsigned type with maximum `max`:
the empty text, a lone sign, then the digit loop after an optional `+`. -/
def parseUnsignedResult (max : Nat) : List Char → Except IntErrorKind Nat
  | [] => .error .empty
  | ['+'] => .error .invalidDigit
  | ['-'] => .error .invalidDigit
  | '+' :: digits => digitsLoop max 0 digits
  | digits => digitsLoop max 0 digits

/-- One step of the fold of `digitsValue`. -/
def digitStep (acc : Option Nat) (c : Char) : Option Nat :=
  acc.bind fun value => if c.isDigit then some (value * 10 + (c.toNat - '0'.toNat)) else none

theorem foldl_digitStep_none (digits : List Char) : digits.foldl digitStep none = none := by
  induction digits with
  | nil => rfl
  | cons c rest ih => exact ih

/-- The fold only grows the value. -/
theorem le_of_foldl_digitStep {digits : List Char} :
    ∀ {value result : Nat}, digits.foldl digitStep (some value) = some result → value ≤ result := by
  induction digits with
  | nil =>
      intro value result folded
      cases folded
      exact le_refl _
  | cons c rest ih =>
      intro value result folded
      by_cases digit : c.isDigit = true
      · have grown := ih (by simpa [digitStep, digit] using folded)
        omega
      · simp [digitStep, digit, foldl_digitStep_none] at folded

/-- From a value within range, the loop succeeds exactly when the fold gives a
value within range, with that value: the values along the way only grow, so
the first one past `max` leaves the last one past it. -/
theorem digitsLoop_toOption {max : Nat} {digits : List Char} :
    ∀ {value : Nat}, value ≤ max →
      (digitsLoop max value digits).toOption = (digits.foldl digitStep (some value)).filter (· ≤ max) := by
  induction digits with
  | nil =>
      intro value within
      simp [digitsLoop, Except.toOption, Option.filter_some, within]
  | cons c rest ih =>
      intro value within
      by_cases digit : c.isDigit = true
      · have stepped : digitStep (some value) c = some (value * 10 + (c.toNat - '0'.toNat)) := by
          simp [digitStep, digit]
        rw [List.foldl_cons, stepped, digitsLoop, if_pos digit]
        by_cases fits : value * 10 + (c.toNat - '0'.toNat) ≤ max
        · rw [if_pos fits, ih fits]
        · rw [if_neg fits]
          cases folded : rest.foldl digitStep (some (value * 10 + (c.toNat - '0'.toNat))) with
          | none => rfl
          | some result =>
              have grown := le_of_foldl_digitStep folded
              simp only [Option.filter_some, decide_eq_true_eq]
              rw [if_neg (by omega)]
              rfl
      · simp [digitsLoop, digitStep, digit, foldl_digitStep_none, Except.toOption]

/-- Without its error, `from_str` is `parseUnsigned`. -/
theorem parseUnsignedResult_toOption (max : Nat) (text : List Char) :
    (parseUnsignedResult max text).toOption = parseUnsigned max text := by
  unfold parseUnsignedResult
  split
  · rfl
  · rfl
  · simp [Except.toOption, parseUnsigned, digitsValue]
  · rename_i digits nonempty
    obtain ⟨d, rest, rfl⟩ := List.exists_cons_of_ne_nil nonempty
    rw [digitsLoop_toOption (Nat.zero_le _)]
    rfl
  · rename_i digits notEmpty notPlus notMinus notSigned
    obtain ⟨c, rest, rfl⟩ := List.exists_cons_of_ne_nil notEmpty
    rw [digitsLoop_toOption (Nat.zero_le _)]
    unfold parseUnsigned
    split <;> simp_all
    rfl

/-! ### Digits in any base -/

/-- Every character `Nat.toDigits` writes is the digit character of a digit of
the base; by induction on the fuel of `toDigitsCore`. -/
theorem digitChar_of_mem_toDigits {base n : Nat} {c : Char} (positive : 0 < base)
    (mem : c ∈ Nat.toDigits base n) : ∃ d < base, c = d.digitChar := by
  suffices core : ∀ fuel n (written : List Char), (∀ c ∈ written, ∃ d < base, c = d.digitChar) →
      ∀ c ∈ Nat.toDigitsCore base fuel n written, ∃ d < base, c = d.digitChar from
    core _ n [] (by simp) c mem
  intro fuel
  induction fuel with
  | zero => exact fun _ _ earlier => earlier
  | succ fuel ih =>
      intro n written earlier c mem
      have last : ∀ c ∈ (n % base).digitChar :: written, ∃ d < base, c = d.digitChar := by
        intro c mem
        rcases List.mem_cons.mp mem with rfl | mem
        · exact ⟨_, Nat.mod_lt _ positive, rfl⟩
        · exact earlier c mem
      rw [Nat.toDigitsCore] at mem
      split at mem
      · exact last c mem
      · exact ih _ _ last c mem

theorem digitChar_of_mem_lowerHex2 {byte : UInt8} {c : Char} (mem : c ∈ lowerHex2 byte) :
    ∃ d < 16, c = d.digitChar := by
  unfold lowerHex2 at mem
  dsimp only at mem
  split at mem
  · rcases List.mem_cons.mp mem with rfl | mem
    · exact ⟨0, by norm_num, rfl⟩
    · exact digitChar_of_mem_toDigits (by norm_num) mem
  · exact digitChar_of_mem_toDigits (by norm_num) mem

end RustText
