/-
# Writing a buffer with padding

`Session::write_with_padding` cuts the bytes of one `write_frame` call into TLS
records of the sizes the padding scheme draws for the current packet number.
A record larger than what is left gets the rest of the payload and a `Waste`
frame of zeros that fills it up; a record with no payload left is a `Waste`
frame alone; a check mark ends the loop once the payload is gone. The `Waste`
header narrows its length to `u16`, and a size is widened from `i32` to `usize`
with sign extension, so negative sizes ask for allocations that panic.

`paddingLoop_flatten` shows that for sizes that fit the sixteen-bit length
field, the bytes written are the payload followed by whole `Waste` frames. A
larger size yields a `Waste` header that lies (`writeWithPadding_oversized_record`).
-/

import AnyTls.Protocol.Codec
import AnyTls.Padding.Factory

namespace AnyTls

/-- A Rust panic in the writing task. -/
inductive Panic
  | capacityOverflow
  deriving DecidableEq, Repr

/-- `size as usize` for an `i32` size: sign extension to 64 bits. -/
def asUsize (size : Int) : Nat := if size < 0 then (2 ^ 64 + size).toNat else size.toNat

/-- `vec![0u8; len]`: zeros, and a capacity-overflow panic past `isize::MAX`. -/
def zeros (len : Nat) : Except Panic (List UInt8) :=
  if 2 ^ 63 - 1 < len then .error .capacityOverflow else .ok (List.replicate len 0)

/-- The `Waste` frame header `write_with_padding` writes for `len` zero bytes:
stream id 0 and the length narrowed with `as u16`. -/
def paddingHeader (len : Nat) : List UInt8 :=
  Command.waste.toU8 :: BigEndian.toBytes 4 0 ++ BigEndian.toBytes 2 (len % 2 ^ 16)

/-- The padding frame: the header, then `vec![0u8; len]`. -/
def paddingFrame (len : Nat) : Except Panic (List UInt8) :=
  (zeros len).map (paddingHeader len ++ ·)

/-- The loop of `write_with_padding` over the record sizes, from the payload
still to send: the chunks handed to `write_all` in order, and then either the
payload left when the sizes run out or the panic that stopped the loop. -/
def paddingLoop : List Int → List UInt8 → List (List UInt8) × Except Panic (List UInt8)
  | [], buffer => ([], .ok buffer)
  | size :: sizes, buffer =>
      if size = checkMark then
        -- a check mark stops the loop once the payload is gone
        if buffer.length = 0 then ([], .ok buffer) else paddingLoop sizes buffer
      else
        let size := asUsize size
        if size < buffer.length then
          let later := paddingLoop sizes (buffer.drop size)
          (buffer.take size :: later.1, later.2)
        else if 0 < buffer.length then
          let paddingLen := size - (buffer.length + headerOverheadSize)
          let record := if 0 < paddingLen then (paddingFrame paddingLen).map (buffer ++ ·)
            else .ok buffer
          match record with
          | .error panic => ([], .error panic)
          | .ok record =>
              let later := paddingLoop sizes []
              (record :: later.1, later.2)
        else
          match paddingFrame size with
          | .error panic => ([], .error panic)
          | .ok record =>
              let later := paddingLoop sizes []
              (record :: later.1, later.2)

/-- What `write_with_padding` reads of the session: whether it pads, the
packet counter (an `AtomicU32`), and the padding factory. -/
structure PaddingState where
  sendPadding : Bool
  pktCounter : Nat
  padding : PaddingFactory

/-- `Session::write_with_padding`, with the writer's calls succeeding: the state
afterwards, the chunks handed to `write_all`, and whether it panicked. -/
def writeWithPadding (state : PaddingState) (random : Nat → Int → Int → Int)
    (buffer : List UInt8) : PaddingState × List (List UInt8) × Except Panic Unit :=
  if !state.sendPadding then (state, [buffer], .ok ())
  else
    -- `fetch_add(1)` returns the old value and wraps at `2 ^ 32`
    let pkt := state.pktCounter
    let state := { state with pktCounter := (pkt + 1) % 2 ^ 32 }
    if state.padding.stop ≤ pkt then (state, [buffer], .ok ())
    else
      match state.padding.generateRecordPayloadSizes random pkt with
      | [] => (state, [buffer], .ok ())
      | sizes =>
          match paddingLoop sizes buffer with
          | (writes, .error panic) => (state, writes, .error panic)
          | (writes, .ok rest) => (state, writes ++ (if rest.isEmpty then [] else [rest]), .ok ())

/-! ### Sizes that fit the length field -/

/-- The encoding of a `Waste` frame of `len` zeros. -/
def wasteFrame (len : Nat) : List UInt8 := FrameCodec.encode ⟨.waste, 0, List.replicate len 0⟩

theorem zeros_of_le {len : Nat} (fits : len ≤ 2 ^ 63 - 1) :
    zeros len = .ok (List.replicate len 0) := by
  unfold zeros
  rw [if_neg (by omega)]

/-- For lengths that fit, the padding frame is the encoding of a `Waste` frame. -/
theorem paddingFrame_of_lt {len : Nat} (fits : len < 2 ^ 16) :
    paddingFrame len = .ok (wasteFrame len) := by
  rw [paddingFrame, zeros_of_le (by omega)]
  simp [Except.map, paddingHeader, wasteFrame, FrameCodec.encode]

/-- A record size the length field can describe: a check mark, or a size in
`[0, 65535]`. -/
def SizeFits (size : Int) : Prop := size = checkMark ∨ (0 ≤ size ∧ size < 2 ^ 16)

theorem asUsize_of_fits {size : Int} (fits : SizeFits size) (mark : size ≠ checkMark) :
    asUsize size = size.toNat ∧ size.toNat < 2 ^ 16 := by
  have range := fits.resolve_left mark
  refine ⟨by simp [asUsize, not_lt.mpr range.1], by omega⟩

/-- From an empty buffer, sizes that fit make the loop write whole `Waste`
frames and nothing else. -/
theorem paddingLoop_nil :
    ∀ sizes : List Int, (∀ size ∈ sizes, SizeFits size) →
      ∃ pads : List Nat, paddingLoop sizes [] = (pads.map wasteFrame, .ok []) ∧
        ∀ pad ∈ pads, pad < 2 ^ 16 := by
  intro sizes
  induction sizes with
  | nil => exact fun _ => ⟨[], rfl, by simp⟩
  | cons size sizes ih =>
      intro fit
      by_cases mark : size = checkMark
      · exact ⟨[], by simp [paddingLoop, mark], by simp⟩
      · obtain ⟨widened, small⟩ := asUsize_of_fits (List.forall_mem_cons.mp fit).1 mark
        obtain ⟨pads, later, padsSmall⟩ := ih (List.forall_mem_cons.mp fit).2
        refine ⟨size.toNat :: pads, ?_, List.forall_mem_cons.mpr ⟨small, padsSmall⟩⟩
        simp [paddingLoop, mark, widened, paddingFrame_of_lt small, later]

/-- With sizes that fit, the loop never panics, and the bytes written followed by
the payload left over are the payload followed by whole `Waste` frames; padding
is written only once the payload is gone. -/
theorem paddingLoop_flatten :
    ∀ (sizes : List Int) (buffer : List UInt8), (∀ size ∈ sizes, SizeFits size) →
      ∃ (rest : List UInt8) (pads : List Nat), (paddingLoop sizes buffer).2 = .ok rest ∧
        (∀ pad ∈ pads, pad < 2 ^ 16) ∧
        (paddingLoop sizes buffer).1.flatten ++ rest = buffer ++ (pads.map wasteFrame).flatten ∧
        (rest = [] ∨ pads = []) := by
  intro sizes
  induction sizes with
  | nil =>
      intro buffer _
      exact ⟨buffer, [], rfl, by simp, by simp [paddingLoop], .inr rfl⟩
  | cons size sizes ih =>
      intro buffer fit
      have fitRest : ∀ other ∈ sizes, SizeFits other := (List.forall_mem_cons.mp fit).2
      by_cases mark : size = checkMark
      · by_cases drained : buffer.length = 0
        · have empty : buffer = [] := List.eq_nil_of_length_eq_zero drained
          refine ⟨buffer, [], ?_, by simp, ?_, .inr rfl⟩ <;> simp [paddingLoop, mark, drained]
        · obtain ⟨rest, pads, done, small, bytes, either⟩ := ih buffer fitRest
          refine ⟨rest, pads, ?_, small, ?_, either⟩ <;> simpa [paddingLoop, mark, drained]
      · obtain ⟨widened, sizeSmall⟩ := asUsize_of_fits (List.forall_mem_cons.mp fit).1 mark
        obtain ⟨tailPads, tailLoop, tailSmall⟩ := paddingLoop_nil sizes fitRest
        by_cases split : size.toNat < buffer.length
        -- the record is all payload: the rest of the payload goes on
        · obtain ⟨rest, pads, done, small, bytes, either⟩ := ih (buffer.drop size.toNat) fitRest
          refine ⟨rest, pads, ?_, small, ?_, either⟩
          · simp [paddingLoop, mark, widened, split, done]
          · simp only [paddingLoop, mark, widened, split, if_false, if_true, List.flatten_cons,
              List.append_assoc, bytes]
            rw [← List.append_assoc, List.take_append_drop]
        · by_cases payload : 0 < buffer.length
          -- the last payload, filled up by a padding frame when there is room
          · by_cases room : 0 < size.toNat - (buffer.length + headerOverheadSize)
            · have padSmall : size.toNat - (buffer.length + headerOverheadSize) < 2 ^ 16 := by
                omega
              refine ⟨[], (size.toNat - (buffer.length + headerOverheadSize)) :: tailPads, ?_,
                List.forall_mem_cons.mpr ⟨padSmall, tailSmall⟩, ?_, .inl rfl⟩ <;>
                simp [paddingLoop, mark, widened, split, payload, room, paddingFrame_of_lt padSmall,
                  tailLoop, Except.map]
            · refine ⟨[], tailPads, ?_, tailSmall, ?_, .inl rfl⟩ <;>
                simp [paddingLoop, mark, widened, split, payload, room, tailLoop]
          -- no payload left: the record is padding alone
          · have empty : buffer = [] := List.eq_nil_of_length_eq_zero (by omega)
            subst empty
            refine ⟨[], size.toNat :: tailPads, ?_, List.forall_mem_cons.mpr ⟨sizeSmall, tailSmall⟩,
              ?_, .inl rfl⟩ <;>
              simp [paddingLoop, mark, widened, paddingFrame_of_lt sizeSmall, tailLoop]

/-- One `write_with_padding` call whose drawn sizes fit the length field writes
the buffer followed by whole `Waste` frames, and does not panic. -/
theorem writeWithPadding_flatten (state : PaddingState) (random : Nat → Int → Int → Int)
    (buffer : List UInt8)
    (fits : ∀ size ∈ state.padding.generateRecordPayloadSizes random state.pktCounter,
      SizeFits size) :
    ∃ pads : List Nat, (writeWithPadding state random buffer).2.2 = .ok () ∧
      (∀ pad ∈ pads, pad < 2 ^ 16) ∧
      (writeWithPadding state random buffer).2.1.flatten = buffer ++ (pads.map wasteFrame).flatten := by
  unfold writeWithPadding
  cases padded : state.sendPadding with
  | false => exact ⟨[], by simp⟩
  | true =>
      by_cases stopped : state.padding.stop ≤ state.pktCounter
      · exact ⟨[], by simp [stopped]⟩
      · cases sizes : state.padding.generateRecordPayloadSizes random state.pktCounter with
        | nil => exact ⟨[], by simp [stopped, sizes]⟩
        | cons size others =>
            rw [sizes] at fits
            obtain ⟨rest, pads, done, small, bytes, either⟩ := paddingLoop_flatten _ buffer fits
            rcases loop : paddingLoop (size :: others) buffer with ⟨writes, outcome⟩
            rw [loop] at done bytes
            simp only at done bytes
            subst done
            refine ⟨pads, by simp [stopped, sizes, loop], small, ?_⟩
            simp only [stopped, sizes, loop, Bool.not_true, if_false]
            rcases either with empty | noPads
            · subst empty
              simpa using bytes
            · subst noPads
              by_cases leftover : rest = []
              · subst leftover
                simpa using bytes
              · simpa [leftover] using bytes

/-- The last payload in a record with room to spare is filled up with a padding
frame of exactly the spare room, whatever its size: its header carries that size
modulo `2 ^ 16`. -/
theorem paddingLoop_last_record {size : Int} {buffer : List UInt8} (positive : 0 ≤ size)
    (mark : size ≠ checkMark) (payload : 0 < buffer.length)
    (room : buffer.length + headerOverheadSize < size.toNat) (bounded : size.toNat ≤ 2 ^ 63 - 1) :
    paddingLoop [size] buffer =
      ([buffer ++ paddingHeader (size.toNat - (buffer.length + headerOverheadSize)) ++
        List.replicate (size.toNat - (buffer.length + headerOverheadSize)) 0], .ok []) := by
  have widened : asUsize size = size.toNat := by simp [asUsize, not_lt.mpr positive]
  have allocated := @zeros_of_le (size.toNat - (buffer.length + headerOverheadSize)) (by omega)
  simp [paddingLoop, mark, widened, show ¬ size.toNat < buffer.length by omega, payload,
    show 0 < size.toNat - (buffer.length + headerOverheadSize) by omega, paddingFrame, allocated,
    Except.map]

/-- The scheme `stop=1` / `0=70000-70000` is accepted, and its one record for a
`Syn` frame is the frame, a `Waste` header announcing `69986 % 65536 = 4450`
zero bytes, and 69986 zero bytes: the padding frame's header lies. -/
theorem writeWithPadding_oversized_record :
    ∃ factory, PaddingFactory.new ("stop=1\n0=70000-70000".toList.map fun c => UInt8.ofNat c.toNat) =
        .ok factory ∧
      (writeWithPadding ⟨true, 0, factory⟩ (fun _ low _ => low)
          (FrameCodec.encode (Frame.control .syn 1))).2 =
        ([FrameCodec.encode (Frame.control .syn 1) ++ paddingHeader 4450 ++ List.replicate 69986 0],
          .ok ()) := by
  refine ⟨⟨StringMap.fromBytes ("stop=1\n0=70000-70000".toList.map fun c => UInt8.ofNat c.toNat),
    "stop=1\n0=70000-70000".toList.map fun c => UInt8.ofNat c.toNat, 1⟩, rfl, ?_⟩
  have sizes : PaddingFactory.generateRecordPayloadSizes
      ⟨StringMap.fromBytes ("stop=1\n0=70000-70000".toList.map fun c => UInt8.ofNat c.toNat),
        "stop=1\n0=70000-70000".toList.map fun c => UInt8.ofNat c.toNat, 1⟩ (fun _ low _ => low) 0 =
      [70000] := by
    decide
  have encoded : (FrameCodec.encode (Frame.control .syn 1)).length = 7 := rfl
  have record := @paddingLoop_last_record 70000 (FrameCodec.encode (Frame.control .syn 1))
    (by decide) (by decide) (by rw [encoded]; decide) (by rw [encoded]; decide) (by decide)
  rw [encoded] at record
  have count : (70000 : Int).toNat - (7 + headerOverheadSize) = 69986 := rfl
  simp only [writeWithPadding, Bool.not_true, sizes]
  rw [if_neg (by decide), record]
  simp only [List.isEmpty_nil, if_true, List.append_nil, count]
  rw [show paddingHeader 69986 = paddingHeader 4450 from rfl, if_neg (by decide : ¬ (1 : Nat) ≤ 0)]

end AnyTls
