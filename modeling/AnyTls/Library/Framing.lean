/-
# Incremental decoding of a stream delivered in arbitrary chunks

A receive loop appends whatever the transport delivered to a buffer and then
decodes items off the front until the decoder asks for more input. Whether the
items come out right must not depend on where the transport cut the stream.
This module isolates the three properties of a decoder that make it so
(`PrefixCode`) and proves, for every chunking of a stream of encodings, that the
loop yields exactly the encoded items and that between deliveries the buffer
holds a strict prefix of the next encoding.
-/

import Mathlib

namespace Framing

universe u v
variable {α : Type u} {β : Type v}

/-- Decode items off the front of `buffer` until the decoder asks for more
input, for at most `fuel` items. -/
def drain (decode : List α → Option (β × List α)) : Nat → List α → List β × List α
  | 0, buffer => ([], buffer)
  | fuel + 1, buffer =>
      match decode buffer with
      | none => ([], buffer)
      | some (item, rest) =>
          let tail := drain decode fuel rest
          (item :: tail.1, tail.2)

/-- One delivery: append the chunk to the buffer and drain it. The fuel is the
buffer's length, enough when each decoded item consumes input
(`drain_fuel_adequate`). -/
def feed (decode : List α → Option (β × List α)) (buffer chunk : List α) :
    List β × List α :=
  drain decode (buffer ++ chunk).length (buffer ++ chunk)

/-- Deliver the chunks one at a time, collecting the decoded items and the
final buffer. -/
def feedAll (decode : List α → Option (β × List α)) :
    List α → List (List α) → List β × List α
  | buffer, [] => ([], buffer)
  | buffer, chunk :: chunks =>
      let first := feed decode buffer chunk
      let later := feedAll decode first.2 chunks
      (first.1 ++ later.1, later.2)

/-- A prefix code: `decode` reads one item off the front of a buffer, it is
exact on the encodings of admissible items, it waits on every strict prefix of
such an encoding, and it never decodes without consuming input. -/
structure PrefixCode (α : Type u) (β : Type v) where
  encode : β → List α
  decode : List α → Option (β × List α)
  admissible : β → Prop
  decode_encode_append : ∀ item rest, admissible item →
    decode (encode item ++ rest) = some (item, rest)
  decode_of_strictPrefix : ∀ item pre, admissible item → pre <+: encode item →
    pre.length < (encode item).length → decode pre = none
  decode_nil : decode [] = none
  decode_shrinks : ∀ buffer item rest, decode buffer = some (item, rest) →
    rest.length < buffer.length

/-- The buffer between deliveries: a strict prefix of the next pending
encoding, or empty when nothing is pending. -/
def StrictHead (encode : β → List α) (buffer : List α) : List β → Prop
  | [] => buffer = []
  | item :: _ => buffer <+: encode item ∧ buffer.length < (encode item).length

/-! ### Draining a buffer -/

section Drain

variable (decode : List α → Option (β × List α))

@[simp]
theorem drain_zero (buffer : List α) : drain decode 0 buffer = ([], buffer) := rfl

theorem drain_succ_of_none {fuel : Nat} {buffer : List α} (waits : decode buffer = none) :
    drain decode (fuel + 1) buffer = ([], buffer) := by
  simp [drain, waits]

theorem drain_succ_of_some {fuel : Nat} {buffer rest : List α} {item : β}
    (decoded : decode buffer = some (item, rest)) :
    drain decode (fuel + 1) buffer =
      (item :: (drain decode fuel rest).1, (drain decode fuel rest).2) := by
  simp [drain, decoded]

/-- Fuel beyond the buffer's length changes nothing when every decoded item
consumes input: the bounded loop is the unbounded `while let` loop. -/
theorem drain_fuel_adequate
    (shrinks : ∀ buffer item rest, decode buffer = some (item, rest) →
      rest.length < buffer.length) :
    ∀ (fuel extra : Nat) (buffer : List α), buffer.length ≤ fuel →
      drain decode (fuel + extra) buffer = drain decode fuel buffer := by
  intro fuel
  induction fuel with
  | zero =>
      intro extra buffer short
      cases extra with
      | zero => rfl
      | succ extra =>
          have empty : buffer = [] := List.eq_nil_of_length_eq_zero (by omega)
          cases hdecode : decode buffer with
          | none => simp [drain_succ_of_none decode hdecode]
          | some result =>
              obtain ⟨item, rest⟩ := result
              have := shrinks buffer item rest hdecode
              subst empty
              simp at this
  | succ fuel ih =>
      intro extra buffer short
      cases hdecode : decode buffer with
      | none =>
          rw [Nat.add_right_comm, drain_succ_of_none decode hdecode,
            drain_succ_of_none decode hdecode]
      | some result =>
          obtain ⟨item, rest⟩ := result
          have shorter := shrinks buffer item rest hdecode
          rw [Nat.add_right_comm, drain_succ_of_some decode hdecode,
            drain_succ_of_some decode hdecode, ih extra rest (by omega)]

/-- Delivering one more chunk continues from the buffer the earlier ones left. -/
theorem feedAll_append_singleton (buffer : List α) (chunks : List (List α)) (chunk : List α) :
    feedAll decode buffer (chunks ++ [chunk]) =
      ((feedAll decode buffer chunks).1 ++ (feed decode (feedAll decode buffer chunks).2 chunk).1,
        (feed decode (feedAll decode buffer chunks).2 chunk).2) := by
  induction chunks generalizing buffer with
  | nil => simp [feedAll]
  | cons first rest ih => simp [feedAll, ih]

end Drain

namespace PrefixCode

variable (code : PrefixCode α β)

/-- Admissible items have non-empty encodings: an empty one would make the
decoder produce an item from the empty buffer. -/
theorem encode_ne_nil {item : β} (ok : code.admissible item) : code.encode item ≠ [] := by
  intro empty
  have decoded := code.decode_encode_append item [] ok
  rw [empty, List.nil_append, code.decode_nil] at decoded
  cases decoded

/-- The decoder waits on every buffer in `StrictHead` position. -/
theorem decode_of_strictHead {items : List β} {buffer : List α}
    (ok : ∀ item ∈ items, code.admissible item) (head : StrictHead code.encode buffer items) :
    code.decode buffer = none := by
  cases items with
  | nil =>
      rw [show buffer = [] from head]
      exact code.decode_nil
  | cons item _ =>
      exact code.decode_of_strictPrefix item buffer (ok item (by simp)) head.1 head.2

/-- A stream of encodings is at least as long as the number of items. -/
theorem length_le_length_flatten {items : List β} (ok : ∀ item ∈ items, code.admissible item) :
    items.length ≤ (items.map code.encode).flatten.length := by
  induction items with
  | nil => simp
  | cons item items ih =>
      have nonempty := code.encode_ne_nil (ok item (by simp))
      have positive : 0 < (code.encode item).length := List.length_pos_iff.mpr nonempty
      have rest := ih (fun other mem => ok other (by simp [mem]))
      simp only [List.map_cons, List.flatten_cons, List.length_append, List.length_cons]
      omega

/-- Draining whole encodings followed by a buffer the decoder waits on yields
exactly the encoded items and leaves that buffer. -/
theorem drain_flatten_append {items : List β} {pending : List α}
    (ok : ∀ item ∈ items, code.admissible item) (waits : code.decode pending = none) :
    ∀ fuel, items.length ≤ fuel →
      drain code.decode fuel ((items.map code.encode).flatten ++ pending) = (items, pending) := by
  induction items with
  | nil =>
      intro fuel _
      cases fuel with
      | zero => rfl
      | succ fuel => exact drain_succ_of_none code.decode waits
  | cons item items ih =>
      intro fuel enough
      obtain ⟨fuel, rfl⟩ : ∃ smaller, fuel = smaller + 1 :=
        ⟨fuel - 1, by simp at enough; omega⟩
      have decoded := code.decode_encode_append item
        ((items.map code.encode).flatten ++ pending) (ok item (by simp))
      have tail := ih (fun other mem => ok other (by simp [mem])) fuel (by simpa using enough)
      simp only [List.map_cons, List.flatten_cons, List.append_assoc]
      rw [drain_succ_of_some code.decode decoded, tail]

/-- Every prefix of a stream of encodings splits into whole encodings and a
buffer in `StrictHead` position for the remaining items. -/
theorem prefix_split {items : List β} {buffer : List α}
    (consumed : buffer <+: (items.map code.encode).flatten) :
    ∃ taken, buffer = ((items.take taken).map code.encode).flatten ++
        buffer.drop ((items.take taken).map code.encode).flatten.length ∧
      StrictHead code.encode
        (buffer.drop ((items.take taken).map code.encode).flatten.length) (items.drop taken) := by
  induction items generalizing buffer with
  | nil =>
      have empty : buffer = [] := by simpa using consumed
      subst empty
      exact ⟨0, rfl, rfl⟩
  | cons item items ih =>
      simp only [List.map_cons, List.flatten_cons] at consumed
      by_cases inside : buffer.length < (code.encode item).length
      · refine ⟨0, by simp, ?_⟩
        simp only [List.take_zero, List.map_nil, List.flatten_nil, List.length_nil,
          List.drop_zero, StrictHead]
        exact ⟨List.prefix_of_prefix_length_le consumed (List.prefix_append _ _) inside.le,
          inside⟩
      · have whole : code.encode item <+: buffer :=
          List.prefix_of_prefix_length_le (List.prefix_append _ _) consumed (by omega)
        obtain ⟨later, rfl⟩ := whole
        have restConsumed : later <+: (items.map code.encode).flatten :=
          (List.prefix_append_right_inj _).mp consumed
        obtain ⟨taken, split, head⟩ := ih restConsumed
        refine ⟨taken + 1, ?_, ?_⟩
        · simp only [List.take_succ_cons, List.map_cons, List.flatten_cons, List.length_append,
            List.drop_append]
          simp only [List.drop_eq_nil_of_le (Nat.le_add_right _ _), List.nil_append]
          rw [Nat.add_sub_cancel_left, List.append_assoc, ← split]
        · simp only [List.take_succ_cons, List.map_cons, List.flatten_cons, List.length_append,
            List.drop_succ_cons, List.drop_append]
          simp only [List.drop_eq_nil_of_le (Nat.le_add_right _ _), List.nil_append,
            Nat.add_sub_cancel_left]
          exact head

/-- One delivery that keeps the buffer a prefix of the stream decodes exactly the
whole encodings that the buffer now holds. -/
theorem feed_of_prefix {items : List β} {buffer chunk : List α}
    (ok : ∀ item ∈ items, code.admissible item)
    (consumed : buffer ++ chunk <+: (items.map code.encode).flatten) :
    ∃ taken, feed code.decode buffer chunk =
        (items.take taken,
          (buffer ++ chunk).drop ((items.take taken).map code.encode).flatten.length) ∧
      buffer ++ chunk = ((items.take taken).map code.encode).flatten ++
        (buffer ++ chunk).drop ((items.take taken).map code.encode).flatten.length ∧
      StrictHead code.encode
        ((buffer ++ chunk).drop ((items.take taken).map code.encode).flatten.length)
        (items.drop taken) := by
  obtain ⟨taken, split, head⟩ := code.prefix_split consumed
  have okTaken : ∀ item ∈ items.take taken, code.admissible item :=
    fun item mem => ok item (List.mem_of_mem_take mem)
  have okDropped : ∀ item ∈ items.drop taken, code.admissible item :=
    fun item mem => ok item (List.mem_of_mem_drop mem)
  have enough : (items.take taken).length ≤ (buffer ++ chunk).length := by
    have bound := code.length_le_length_flatten okTaken
    have : ((items.take taken).map code.encode).flatten.length ≤ (buffer ++ chunk).length := by
      rw [split]; simp
    omega
  refine ⟨taken, ?_, split, head⟩
  unfold feed
  conv_lhs => rw [split]
  rw [code.drain_flatten_append okTaken (code.decode_of_strictHead okDropped head) _
    (by rw [← split]; exact enough)]

/-- Feeding any chunking of the remaining stream from a buffer in `StrictHead`
position yields exactly the pending items and an empty buffer. -/
theorem feedAll_of_strictHead :
    ∀ (chunks : List (List α)) (items : List β) (buffer : List α),
      (∀ item ∈ items, code.admissible item) →
      buffer ++ chunks.flatten = (items.map code.encode).flatten →
      StrictHead code.encode buffer items →
      feedAll code.decode buffer chunks = (items, []) := by
  intro chunks
  induction chunks with
  | nil =>
      intro items buffer ok whole head
      cases items with
      | nil => simpa [feedAll, StrictHead] using head
      | cons item items =>
          simp only [List.flatten_nil, List.append_nil, List.map_cons, List.flatten_cons] at whole
          have longer : (code.encode item).length ≤ buffer.length := by rw [whole]; simp
          exact absurd head.2 (by omega)
  | cons chunk chunks ih =>
      intro items buffer ok whole head
      have consumed : buffer ++ chunk <+: (items.map code.encode).flatten := by
        rw [← whole, List.flatten_cons, ← List.append_assoc]
        exact List.prefix_append _ _
      obtain ⟨taken, fed, split, nextHead⟩ := code.feed_of_prefix ok consumed
      have remaining : (buffer ++ chunk).drop
            ((items.take taken).map code.encode).flatten.length ++ chunks.flatten =
          ((items.drop taken).map code.encode).flatten := by
        have total := whole
        rw [List.flatten_cons, ← List.append_assoc, split, ← List.take_append_drop taken items,
          List.map_append, List.flatten_append, List.append_assoc] at total
        simpa using total
      have later := ih (items.drop taken) _ (fun item mem => ok item (List.mem_of_mem_drop mem))
        remaining nextHead
      simp only [feedAll, fed, later, List.take_append_drop]

/-- Decode undoes encode for every chunking: delivering the encodings of
admissible items in any chunks, and draining after each delivery, yields exactly
those items and leaves nothing behind. -/
theorem feedAll_flatten {items : List β} {chunks : List (List α)}
    (ok : ∀ item ∈ items, code.admissible item)
    (chunking : chunks.flatten = (items.map code.encode).flatten) :
    feedAll code.decode [] chunks = (items, []) := by
  refine code.feedAll_of_strictHead chunks items [] ok (by simpa using chunking) ?_
  cases items with
  | nil => rfl
  | cons item _ =>
      exact ⟨List.nil_prefix, List.length_pos_iff.mpr (code.encode_ne_nil (ok item (by simp)))⟩

/-- After any number of deliveries from a buffer in `StrictHead` position, the
loop has emitted a prefix of the pending items and its buffer is again in
`StrictHead` position for the rest. -/
theorem feedAll_take_of_strictHead :
    ∀ (chunks : List (List α)) (items : List β) (buffer : List α) (delivered : Nat),
      (∀ item ∈ items, code.admissible item) →
      buffer ++ chunks.flatten = (items.map code.encode).flatten →
      StrictHead code.encode buffer items →
      ∃ taken, (feedAll code.decode buffer (chunks.take delivered)).1 = items.take taken ∧
        StrictHead code.encode (feedAll code.decode buffer (chunks.take delivered)).2
          (items.drop taken) := by
  intro chunks
  induction chunks with
  | nil =>
      intro items buffer delivered _ _ head
      exact ⟨0, by simp [feedAll], by simpa [feedAll] using head⟩
  | cons chunk chunks ih =>
      intro items buffer delivered ok whole head
      cases delivered with
      | zero => exact ⟨0, by simp [feedAll], by simpa [feedAll] using head⟩
      | succ delivered =>
          have consumed : buffer ++ chunk <+: (items.map code.encode).flatten := by
            rw [← whole, List.flatten_cons, ← List.append_assoc]
            exact List.prefix_append _ _
          obtain ⟨first, fed, split, nextHead⟩ := code.feed_of_prefix ok consumed
          have remaining : (buffer ++ chunk).drop
                ((items.take first).map code.encode).flatten.length ++ chunks.flatten =
              ((items.drop first).map code.encode).flatten := by
            have total := whole
            rw [List.flatten_cons, ← List.append_assoc, split, ← List.take_append_drop first items,
              List.map_append, List.flatten_append, List.append_assoc] at total
            simpa using total
          obtain ⟨second, emitted, lastHead⟩ := ih (items.drop first) _ delivered
            (fun item mem => ok item (List.mem_of_mem_drop mem)) remaining nextHead
          refine ⟨first + second, ?_, ?_⟩
          · simp only [List.take_succ_cons, feedAll, fed, emitted, List.take_add]
          · simpa only [List.take_succ_cons, feedAll, fed, List.drop_drop] using lastHead

/-- Between deliveries the loop has emitted a prefix of the items and the buffer
holds a strict prefix of the next pending encoding. -/
theorem feedAll_take_strictHead {items : List β} {chunks : List (List α)}
    (ok : ∀ item ∈ items, code.admissible item)
    (chunking : chunks.flatten = (items.map code.encode).flatten) (delivered : Nat) :
    ∃ taken, (feedAll code.decode [] (chunks.take delivered)).1 = items.take taken ∧
      StrictHead code.encode (feedAll code.decode [] (chunks.take delivered)).2
        (items.drop taken) := by
  refine code.feedAll_take_of_strictHead chunks items [] delivered ok
    (by simpa using chunking) ?_
  cases items with
  | nil => rfl
  | cons item _ =>
      exact ⟨List.nil_prefix, List.length_pos_iff.mpr (code.encode_ne_nil (ok item (by simp)))⟩

end PrefixCode

end Framing
