/-
# A new client connection and its packet numbers

`Client::create_new_session` writes the authentication on the fresh TLS
connection and then hands the connection to `Session::new_client`, whose
writes go through `write_with_padding`. Both consult the same padding factory
by packet number: `send_authentication` draws the sizes for packet `0`, and
each padded write takes the session's `pkt_counter` with `fetch_add(1)`, which
returns the value before the increment. The counter starts at `0`.

`pktsTaken_eq_range`: the writes of one task take consecutive packet numbers
from the counter, wrapping at `2 ^ 32`. From a new client session they start
at `0`, so the first write draws for the packet the authentication already
drew for (`first_write_takes_pkt_zero`).
-/

import AnyTls.Util.Auth
import AnyTls.Session.Transport

namespace AnyTls

/-- The padding state of `Session::new_client`: padding on, `pkt_counter` at `0`. -/
def clientPadding (padding : PaddingFactory) : PaddingState := ⟨true, 0, padding⟩

theorem writeWithPadding_sendPadding (state : PaddingState) (random : Nat → Int → Int → Int)
    (buffer : List UInt8) :
    (writeWithPadding state random buffer).1.sendPadding = state.sendPadding := by
  unfold writeWithPadding
  split
  · rfl
  · dsimp only
    split
    · rfl
    · split
      · rfl
      · split <;> rfl

/-- A padding call moves the counter on by one, modulo `2 ^ 32`. -/
theorem writeWithPadding_pktCounter {state : PaddingState} (padded : state.sendPadding = true)
    (random : Nat → Int → Int → Int) (buffer : List UInt8) :
    (writeWithPadding state random buffer).1.pktCounter = (state.pktCounter + 1) % 2 ^ 32 := by
  unfold writeWithPadding
  simp only [padded, Bool.not_true, Bool.false_eq_true, ↓reduceIte]
  split
  · rfl
  · split
    · rfl
    · split <;> rfl

/-- The packet numbers the calls of `writeFrames` take from the counter, in
order: one per call while padding is on, up to the call that panics. -/
def pktsTaken (random : Nat → Int → Int → Int) : PaddingState → List Frame → List Nat
  | _, [] => []
  | state, frame :: frames =>
      (if state.sendPadding then [state.pktCounter] else []) ++
        match writeWithPadding state random (FrameCodec.encode frame) with
        | (_, _, .error _) => []
        | (next, _, .ok ()) => pktsTaken random next frames

/-- With padding on, the calls take consecutive counter values, wrapping at
`2 ^ 32`: some prefix of `c, c + 1, c + 2, ...` modulo `2 ^ 32`, one per call
made. -/
theorem pktsTaken_eq_range (random : Nat → Int → Int → Int) :
    ∀ (frames : List Frame) (state : PaddingState), state.sendPadding = true →
      state.pktCounter < 2 ^ 32 →
      ∃ calls ≤ frames.length, pktsTaken random state frames =
        (List.range calls).map fun i => (state.pktCounter + i) % 2 ^ 32
  | [], _, _, _ => ⟨0, le_refl _, rfl⟩
  | frame :: frames, state, padded, small => by
      have first : (state.pktCounter + 0) % 2 ^ 32 = state.pktCounter := by omega
      have counter := writeWithPadding_pktCounter padded random (FrameCodec.encode frame)
      have stillPadded := writeWithPadding_sendPadding state random (FrameCodec.encode frame)
      rcases call : writeWithPadding state random (FrameCodec.encode frame) with
        ⟨next, records, _ | ⟨⟨⟩⟩⟩
      · -- the call panics: it took one number and nothing follows
        refine ⟨1, by simp, ?_⟩
        simp [pktsTaken, call, padded]
        omega
      · rw [call] at counter stillPadded
        dsimp only at counter stillPadded
        obtain ⟨calls, fewer, taken⟩ := pktsTaken_eq_range random frames next
          (stillPadded.trans padded) (by rw [counter]; omega)
        refine ⟨calls + 1, by simp; omega, ?_⟩
        simp only [pktsTaken, call, padded, if_true, taken, counter, List.range_succ_eq_map,
          List.map_cons, List.map_map, first, List.singleton_append]
        congr 2
        funext i
        simp only [Function.comp_apply]
        omega

/-- The packet numbers a new client connection draws padding for: `0` for
`send_authentication`, then the numbers its session's writes take. -/
def connectionPkts (random : Nat → Int → Int → Int) (padding : PaddingFactory)
    (frames : List Frame) : List Nat :=
  0 :: pktsTaken random (clientPadding padding) frames

/-- Over every run of a new client connection, the packet numbers are `0` for
the authentication and then `0, 1, 2, ...` (modulo `2 ^ 32`) for the session's
writes: the `n`-th write takes `n - 1`. -/
theorem connectionPkts_eq (random : Nat → Int → Int → Int) (padding : PaddingFactory)
    (frames : List Frame) :
    ∃ calls ≤ frames.length,
      connectionPkts random padding frames = 0 :: (List.range calls).map (· % 2 ^ 32) := by
  obtain ⟨calls, fewer, taken⟩ :=
    pktsTaken_eq_range random frames (clientPadding padding) rfl (by simp [clientPadding])
  refine ⟨calls, fewer, ?_⟩
  rw [connectionPkts, taken]
  simp [clientPadding]

/-- The first write of a new client session draws for packet `0`, the packet
`send_authentication` drew for. -/
theorem first_write_takes_pkt_zero (random : Nat → Int → Int → Int) (padding : PaddingFactory)
    (frame : Frame) : connectionPkts random padding [frame] = [0, 0] := by
  rcases call : writeWithPadding (clientPadding padding) random (FrameCodec.encode frame) with
    ⟨next, records, _ | ⟨⟨⟩⟩⟩ <;>
  · simp only [connectionPkts, pktsTaken, call]
    rfl

end AnyTls
