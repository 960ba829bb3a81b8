/-
# The order of frames on the wire

`Session::write_frame` takes its locks one after another. It loads the
`buffering` flag; a buffering call appends its encoding to the buffer and
returns `Ok`. Any other call takes the buffer, with its own encoding after the
buffered bytes, releases the buffer's lock, and only then takes the writer's
lock in `write_with_padding`. Between any two of these steps another task may
take its own. The writer's lock makes each call's write one step here; what it
writes is the subject of `WritePadding`.

Each frame carries the call that issued it, a ghost tag. The interleaving is
real time, so "call `i` returned before call `j` was invoked" is a fact about
one state, and the order on the wire is the order of the tags.

With buffering off, every call that has returned is on the wire
(`Writer.Unbuffered`), so the wire respects real time
(`unbuffered_respects_real_time`). A buffering call returns before its frame
is written, and a concurrent flush can hold the buffer while a later frame
overtakes it (`push_overtakes_buffered_syn`).

Whatever the interleaving, a frame is never lost or duplicated on the way: once
a call has buffered its frame or taken the buffer, the frame is on the wire, in
the buffer or in what one flushing call took, exactly once (`handed_over_once`).
The invariant counts the tags in flight, as a custody count.
-/

import AnyTls.Protocol.Frame
import AnyTls.Library.Runs

namespace AnyTls

namespace WriteOrder

/-- Where one `write_frame` call is. -/
inductive CallState
  /-- Encoded, about to load `buffering`. -/
  | invoked (frame : Frame)
  /-- Has loaded `buffering`. -/
  | checked (frame : Frame) (buffering : Bool)
  /-- Has taken the buffer, its own frame last, and released the buffer's lock. -/
  | taken (payload : List (Nat × Frame))
  /-- Has returned `Ok`. -/
  | returned
  deriving DecidableEq, Repr

/-- The writing side of a session: the flag, the buffer, what the connection
has received, and every call so far in the order of invocation. -/
structure Writer where
  buffering : Bool
  buffer : List (Nat × Frame)
  wire : List (Nat × Frame)
  calls : List CallState
  deriving DecidableEq, Repr

/-- One lock-protected step of one task. -/
inductive WriteEvent
  /-- `start_client` stores `true`; `disable_buffering` stores `false`. -/
  | setBuffering (value : Bool)
  /-- A task calls `write_frame`. -/
  | invoke (frame : Frame)
  /-- The call loads the flag. -/
  | load (call : Nat)
  /-- The call appends to the buffer, or takes it, as the flag it loaded says. -/
  | proceed (call : Nat)
  /-- The call writes what it took, under the writer's lock. -/
  | write (call : Nat)
  deriving DecidableEq, Repr

namespace Writer

/-- A fresh session: not buffering, nothing written, no call. -/
def init : Writer := ⟨false, [], [], []⟩

def setCall (w : Writer) (call : Nat) (state : CallState) : Writer :=
  { w with calls := w.calls.set call state }

/-- One step; `none` when the call is not at that step. -/
def step (w : Writer) : WriteEvent → Option Writer
  | .setBuffering value => some { w with buffering := value }
  | .invoke frame => some { w with calls := w.calls ++ [.invoked frame] }
  | .load call =>
      match w.calls[call]? with
      | some (.invoked frame) => some (w.setCall call (.checked frame w.buffering))
      | _ => none
  | .proceed call =>
      match w.calls[call]? with
      | some (.checked frame true) =>
          some { w.setCall call .returned with buffer := w.buffer ++ [(call, frame)] }
      | some (.checked frame false) =>
          some { w.setCall call (.taken (w.buffer ++ [(call, frame)])) with buffer := [] }
      | _ => none
  | .write call =>
      match w.calls[call]? with
      | some (.taken payload) => some { w.setCall call .returned with wire := w.wire ++ payload }
      | _ => none

/-- What one step does. -/
inductive Moves (w : Writer) : WriteEvent → Writer → Prop
  | setBuffering (value : Bool) : Moves w (.setBuffering value) { w with buffering := value }
  | invoke (frame : Frame) : Moves w (.invoke frame) { w with calls := w.calls ++ [.invoked frame] }
  | load {call : Nat} {frame : Frame} : w.calls[call]? = some (.invoked frame) →
      Moves w (.load call) (w.setCall call (.checked frame w.buffering))
  | buffer {call : Nat} {frame : Frame} : w.calls[call]? = some (.checked frame true) →
      Moves w (.proceed call) { w.setCall call .returned with buffer := w.buffer ++ [(call, frame)] }
  | take {call : Nat} {frame : Frame} : w.calls[call]? = some (.checked frame false) →
      Moves w (.proceed call)
        { w.setCall call (.taken (w.buffer ++ [(call, frame)])) with buffer := [] }
  | write {call : Nat} {payload : List (Nat × Frame)} : w.calls[call]? = some (.taken payload) →
      Moves w (.write call) { w.setCall call .returned with wire := w.wire ++ payload }

theorem step_moves {w next : Writer} {event : WriteEvent} (stepped : w.step event = some next) :
    Moves w event next := by
  cases event with
  | setBuffering value =>
      cases stepped
      exact .setBuffering value
  | invoke frame =>
      cases stepped
      exact .invoke frame
  | load call =>
      simp only [step] at stepped
      split at stepped
      · cases stepped
        exact .load ‹_›
      · cases stepped
  | proceed call =>
      simp only [step] at stepped
      split at stepped
      · cases stepped
        exact .buffer ‹_›
      · cases stepped
        exact .take ‹_›
      · cases stepped
  | write call =>
      simp only [step] at stepped
      split at stepped
      · cases stepped
        exact .write ‹_›
      · cases stepped

@[simp]
theorem setCall_length (w : Writer) (call : Nat) (state : CallState) :
    (w.setCall call state).calls.length = w.calls.length := by
  simp [setCall]

theorem setCall_getElem? (w : Writer) (call : Nat) (state : CallState) (other : Nat) :
    (w.setCall call state).calls[other]? =
      if call = other then Function.const _ state <$> w.calls[other]? else w.calls[other]? :=
  List.getElem?_set'

theorem lt_length_of_getElem? {w : Writer} {call : Nat} {state : CallState}
    (found : w.calls[call]? = some state) : call < w.calls.length :=
  (List.getElem?_eq_some_iff.mp found).1

/-! ### The wire only grows, and carries only tags of calls made -/

theorem Moves.wire_grows {w next : Writer} {event : WriteEvent} (moves : Moves w event next) :
    ∃ extra, next.wire = w.wire ++ extra := by
  cases moves with
  | write _ => exact ⟨_, rfl⟩
  | _ => exact ⟨[], (List.append_nil _).symm⟩

/-- Every tag names a call made so far. -/
structure Tagged (w : Writer) : Prop where
  wire : ∀ entry ∈ w.wire, entry.1 < w.calls.length
  buffer : ∀ entry ∈ w.buffer, entry.1 < w.calls.length
  taken : ∀ (call : Nat) (payload : List (Nat × Frame)), w.calls[call]? = some (CallState.taken payload) →
    ∀ entry ∈ payload, entry.1 < w.calls.length

theorem Tagged.init : Writer.init.Tagged where
  wire _ mem := by cases mem
  buffer _ mem := by cases mem
  taken _ _ found := by cases found

theorem setCall_eq_some {w : Writer} {call other : Nat} {state found : CallState}
    (read : (w.setCall call state).calls[other]? = some found) :
    (call = other ∧ state = found) ∨ (call ≠ other ∧ w.calls[other]? = some found) := by
  rw [setCall_getElem?] at read
  split at read
  · rename_i same
    obtain ⟨_, -, set⟩ := Option.map_eq_some_iff.mp read
    exact .inl ⟨same, set⟩
  · rename_i apart
    exact .inr ⟨apart, read⟩

theorem Moves.tagged {w next : Writer} {event : WriteEvent} (moves : Moves w event next)
    (tagged : w.Tagged) : next.Tagged := by
  cases moves with
  | setBuffering value => exact ⟨tagged.wire, tagged.buffer, tagged.taken⟩
  | invoke frame =>
      refine ⟨fun entry mem => ?_, fun entry mem => ?_, fun call payload found entry mem => ?_⟩ <;>
        simp only [List.length_append, List.length_singleton]
      · exact Nat.lt_succ_of_lt (tagged.wire entry mem)
      · exact Nat.lt_succ_of_lt (tagged.buffer entry mem)
      · rw [List.getElem?_append] at found
        split at found
        · exact Nat.lt_succ_of_lt (tagged.taken call payload found entry mem)
        · rw [List.getElem?_singleton] at found
          split at found <;> cases found
  | load _ =>
      refine ⟨fun entry mem => ?_, fun entry mem => ?_, fun other payload read entry mem => ?_⟩ <;>
        simp only [setCall_length]
      · exact tagged.wire entry mem
      · exact tagged.buffer entry mem
      · rcases setCall_eq_some read with ⟨-, wrong⟩ | ⟨-, read⟩
        · cases wrong
        · exact tagged.taken other payload read entry mem
  | buffer found =>
      refine ⟨fun entry mem => ?_, fun entry mem => ?_, fun other payload read entry mem => ?_⟩ <;>
        simp only [setCall_length]
      · exact tagged.wire entry mem
      · rcases List.mem_append.mp mem with old | new
        · exact tagged.buffer entry old
        · rw [List.mem_singleton.mp new]
          exact lt_length_of_getElem? found
      · rcases setCall_eq_some read with ⟨-, wrong⟩ | ⟨-, read⟩
        · cases wrong
        · exact tagged.taken other payload read entry mem
  | take found =>
      refine ⟨fun entry mem => ?_, fun entry mem => ?_, fun other payload read entry mem => ?_⟩ <;>
        simp only [setCall_length]
      · exact tagged.wire entry mem
      · cases mem
      · rcases setCall_eq_some read with ⟨-, taken⟩ | ⟨-, read⟩
        · cases taken
          rcases List.mem_append.mp mem with old | new
          · exact tagged.buffer entry old
          · rw [List.mem_singleton.mp new]
            exact lt_length_of_getElem? found
        · exact tagged.taken other payload read entry mem
  | write found =>
      refine ⟨fun entry mem => ?_, fun entry mem => ?_, fun other payload read entry mem => ?_⟩ <;>
        simp only [setCall_length]
      · rcases List.mem_append.mp mem with old | new
        · exact tagged.wire entry old
        · exact tagged.taken _ _ found entry new
      · exact tagged.buffer entry mem
      · rcases setCall_eq_some read with ⟨-, wrong⟩ | ⟨-, read⟩
        · cases wrong
        · exact tagged.taken other payload read entry mem

/-! ### With buffering off, a returned call is on the wire -/

/-- Buffering is off and nothing is buffered, no call is about to buffer, each
call that took the buffer holds its own frame, and each call that returned is
on the wire. -/
structure Unbuffered (w : Writer) : Prop where
  off : w.buffering = false
  empty : w.buffer = []
  loadedOff : ∀ (call : Nat) (frame : Frame) (flag : Bool),
    w.calls[call]? = some (CallState.checked frame flag) → flag = false
  takenOwn : ∀ (call : Nat) (payload : List (Nat × Frame)),
    w.calls[call]? = some (CallState.taken payload) → ∃ frame, (call, frame) ∈ payload
  durable : ∀ call : Nat, w.calls[call]? = some CallState.returned → ∃ frame, (call, frame) ∈ w.wire

theorem Unbuffered.init : Writer.init.Unbuffered where
  off := rfl
  empty := rfl
  loadedOff _ _ _ found := by cases found
  takenOwn _ _ found := by cases found
  durable _ found := by cases found

theorem Moves.unbuffered {w next : Writer} {event : WriteEvent} (moves : Moves w event next)
    (holds : w.Unbuffered) (allowed : event ≠ .setBuffering true) : next.Unbuffered := by
  cases moves with
  | setBuffering value =>
      have off : value = false := by simpa using allowed
      exact ⟨off, holds.empty, holds.loadedOff, holds.takenOwn, holds.durable⟩
  | invoke frame =>
      -- the fresh call is only invoked; the others read as before
      have old : ∀ {call : Nat} {state : CallState}, (w.calls ++ [.invoked frame])[call]? = some state →
          state = .invoked frame ∨ w.calls[call]? = some state := by
        intro call state found
        rw [List.getElem?_append] at found
        split at found
        · exact .inr found
        · rw [List.getElem?_singleton] at found
          split at found
          · exact .inl (Option.some.inj found).symm
          · cases found
      refine ⟨holds.off, holds.empty, fun call f flag found => ?_, fun call payload found => ?_,
        fun call found => ?_⟩
      · rcases old found with wrong | found
        · cases wrong
        · exact holds.loadedOff call f flag found
      · rcases old found with wrong | found
        · cases wrong
        · exact holds.takenOwn call payload found
      · rcases old found with wrong | found
        · cases wrong
        · exact holds.durable call found
  | load found =>
      refine ⟨holds.off, holds.empty, fun other f flag read => ?_, fun other payload read => ?_,
        fun other read => ?_⟩
      · rcases setCall_eq_some read with ⟨-, loaded⟩ | ⟨-, read⟩
        · cases loaded
          exact holds.off
        · exact holds.loadedOff other f flag read
      · rcases setCall_eq_some read with ⟨-, wrong⟩ | ⟨-, read⟩
        · cases wrong
        · exact holds.takenOwn other payload read
      · rcases setCall_eq_some read with ⟨-, wrong⟩ | ⟨-, read⟩
        · cases wrong
        · exact holds.durable other read
  | buffer found => exact absurd (holds.loadedOff _ _ _ found) (by decide)
  | take found =>
      refine ⟨holds.off, rfl, fun other f flag read => ?_, fun other payload read => ?_,
        fun other read => ?_⟩
      · rcases setCall_eq_some read with ⟨-, wrong⟩ | ⟨-, read⟩
        · cases wrong
        · exact holds.loadedOff other f flag read
      · rcases setCall_eq_some read with ⟨same, taken⟩ | ⟨-, read⟩
        · cases taken
          subst same
          exact ⟨_, List.mem_append_right _ List.mem_cons_self⟩
        · exact holds.takenOwn other payload read
      · rcases setCall_eq_some read with ⟨-, wrong⟩ | ⟨-, read⟩
        · cases wrong
        · exact holds.durable other read
  | write found =>
      refine ⟨holds.off, holds.empty, fun other f flag read => ?_, fun other payload read => ?_,
        fun other read => ?_⟩
      · rcases setCall_eq_some read with ⟨-, wrong⟩ | ⟨-, read⟩
        · cases wrong
        · exact holds.loadedOff other f flag read
      · rcases setCall_eq_some read with ⟨-, wrong⟩ | ⟨-, read⟩
        · cases wrong
        · exact holds.takenOwn other payload read
      · rcases setCall_eq_some read with ⟨same, -⟩ | ⟨-, read⟩
        · subst same
          obtain ⟨f, mem⟩ := holds.takenOwn _ _ found
          exact ⟨f, List.mem_append_right _ mem⟩
        · obtain ⟨f, mem⟩ := holds.durable other read
          exact ⟨f, List.mem_append_left _ mem⟩

end Writer

/-- With buffering never switched on, the wire respects real time. At any
point of a run from a fresh session, every call that has returned is on the
wire, no call invoked later is, and the rest of the run only appends: a call
that returned before another was invoked is written before it. -/
theorem unbuffered_respects_real_time {mid final : Writer} {first rest : List WriteEvent}
    (noBuffering : ∀ event ∈ first ++ rest, event ≠ .setBuffering true)
    (toMid : Runs.run Writer.step Writer.init first = some mid)
    (toFinal : Runs.run Writer.step mid rest = some final) :
    (∃ extra, final.wire = mid.wire ++ extra) ∧
      (∀ call, mid.calls[call]? = some .returned → ∃ frame, (call, frame) ∈ mid.wire) ∧
      ∀ entry ∈ mid.wire, entry.1 < mid.calls.length := by
  have unbuffered : mid.Unbuffered :=
    Runs.run_invariant_of_forall Writer.step Writer.Unbuffered (· ≠ .setBuffering true)
      (fun _ _ _ allowed holds stepped => (Writer.step_moves stepped).unbuffered holds allowed)
      (fun event mem => noBuffering event (List.mem_append_left rest mem)) Writer.Unbuffered.init toMid
  have tagged : mid.Tagged :=
    Runs.run_invariant Writer.step Writer.Tagged
      (fun _ _ _ holds stepped => (Writer.step_moves stepped).tagged holds) Writer.Tagged.init toMid
  have grows : ∃ extra, final.wire = mid.wire ++ extra := by
    apply Runs.run_relation Writer.step (fun a b => ∃ extra, b.wire = a.wire ++ extra)
      (fun state => ⟨[], (List.append_nil _).symm⟩) _ toFinal
    intro _ _ _ _ ⟨extra, earlier⟩ stepped
    obtain ⟨more, later⟩ := (Writer.step_moves stepped).wire_grows
    exact ⟨extra ++ more, by rw [later, earlier, List.append_assoc]⟩
  exact ⟨grows, unbuffered.durable, tagged.wire⟩

/-- A server session never buffers: a Syn written and returned is on the wire
before the Push invoked after it. -/
theorem unbuffered_syn_then_push :
    ∃ mid final,
      Runs.run Writer.step Writer.init
          [.invoke (.control .syn 1), .load 0, .proceed 0, .write 0] = some mid ∧
        Runs.run Writer.step mid [.invoke (.dataFrame 1 [0x61]), .load 1, .proceed 1, .write 1] =
          some final ∧
        ((∃ extra, final.wire = mid.wire ++ extra) ∧
          (∀ call, mid.calls[call]? = some .returned → ∃ frame, (call, frame) ∈ mid.wire) ∧
          ∀ entry ∈ mid.wire, entry.1 < mid.calls.length) := by
  have toMid : Runs.run Writer.step Writer.init
      [.invoke (.control .syn 1), .load 0, .proceed 0, .write 0] =
        some ⟨false, [], [(0, .control .syn 1)], [.returned]⟩ := by decide
  have toFinal : Runs.run Writer.step ⟨false, [], [(0, .control .syn 1)], [.returned]⟩
      [.invoke (.dataFrame 1 [0x61]), .load 1, .proceed 1, .write 1] =
        some ⟨false, [], [(0, .control .syn 1), (1, .dataFrame 1 [0x61])], [.returned, .returned]⟩ := by
    decide
  exact ⟨_, _, toMid, toFinal, unbuffered_respects_real_time (by decide) toMid toFinal⟩

/-- `create_proxy_stream` on a fresh client: the Settings frame and stream 1's
Syn are buffered and return; `disable_buffering` runs; a concurrent stream 3
writes its Syn and takes the buffer, then stream 1's Push takes the empty
buffer and reaches the writer first. The Push is on the wire before the Syn
of its own stream, though the Syn's call returned before the Push's was
invoked. -/
theorem push_overtakes_buffered_syn :
    ∃ mid final,
      Runs.run Writer.step Writer.init
          [.setBuffering true, .invoke (.control .settings 0), .load 0, .proceed 0,
            .invoke (.control .syn 1), .load 1, .proceed 1, .setBuffering false,
            .invoke (.control .syn 3), .load 2, .proceed 2] = some mid ∧
        Runs.run Writer.step mid
            [.invoke (.dataFrame 1 [0x61]), .load 3, .proceed 3, .write 3, .write 2] =
          some final ∧
        mid.calls[1]? = some .returned ∧
        final.wire.map Prod.snd =
          [.dataFrame 1 [0x61], .control .settings 0, .control .syn 1, .control .syn 3] :=
  ⟨_, _, rfl, rfl, rfl, rfl⟩

/-! ### Every frame handed over is in flight exactly once -/

namespace CallState

/-- The entries a call holds: the buffer it took, its own frame last. -/
def held : CallState → List (Nat × Frame)
  | .taken payload => payload
  | _ => []

/-- Whether the call has handed its frame over: buffered it, or taken the buffer. -/
def handedOver : CallState → Bool
  | .taken _ | .returned => true
  | .invoked _ | .checked _ _ => false

end CallState

namespace Writer

/-- The entries between the calls and the connection: on the wire, in the
buffer, or taken by a call that has yet to write. -/
def inFlight (w : Writer) : List (Nat × Frame) :=
  w.wire ++ w.buffer ++ w.calls.flatMap CallState.held

/-- The tag of a call is in flight once when the call has handed its frame
over, and not at all before. -/
def InFlightOnce (w : Writer) : Prop :=
  ∀ call, (w.inFlight.map Prod.fst).count call = (w.calls[call]?.any CallState.handedOver).toNat

theorem InFlightOnce.init : Writer.init.InFlightOnce := fun _ => rfl

/-- Replacing one call's state trades what it held for what it holds now. -/
theorem count_flatMap_held_set {calls : List CallState} {call : Nat} {old : CallState}
    (found : calls[call]? = some old) (new : CallState) (tag : Nat) :
    (((calls.set call new).flatMap CallState.held).map Prod.fst).count tag +
        (old.held.map Prod.fst).count tag =
      ((calls.flatMap CallState.held).map Prod.fst).count tag + (new.held.map Prod.fst).count tag := by
  induction calls generalizing call with
  | nil => cases found
  | cons first rest ih =>
      cases call with
      | zero =>
          obtain rfl : first = old := by simpa using found
          simp only [List.set_cons_zero, List.flatMap_cons, List.map_append, List.count_append]
          omega
      | succ call =>
          have later := ih (by simpa using found)
          simp only [List.set_cons_succ, List.flatMap_cons, List.map_append, List.count_append]
          omega

theorem any_handedOver_set {calls : List CallState} {call : Nat} {old : CallState}
    (found : calls[call]? = some old) (new : CallState) (other : Nat) :
    (calls.set call new)[other]?.any CallState.handedOver =
      if call = other then new.handedOver else calls[other]?.any CallState.handedOver := by
  rw [List.getElem?_set']
  split
  · subst_vars
    simp [found]
  · rfl

theorem Moves.inFlightOnce {w next : Writer} {event : WriteEvent} (moves : Moves w event next)
    (holds : w.InFlightOnce) : next.InFlightOnce := by
  cases moves with
  | setBuffering value => exact holds
  | invoke frame =>
      -- the new call holds nothing, and its index is past every other
      intro tag
      have before := holds tag
      have fresh : (w.calls ++ [.invoked frame])[tag]?.any CallState.handedOver =
          w.calls[tag]?.any CallState.handedOver := by
        rw [List.getElem?_append]
        split
        · rfl
        · rw [List.getElem?_eq_none (show w.calls.length ≤ tag by omega)]
          cases tag - w.calls.length <;> rfl
      simp only [inFlight, List.flatMap_append, List.map_append,
        List.count_append] at before ⊢
      rw [fresh, ← before]
      simp [CallState.held]
  | @load call frame found =>
      intro tag
      have traded := count_flatMap_held_set found (.checked frame w.buffering) tag
      have before := holds tag
      simp only [inFlight, setCall, List.map_append,
        List.count_append] at traded before ⊢
      rw [any_handedOver_set found]
      split
      · subst_vars
        simp_all [CallState.held, CallState.handedOver]
      · simp_all [CallState.held]
  | buffer found =>
      intro tag
      have traded := count_flatMap_held_set found .returned tag
      have before := holds tag
      simp only [inFlight, setCall, List.map_append,
        List.count_append] at traded before ⊢
      rw [any_handedOver_set found]
      split
      · subst_vars
        simp_all [CallState.held, CallState.handedOver]
      · simp_all [CallState.held]
  | @take call frame found =>
      intro tag
      have traded := count_flatMap_held_set found (.taken (w.buffer ++ [(call, frame)])) tag
      have before := holds tag
      simp only [inFlight, setCall, List.map_append,
        List.count_append] at traded before ⊢
      rw [any_handedOver_set found]
      split
      · subst_vars
        simp_all [CallState.held, CallState.handedOver]
      · simp_all [CallState.held]
        omega
  | write found =>
      intro tag
      have traded := count_flatMap_held_set found .returned tag
      have before := holds tag
      simp only [inFlight, setCall, List.map_append,
        List.count_append] at traded before ⊢
      rw [any_handedOver_set found]
      split
      · subst_vars
        simp_all [CallState.held, CallState.handedOver]
        omega
      · simp_all [CallState.held]
        omega

end Writer

/-- Over any interleaving of `write_frame` calls with buffering switched on and
off, the frame of a call that has buffered it or taken the buffer is in flight
exactly once (on the wire, in the buffer, or in what a flushing call took), and
no other call's is. So no call that has returned `Ok` has lost its frame, and
no frame reaches the wire twice. -/
theorem handed_over_once {w : Writer} (reached : Runs.Reachable Writer.step Writer.init w) :
    (∀ call, (w.inFlight.map Prod.fst).count call = (w.calls[call]?.any CallState.handedOver).toNat) ∧
      (w.wire.map Prod.fst).Nodup := by
  have once : w.InFlightOnce := reached.invariant Writer.step Writer.InFlightOnce
    Writer.InFlightOnce.init fun _ _ _ holds stepped => (Writer.step_moves stepped).inFlightOnce holds
  -- at most one copy of every tag in flight, and the wire is part of what is in flight
  have distinct : (w.inFlight.map Prod.fst).Nodup := List.nodup_iff_count_le_one.mpr fun call => by
    rw [once call]
    exact Bool.toNat_le _
  refine ⟨once, distinct.sublist ?_⟩
  simp only [Writer.inFlight, List.map_append, List.append_assoc]
  exact List.sublist_append_left _ _

/-- A session that buffers its Settings frame and a Syn, then a Push that takes
the buffer: all three are in flight once, in the Push's payload. -/
theorem buffered_frames_taken_once :
    ∃ w, Runs.run Writer.step Writer.init
        [.setBuffering true, .invoke (.control .settings 0), .load 0, .proceed 0,
          .invoke (.control .syn 1), .load 1, .proceed 1, .setBuffering false,
          .invoke (.dataFrame 1 [0x61]), .load 2, .proceed 2] = some w ∧
      ((∀ call, (w.inFlight.map Prod.fst).count call =
          (w.calls[call]?.any CallState.handedOver).toNat) ∧
        (w.wire.map Prod.fst).Nodup) :=
  ⟨_, rfl, handed_over_once ⟨[.setBuffering true, .invoke (.control .settings 0), .load 0, .proceed 0,
    .invoke (.control .syn 1), .load 1, .proceed 1, .setBuffering false,
    .invoke (.dataFrame 1 [0x61]), .load 2, .proceed 2], rfl⟩⟩

end WriteOrder

end AnyTls
