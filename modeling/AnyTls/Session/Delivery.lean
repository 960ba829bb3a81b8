/-
# What `recv_loop` delivers to a stream

`recv_loop` reads a chunk only once it has handled every frame decoded so far;
it appends the chunk to its buffer and decodes what it can, and hands each
frame to `handle_frame`. A `Push` goes into the receive channel of the stream
registered for its id, and a `Waste` frame, the padding that
`write_with_padding` inserts, changes nothing.

Take a byte stream that is the encoding of `Push` and `Waste` frames whose
payloads fit the length field, cut into any non-empty chunks. Over every run of
`recv_loop` that reads those chunks and handles every frame it decodes, the
channel of a registered stream gains exactly the payloads of the `Push` frames
for its id, in order, and no other chunk (`recv_delivers_pushes`). The proof
carries `Delivering` along the run: a step lemma for a read, one for a handled
frame, and a run lemma by induction on the events.
-/

import AnyTls.Session.Registry

namespace AnyTls

/-- The frames of one direction's stream data: `Push` frames and the `Waste`
frames of padding. -/
def Frame.carriesData (frame : Frame) : Bool :=
  match frame.cmd with
  | .push | .waste => true
  | _ => false

/-- The payloads of the `Push` frames for `id`, in order. -/
def pushesFor (id : UInt32) (frames : List Frame) : List (List UInt8) :=
  (frames.filter fun frame => frame.cmd == .push && frame.streamId == id).map Frame.data

@[simp]
theorem pushesFor_nil (id : UInt32) : pushesFor id [] = [] := rfl

theorem pushesFor_append (id : UInt32) (first second : List Frame) :
    pushesFor id (first ++ second) = pushesFor id first ++ pushesFor id second := by
  simp [pushesFor]

namespace SessionEvent

/-- The chunk a step of `recv_loop` reads. -/
def chunkRead : SessionEvent → Option (List UInt8)
  | .recvRead chunk => some chunk
  | _ => none

/-- The steps of `recv_loop`. -/
def ofRecvLoop : SessionEvent → Bool
  | .recvRead _ | .recvHandle => true
  | _ => false

end SessionEvent

/-- The chunks of a stream object's receive channel. -/
def Session.queueAt (s : Session) (ref : Nat) : Option (List (List UInt8)) :=
  s.objects[ref]?.map fun stream => stream.reader.readerRx.queue

/-! ### One frame -/

namespace Session

variable (md5Hex : List UInt8 → List Char)

theorem handleFrame_of_carriesData (s : Session) {frame : Frame} (data : frame.carriesData = true) :
    s.handleFrame md5Hex frame =
      (if frame.cmd = .push then s.handlePush frame.streamId frame.data else s, .ok ()) := by
  unfold Frame.carriesData at data
  unfold handleFrame
  split <;> simp_all

/-- A `Push` reaches the channel of `ref` exactly when its id is the one
registered to `ref`; the ids are registered to distinct objects. -/
theorem queueAt_handlePush {s : Session} (holds : s.ReceiversOpen) {id : UInt32} {ref : Nat}
    (registered : s.streamReceiveTx.lookup id = some ref) (streamId : UInt32) (data : List UInt8) :
    (s.handlePush streamId data).queueAt ref =
      (s.queueAt ref).map fun queue => if streamId = id then queue ++ [data] else queue := by
  unfold handlePush
  cases found : s.streamReceiveTx.lookup streamId with
  | none =>
      -- an id with no sender is not `id`
      have other : streamId ≠ id := fun same => by rw [same, registered] at found; cases found
      simp only [queueAt]
      cases s.objects[ref]? <;> simp [other]
  | some target =>
      simp only [queueAt, updateStream]
      by_cases same : streamId = id
      · subst same
        rw [registered] at found
        cases found
        rw [List.getElem?_modify]
        cases s.objects[ref]? <;> simp [StreamState.deliver, Receiver.send]
      · -- another id is registered to another object
        have apart : target ≠ ref := fun eq => same (holds.injective _ _ ref (eq ▸ found) registered)
        rw [List.getElem?_modify_ne _ _ apart]
        cases s.objects[ref]? <;> simp [same]

theorem queueAt_handleFrame {s : Session} (holds : s.ReceiversOpen) {id : UInt32} {ref : Nat}
    (registered : s.streamReceiveTx.lookup id = some ref) {frame : Frame}
    (data : frame.carriesData = true) :
    (s.handleFrame md5Hex frame).1.queueAt ref =
      (s.queueAt ref).map fun queue => queue ++ pushesFor id [frame] := by
  rw [handleFrame_of_carriesData md5Hex s data]
  by_cases push : frame.cmd = .push
  · rw [if_pos push, queueAt_handlePush holds registered]
    by_cases same : frame.streamId = id <;> simp [pushesFor, push, same]
  · rw [if_neg push]
    cases s.queueAt ref <;> simp [pushesFor, push]

theorem handleFrame_of_carriesData_keeps (s : Session) {frame : Frame}
    (data : frame.carriesData = true) :
    (s.handleFrame md5Hex frame).1.isClosed = s.isClosed ∧
      (s.handleFrame md5Hex frame).1.streamReceiveTx = s.streamReceiveTx := by
  rw [handleFrame_of_carriesData md5Hex s data]
  split
  · unfold handlePush
    split <;> exact ⟨rfl, rfl⟩
  · exact ⟨rfl, rfl⟩

end Session

/-! ### One step of `recv_loop` -/

namespace Endpoint

variable (md5Hex : List UInt8 → List Char)

/-- A read that succeeds on a live session with a non-empty chunk found
nothing pending, and decodes what the buffer and the chunk hold. -/
theorem step_recvRead {e next : Endpoint} {chunk : List UInt8} (live : e.session.isClosed = false)
    (nonempty : chunk ≠ []) (stepped : e.step md5Hex (.recvRead chunk) = some next) :
    e.recv.pending = [] ∧
      next = { e with recv := ⟨(Framing.feed FrameCodec.decode e.recv.buffer chunk).2,
        (Framing.feed FrameCodec.decode e.recv.buffer chunk).1, true⟩ } := by
  simp only [step, live, Bool.false_eq_true, if_false] at stepped
  split at stepped
  · cases stepped
  · rename_i enabled
    have ready : e.recv.running = true ∧ e.recv.pending = [] := by simpa using enabled
    have idle := ready.2
    split at stepped
    · exact absurd (List.isEmpty_iff.mp ‹_›) nonempty
    · exact ⟨idle, (Option.some.inj stepped).symm⟩

/-- Handling a frame that succeeds takes the first pending frame. -/
theorem step_recvHandle {e next : Endpoint} (stepped : e.step md5Hex .recvHandle = some next) :
    ∃ frame rest, e.recv.pending = frame :: rest ∧
      ((e.session.handleFrame md5Hex frame).2 = .ok () →
        next = { e with
          session := (e.session.handleFrame md5Hex frame).1
          recv := { e.recv with pending := rest } }) := by
  simp only [step] at stepped
  split at stepped
  · cases stepped
  · rename_i frame rest pending
    refine ⟨frame, rest, pending, fun ok => ?_⟩
    split at stepped
    · rename_i session handled
      rw [handled] at ok ⊢
      exact (Option.some.inj stepped).symm
    · rename_i session e handled
      rw [handled] at ok
      cases ok

/-! ### A run of `recv_loop` -/

section Run

variable {md5Hex} (id : UInt32) (ref : Nat) (base : List (List UInt8))

/-- Where `recv_loop` stands after reading the chunks `past`: running on a live
session whose receive senders are sound, `id` registered to `ref`, its buffer
what decoding `past` leaves, and the frames decoded so far split into those
handled, whose pushes for `id` follow `base` in the channel, and those pending. -/
structure Delivering (past : List (List UInt8)) (e : Endpoint) : Prop where
  running : e.recv.running = true
  live : e.session.isClosed = false
  receivers : e.session.ReceiversOpen
  registered : e.session.streamReceiveTx.lookup id = some ref
  buffer : e.recv.buffer = (FrameCodec.recvDecode past).2
  handled : ∃ handled, (FrameCodec.recvDecode past).1 = handled ++ e.recv.pending ∧
    e.session.queueAt ref = some (base ++ pushesFor id handled)

theorem Delivering.read {past : List (List UInt8)} {e next : Endpoint} {chunk : List UInt8}
    (holds : Delivering id ref base past e) (nonempty : chunk ≠ [])
    (stepped : e.step md5Hex (.recvRead chunk) = some next) :
    Delivering id ref base (past ++ [chunk]) next := by
  obtain ⟨idle, rfl⟩ := step_recvRead md5Hex holds.live nonempty stepped
  obtain ⟨handled, decoded, queued⟩ := holds.handled
  rw [idle, List.append_nil] at decoded
  -- the decode loop over one more chunk continues from the buffer left so far
  have more : FrameCodec.recvDecode (past ++ [chunk]) =
      ((FrameCodec.recvDecode past).1 ++
          (Framing.feed FrameCodec.decode (FrameCodec.recvDecode past).2 chunk).1,
        (Framing.feed FrameCodec.decode (FrameCodec.recvDecode past).2 chunk).2) :=
    Framing.feedAll_append_singleton FrameCodec.decode [] past chunk
  refine ⟨rfl, holds.live, holds.receivers, holds.registered, ?_, ⟨handled, ?_, queued⟩⟩
  · show (Framing.feed FrameCodec.decode e.recv.buffer chunk).2 = _
    rw [more, holds.buffer]
  · show _ = handled ++ (Framing.feed FrameCodec.decode e.recv.buffer chunk).1
    rw [more, decoded, holds.buffer]

theorem Delivering.handle {past : List (List UInt8)} {e next : Endpoint}
    (holds : Delivering id ref base past e)
    (data : ∀ frame ∈ (FrameCodec.recvDecode past).1, frame.carriesData = true)
    (stepped : e.step md5Hex .recvHandle = some next) :
    Delivering id ref base past next := by
  obtain ⟨frame, rest, pending, taken⟩ := step_recvHandle md5Hex stepped
  obtain ⟨handled, decoded, queued⟩ := holds.handled
  have dataFrame : frame.carriesData = true := data frame (by rw [decoded, pending]; simp)
  have ok : (e.session.handleFrame md5Hex frame).2 = .ok () := by
    rw [Session.handleFrame_of_carriesData md5Hex e.session dataFrame]
  obtain rfl := taken ok
  obtain ⟨keptClosed, keptMap⟩ := Session.handleFrame_of_carriesData_keeps md5Hex e.session dataFrame
  refine ⟨holds.running, keptClosed.trans holds.live, holds.receivers.handleFrame md5Hex frame,
    keptMap ▸ holds.registered, holds.buffer, handled ++ [frame], ?_, ?_⟩
  · -- the handled frame moves from the pending list to the handled ones
    rw [decoded, pending, List.append_assoc]
    rfl
  · rw [Session.queueAt_handleFrame md5Hex holds.receivers holds.registered dataFrame, queued,
      pushesFor_append]
    simp

variable {frames : List Frame} {chunks : List (List UInt8)}

/-- Every frame decoded from a prefix of the chunks is one of the frames sent. -/
theorem decoded_carriesData (dataOnly : ∀ frame ∈ frames, frame.carriesData = true)
    (fits : ∀ frame ∈ frames, frame.data.length < 2 ^ 16)
    (chunking : chunks.flatten = FrameCodec.encodeAll frames) {past : List (List UInt8)}
    (early : past <+: chunks) : ∀ frame ∈ (FrameCodec.recvDecode past).1, frame.carriesData = true := by
  obtain ⟨taken, decoded, -⟩ := FrameCodec.recvDecode_take fits chunking past.length
  rw [← List.prefix_iff_eq_take.mp early] at decoded
  intro frame mem
  rw [decoded] at mem
  exact dataOnly frame (List.mem_of_mem_take mem)

/-- Over a run of `recv_loop` steps that reads the next chunks in order,
`Delivering` moves on by the chunks read. -/
theorem Delivering.run (dataOnly : ∀ frame ∈ frames, frame.carriesData = true)
    (fits : ∀ frame ∈ frames, frame.data.length < 2 ^ 16)
    (chunking : chunks.flatten = FrameCodec.encodeAll frames) (nonempty : ∀ chunk ∈ chunks, chunk ≠ []) :
    ∀ (events : List SessionEvent) (past : List (List UInt8)) (e final : Endpoint),
      Delivering id ref base past e → (∀ event ∈ events, event.ofRecvLoop = true) →
      past ++ events.filterMap SessionEvent.chunkRead <+: chunks →
      Runs.run (step md5Hex) e events = some final →
      Delivering id ref base (past ++ events.filterMap SessionEvent.chunkRead) final := by
  intro events
  induction events with
  | nil =>
      intro past e final holds _ _ done
      cases done
      simpa using holds
  | cons event events ih =>
      intro past e final holds recvOnly within done
      obtain ⟨next, stepped, rest⟩ := Runs.run_cons_eq_some _ done
      have laterOnly : ∀ later ∈ events, later.ofRecvLoop = true :=
        fun later mem => recvOnly later (List.mem_cons_of_mem _ mem)
      cases event with
      | recvRead chunk =>
          simp only [List.filterMap_cons, SessionEvent.chunkRead] at within ⊢
          have read : past ++ [chunk] <+: chunks :=
            List.IsPrefix.trans (by simp) within
          have fresh : chunk ≠ [] := nonempty chunk (read.subset (by simp))
          have moved := ih (past ++ [chunk]) next final (holds.read id ref base fresh stepped)
            laterOnly (by simpa using within) rest
          simpa using moved
      | recvHandle =>
          simp only [List.filterMap_cons, SessionEvent.chunkRead] at within ⊢
          have early : past <+: chunks := List.IsPrefix.trans (List.prefix_append _ _) within
          exact ih past next final
            (holds.handle id ref base (decoded_carriesData dataOnly fits chunking early) stepped)
            laterOnly within rest
      | _ => exact absurd (recvOnly _ List.mem_cons_self) (by simp [SessionEvent.ofRecvLoop])

end Run

variable {md5Hex}

/-- Over every run of `recv_loop`, from a point where it has handled everything
and its buffer is empty, that reads a stream of `Push` and `Waste` frames
fitting the length field cut into any non-empty chunks and handles every frame,
the channel of a registered stream gains exactly the payloads of the `Push`
frames for its id, in order, and the buffer is left empty. -/
theorem recv_delivers_pushes {e final : Endpoint} {events : List SessionEvent} {frames : List Frame}
    {chunks : List (List UInt8)} {id : UInt32} {ref : Nat}
    (dataOnly : ∀ frame ∈ frames, frame.carriesData = true)
    (fits : ∀ frame ∈ frames, frame.data.length < 2 ^ 16)
    (chunking : chunks.flatten = FrameCodec.encodeAll frames) (nonempty : ∀ chunk ∈ chunks, chunk ≠ [])
    (ready : e.recv = ⟨[], [], true⟩) (live : e.session.isClosed = false)
    (holds : e.session.ReceiversOpen) (registered : e.session.streamReceiveTx.lookup id = some ref)
    (recvOnly : ∀ event ∈ events, event.ofRecvLoop = true)
    (reads : events.filterMap SessionEvent.chunkRead = chunks)
    (done : Runs.run (step md5Hex) e events = some final) (drained : final.recv.pending = []) :
    ∃ queue, e.session.queueAt ref = some queue ∧
      final.session.queueAt ref = some (queue ++ pushesFor id frames) ∧ final.recv.buffer = [] := by
  -- the registered object exists, since its sender feeds its channel
  obtain ⟨stream, stored, -⟩ := holds.feedsOpen id ref registered
  have start : Delivering id ref stream.reader.readerRx.queue [] e := by
    refine ⟨by rw [ready], live, holds, registered, by rw [ready]; rfl, [], ?_, ?_⟩
    · rw [ready]
      rfl
    · simp [Session.queueAt, stored]
  have ended := Delivering.run id ref _ dataOnly fits chunking nonempty events [] e final start recvOnly
    (by simp [reads]) done
  rw [List.nil_append, reads] at ended
  -- decoding all the chunks gives back exactly the frames and an empty buffer
  have whole : FrameCodec.recvDecode chunks = (frames, []) :=
    FrameCodec.prefixCode.feedAll_flatten fits chunking
  obtain ⟨handled, decoded, queued⟩ := ended.handled
  rw [drained, List.append_nil, whole] at decoded
  refine ⟨stream.reader.readerRx.queue, by simp [Session.queueAt, stored], ?_, ?_⟩
  · rw [queued, ← decoded]
  · rw [ended.buffer, whole]

end Endpoint

end AnyTls
