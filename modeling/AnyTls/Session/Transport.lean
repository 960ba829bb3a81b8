/-
# One direction of a stream, end to end

A task that sends data calls `write_frame` once per frame. With buffering off,
each call encodes its frame and hands the bytes to `write_with_padding`, which
cuts them into records and fills records up with `Waste` frames; `writeFrames`
is that sequence of calls. When every size the padding scheme can draw fits the
length field, the records are the frames' encodings with whole `Waste` frames
after each (`writeFrames_flatten`). So whatever chunks the connection delivers
them in, the peer's `recv_loop` puts exactly the payloads of the `Push` frames
for a registered stream into that stream's channel, in order
(`written_pushes_delivered`).
-/

import AnyTls.Session.Delivery
import AnyTls.Session.WritePadding

namespace AnyTls

/-- Successive unbuffered `write_frame` calls of one task: each frame's
encoding goes through `write_with_padding`, which moves the packet counter on.
A panic ends the task, and nothing after it is written. -/
def writeFrames (random : Nat → Int → Int → Int) :
    PaddingState → List Frame → PaddingState × List (List UInt8) × Except Panic Unit
  | state, [] => (state, [], .ok ())
  | state, frame :: frames =>
      match writeWithPadding state random (FrameCodec.encode frame) with
      | (state, records, .error panic) => (state, records, .error panic)
      | (state, records, .ok ()) =>
          let later := writeFrames random state frames
          (later.1, records ++ later.2.1, later.2.2)

/-- The `Waste` frame of `len` zeros. -/
def wastePad (len : Nat) : Frame := ⟨.waste, 0, List.replicate len 0⟩

/-- The frames on the wire: each frame, followed by the `Waste` frames that
filled up its records. -/
def withPadding : List Frame → List (List Nat) → List Frame
  | frame :: frames, pads :: later => frame :: pads.map wastePad ++ withPadding frames later
  | _, _ => []

theorem writeWithPadding_padding (state : PaddingState) (random : Nat → Int → Int → Int)
    (buffer : List UInt8) : (writeWithPadding state random buffer).1.padding = state.padding := by
  unfold writeWithPadding
  split
  · rfl
  · dsimp only
    split
    · rfl
    · split
      · rfl
      · split <;> rfl

theorem pushesFor_withPadding (id : UInt32) :
    ∀ (frames : List Frame) (pads : List (List Nat)), pads.length = frames.length →
      pushesFor id (withPadding frames pads) = pushesFor id frames
  | [], [], _ => rfl
  | frame :: frames, pad :: later, same => by
      have rest := pushesFor_withPadding id frames later (by simpa using same)
      -- the padding frames are `Waste` frames, which carry nothing for `id`
      have wastes : pushesFor id (pad.map wastePad) = [] := by
        simp [pushesFor, wastePad, List.filter_map, Function.comp_def]
      simp only [withPadding, List.cons_append]
      rw [show frame :: (pad.map wastePad ++ withPadding frames later) =
          [frame] ++ pad.map wastePad ++ withPadding frames later from rfl,
        pushesFor_append, pushesFor_append, wastes, rest, List.append_nil, ← pushesFor_append]
      rfl

theorem mem_withPadding {frame : Frame} :
    ∀ {frames : List Frame} {pads : List (List Nat)}, frame ∈ withPadding frames pads →
      frame ∈ frames ∨ ∃ later ∈ pads, ∃ pad ∈ later, frame = wastePad pad
  | [], _, mem => by cases mem
  | _ :: _, [], mem => by cases mem
  | first :: frames, pad :: later, mem => by
      simp only [withPadding, List.mem_cons, List.mem_append, List.mem_map] at mem
      rcases mem with (rfl | ⟨len, inPad, rfl⟩) | rest
      · exact .inl List.mem_cons_self
      · exact .inr ⟨pad, List.mem_cons_self, len, inPad, rfl⟩
      · rcases mem_withPadding rest with old | ⟨pads, inLater, len, inPads, rfl⟩
        · exact .inl (List.mem_cons_of_mem _ old)
        · exact .inr ⟨pads, List.mem_cons_of_mem _ inLater, len, inPads, rfl⟩

/-- When every size the scheme can draw fits the length field, the calls do
not panic and the records are the frames' encodings, each followed by whole
`Waste` frames. -/
theorem writeFrames_flatten (random : Nat → Int → Int → Int) {factory : PaddingFactory}
    (fits : ∀ pkt, ∀ size ∈ factory.generateRecordPayloadSizes random pkt, SizeFits size) :
    ∀ (frames : List Frame) (state : PaddingState), state.padding = factory →
      ∃ pads : List (List Nat), pads.length = frames.length ∧
        (∀ later ∈ pads, ∀ pad ∈ later, pad < 2 ^ 16) ∧
        (writeFrames random state frames).2.2 = .ok () ∧
        (writeFrames random state frames).2.1.flatten = FrameCodec.encodeAll (withPadding frames pads)
  | [], _, _ => ⟨[], rfl, by simp, rfl, rfl⟩
  | frame :: frames, state, uses => by
      -- one call: the frame's encoding, then whole `Waste` frames
      obtain ⟨pad, written, small, records⟩ :=
        writeWithPadding_flatten state random (FrameCodec.encode frame) (uses ▸ fits state.pktCounter)
      have padding := writeWithPadding_padding state random (FrameCodec.encode frame)
      rcases call : writeWithPadding state random (FrameCodec.encode frame) with ⟨next, recs, result⟩
      rw [call] at written records padding
      dsimp only at written records padding
      subst written
      -- the later calls, with the same factory
      obtain ⟨later, count, laterSmall, laterOk, laterRecords⟩ :=
        writeFrames_flatten random fits frames next (padding.trans uses)
      refine ⟨pad :: later, by simp [count], List.forall_mem_cons.mpr ⟨small, laterSmall⟩, ?_, ?_⟩
      · simp only [writeFrames, call]
        exact laterOk
      · simp only [writeFrames, call, List.flatten_append, records, laterRecords]
        simp only [withPadding, FrameCodec.encodeAll, List.map_cons, List.map_append, List.map_map,
          List.flatten_cons, List.flatten_append, List.append_assoc]
        -- a `Waste` frame of zeros encodes to `wasteFrame`
        rfl

namespace Endpoint

variable {md5Hex : List UInt8 → List Char}

/-- The padded records of a task's `Push` and `Waste` frames, read by the
peer's `recv_loop` in any nonempty chunks and handled, add the payloads of the
`Push` frames for `id` to the channel its receive sender leads to, in order,
and leave nothing undecoded; no call panics. -/
theorem written_pushes_delivered {random : Nat → Int → Int → Int} {state : PaddingState}
    {frames : List Frame} {chunks : List (List UInt8)} {e final : Endpoint}
    {events : List SessionEvent} {id : UInt32} {ref : Nat}
    (dataOnly : ∀ frame ∈ frames, frame.carriesData = true)
    (fits : ∀ frame ∈ frames, frame.data.length < 2 ^ 16)
    (schemeFits : ∀ pkt, ∀ size ∈ state.padding.generateRecordPayloadSizes random pkt,
      SizeFits size)
    (chunking : chunks.flatten = (writeFrames random state frames).2.1.flatten)
    (nonempty : ∀ chunk ∈ chunks, chunk ≠ [])
    (ready : e.recv = ⟨[], [], true⟩) (live : e.session.isClosed = false)
    (holds : e.session.ReceiversOpen) (registered : e.session.streamReceiveTx.lookup id = some ref)
    (recvOnly : ∀ event ∈ events, event.ofRecvLoop = true)
    (reads : events.filterMap SessionEvent.chunkRead = chunks)
    (done : Runs.run (step md5Hex) e events = some final) (drained : final.recv.pending = []) :
    (writeFrames random state frames).2.2 = .ok () ∧
      ∃ queue, e.session.queueAt ref = some queue ∧
        final.session.queueAt ref = some (queue ++ pushesFor id frames) ∧
        final.recv.buffer = [] := by
  obtain ⟨pads, count, small, written, records⟩ := writeFrames_flatten random schemeFits frames state rfl
  -- the frames on the wire: the task's own and whole `Waste` frames of small sizes
  have wireData : ∀ frame ∈ withPadding frames pads, frame.carriesData = true := by
    intro frame mem
    rcases mem_withPadding mem with own | ⟨later, -, pad, -, rfl⟩
    · exact dataOnly frame own
    · rfl
  have wireFits : ∀ frame ∈ withPadding frames pads, frame.data.length < 2 ^ 16 := by
    intro frame mem
    rcases mem_withPadding mem with own | ⟨later, inPads, pad, inLater, rfl⟩
    · exact fits frame own
    · simpa [wastePad] using small later inPads pad inLater
  obtain ⟨queue, before, after, empty⟩ := recv_delivers_pushes wireData wireFits
    (chunking.trans records) nonempty ready live holds registered recvOnly reads done drained
  rw [pushesFor_withPadding id frames pads count] at after
  exact ⟨written, queue, before, after, empty⟩

/-- A client with the scheme `stop=1`, `0=30-30` writes `Push 1 [7]` padded to
a 30-byte record, then `Push 1 [8, 9]` as it is; a server with stream 1
registered reads the first record, handles its two frames, then reads and
handles the second. -/
theorem written_pushes_arrive :
    ∃ final, Runs.run (step fun _ => [])
        ⟨(Session.newServer PaddingFactory.defaultScheme true none).handleSyn 1, ⟨[], [], true⟩, true⟩
        [.recvRead (FrameCodec.encodeAll [Frame.dataFrame 1 [7], ⟨.waste, 0, List.replicate 15 0⟩]),
          .recvHandle, .recvHandle, .recvRead (FrameCodec.encode (Frame.dataFrame 1 [8, 9])),
          .recvHandle] = some final ∧
      (writeFrames (fun _ low _ => low)
          ⟨true, 0, ⟨StringMap.new.insert ['0'] ['3', '0', '-', '3', '0'], [], 1⟩⟩
          [Frame.dataFrame 1 [7], Frame.dataFrame 1 [8, 9]]).2.2 = .ok () ∧
      ∃ queue, ((Session.newServer PaddingFactory.defaultScheme true none).handleSyn 1).queueAt 0 =
          some queue ∧
        final.session.queueAt 0 = some (queue ++ pushesFor 1
          [Frame.dataFrame 1 [7], Frame.dataFrame 1 [8, 9]]) ∧
        final.recv.buffer = [] := by
  -- only the entry for packet 0 draws sizes, and its one size is 30
  have schemeFits : ∀ pkt, ∀ size ∈ PaddingFactory.generateRecordPayloadSizes
      ⟨StringMap.new.insert ['0'] ['3', '0', '-', '3', '0'], [], 1⟩ (fun _ low _ => low) pkt,
      SizeFits size := by
    intro pkt size mem
    unfold PaddingFactory.generateRecordPayloadSizes at mem
    by_cases zero : RustText.decimal pkt = ['0']
    · rw [zero, StringMap.get_insert] at mem
      revert size
      unfold SizeFits
      decide
    · rw [StringMap.get_insert_ne _ _ zero] at mem
      simp [StringMap.get, StringMap.new] at mem
  -- running the server first fixes its final state
  refine ⟨_, rfl, ?_⟩
  refine @written_pushes_delivered (fun _ => []) (fun _ low _ => low)
    ⟨true, 0, ⟨StringMap.new.insert ['0'] ['3', '0', '-', '3', '0'], [], 1⟩⟩
    [Frame.dataFrame 1 [7], Frame.dataFrame 1 [8, 9]] _
    ⟨(Session.newServer PaddingFactory.defaultScheme true none).handleSyn 1, ⟨[], [], true⟩, true⟩ _
    [.recvRead (FrameCodec.encodeAll [Frame.dataFrame 1 [7], ⟨.waste, 0, List.replicate 15 0⟩]),
      .recvHandle, .recvHandle, .recvRead (FrameCodec.encode (Frame.dataFrame 1 [8, 9])),
      .recvHandle] _ _ ?_ ?_ schemeFits ?_ ?_ rfl rfl
    ((@Session.ReceiversOpen.of_empty (Session.newServer PaddingFactory.defaultScheme true none)
      rfl).handleSyn 1) rfl ?_ rfl rfl rfl
  all_goals decide

end Endpoint

end AnyTls
