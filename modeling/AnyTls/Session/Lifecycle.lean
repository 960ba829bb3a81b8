/-
# How streams end

No path of the code sends a `Fin` frame: the local side finishing with a stream
(`Stream::poll_shutdown`, `close_with_error` after a failed SYNACK, a handler or
proxy task returning) changes the stream object and nothing else. A stream id
leaves the session's maps only when the peer's `Fin` or `Alert` is handled, or
when the session closes (`run_addsNoFin`, `step_keepsRegistrations`).
-/

import AnyTls.Session.HandleFrame

namespace AnyTls

namespace Session

/-- `later` has written the frames `earlier` had, followed by frames whose
commands are `allowed`. -/
def Appends (allowed : Command → Prop) (earlier later : Session) : Prop :=
  ∃ sent : List Frame, later.written = earlier.written ++ sent ∧ ∀ frame ∈ sent, allowed frame.cmd

namespace Appends

variable {allowed : Command → Prop}

theorem of_written_eq {earlier later : Session} (same : later.written = earlier.written) :
    Appends allowed earlier later :=
  ⟨[], by simp [same], by simp⟩

theorem refl (s : Session) : Appends allowed s s := of_written_eq rfl

theorem trans {first second third : Session} (head : Appends allowed first second)
    (tail : Appends allowed second third) : Appends allowed first third := by
  obtain ⟨sent, written, clean⟩ := head
  obtain ⟨more, written', clean'⟩ := tail
  refine ⟨sent ++ more, by rw [written', written, List.append_assoc], ?_⟩
  intro frame mem
  rcases List.mem_append.mp mem with early | late
  · exact clean frame early
  · exact clean' frame late

theorem writeFrame (s : Session) {frame : Frame} (ok : allowed frame.cmd) :
    Appends allowed s (s.writeFrame frame) :=
  ⟨[frame], rfl, by simpa using ok⟩

theorem mono {wider : Command → Prop} (widens : ∀ cmd, allowed cmd → wider cmd)
    {earlier later : Session} (appends : Appends allowed earlier later) :
    Appends wider earlier later :=
  let ⟨sent, written, ok⟩ := appends
  ⟨sent, written, fun frame mem => widens _ (ok frame mem)⟩

end Appends

/-- `later` has written the frames `earlier` had, followed by frames none of
which is a `Fin`. -/
def AddsNoFin (earlier later : Session) : Prop :=
  ∃ sent : List Frame, later.written = earlier.written ++ sent ∧ ∀ frame ∈ sent, frame.cmd ≠ .fin

namespace AddsNoFin

theorem iff_appends {earlier later : Session} :
    AddsNoFin earlier later ↔ Appends (· ≠ .fin) earlier later :=
  Iff.rfl

theorem of_written_eq {earlier later : Session} (same : later.written = earlier.written) :
    AddsNoFin earlier later :=
  iff_appends.mpr (Appends.of_written_eq same)

theorem refl (s : Session) : AddsNoFin s s := of_written_eq rfl

theorem trans {first second third : Session} (head : AddsNoFin first second)
    (tail : AddsNoFin second third) : AddsNoFin first third :=
  iff_appends.mpr ((iff_appends.mp head).trans (iff_appends.mp tail))

theorem writeFrame (s : Session) {frame : Frame} (notFin : frame.cmd ≠ .fin) :
    AddsNoFin s (s.writeFrame frame) :=
  iff_appends.mpr (Appends.writeFrame s notFin)

end AddsNoFin

/-! ### Frames written by each operation -/

@[simp]
theorem updateStream_written (s : Session) (ref : Nat) (f : StreamState → StreamState) :
    (s.updateStream ref f).written = s.written := rfl

@[simp]
theorem dropReceiver_written (s : Session) (id : UInt32) : (s.dropReceiver id).written = s.written := by
  rw [dropReceiver_eq]

@[simp]
theorem insertReceiver_written (s : Session) (id : UInt32) (ref : Nat) :
    (s.insertReceiver id ref).written = s.written := by
  simp [insertReceiver]

@[simp]
theorem removeReceiver_written (s : Session) (id : UInt32) :
    (s.removeReceiver id).written = s.written := by
  simp [removeReceiver]

/-- Sending stream data changes the stream-data channel and nothing else. -/
theorem sendStreamData_eq (s : Session) (ref : Nat) (data : List UInt8) :
    s.sendStreamData ref data = { s with streamData := (s.sendStreamData ref data).streamData } := by
  unfold sendStreamData
  split <;> rfl

@[simp]
theorem sendStreamData_written (s : Session) (ref : Nat) (data : List UInt8) :
    (s.sendStreamData ref data).written = s.written := by
  rw [sendStreamData_eq]

@[simp]
theorem close_written (s : Session) : s.close.written = s.written := by
  cases open_ : s.isClosed with
  | true => simp [close, open_]
  | false => rw [close_eq s open_]

theorem handleAlert_written (s : Session) (data : List UInt8) :
    (s.handleAlert data).written = s.written := by
  unfold handleAlert
  simp only
  apply List.foldlRecOn (motive := fun t : Session => t.written = s.written)
  · rfl
  · intro t same _ _
    simpa using same

theorem openStream_addsNoFin {s next : Session} {ref : Nat}
    (opened : s.openStream = .ok (next, ref)) : AddsNoFin s next := by
  obtain ⟨-, -, rfl⟩ := openStream_eq_ok opened
  exact (AddsNoFin.of_written_eq (by simp [alloc])).trans
    (AddsNoFin.writeFrame _ (by simp [Frame.control]))

variable (md5Hex : List UInt8 → List Char)

/-- The commands `handle_frame` answers with: the padding-scheme update and
`ServerSettings` for a client's `Settings`, and `HeartResponse`. -/
def IsReply (cmd : Command) : Prop :=
  cmd = .updatePaddingScheme ∨ cmd = .serverSettings ∨ cmd = .heartResponse

theorem answerPaddingMd5_replies (s : Session) (settings : StringMap) :
    Appends IsReply s (s.answerPaddingMd5 md5Hex settings) := by
  unfold answerPaddingMd5
  split
  · split
    · exact Appends.writeFrame _ (.inl rfl)
    · exact Appends.refl _
  · exact Appends.refl _

theorem answerVersion_replies (s : Session) (settings : StringMap) :
    Appends IsReply s (s.answerVersion settings) := by
  unfold answerVersion
  split
  · split
    · exact (Appends.of_written_eq rfl).trans (Appends.writeFrame _ (.inr (.inl rfl)))
    · exact Appends.refl _
  · exact Appends.refl _

theorem handleSettings_replies (s : Session) (data : List UInt8) :
    Appends IsReply s (s.handleSettings md5Hex data) := by
  unfold handleSettings
  split
  · exact (answerPaddingMd5_replies md5Hex s _).trans (answerVersion_replies _ _)
  · exact Appends.refl _

/-- Handling a frame writes replies and nothing else. -/
theorem handleFrame_replies (s : Session) (frame : Frame) :
    Appends IsReply s (s.handleFrame md5Hex frame).1 := by
  unfold handleFrame
  cases frame with
  | mk cmd streamId data =>
      cases cmd with
      | push =>
          apply Appends.of_written_eq
          simp only [handlePush]
          split <;> rfl
      | syn =>
          apply Appends.of_written_eq
          simp only [handleSyn_eq]
          split
          · rfl
          · split <;> simp [alloc]
      | synAck =>
          apply Appends.of_written_eq
          simp only [handleSynAck]
          split
          · split <;> rfl
          · rfl
      | fin => exact Appends.of_written_eq (by simp [handleFin])
      | settings => exact handleSettings_replies md5Hex s data
      | serverSettings =>
          apply Appends.of_written_eq
          simp only [handleServerSettings]
          split
          · split <;> rfl
          · rfl
      | updatePaddingScheme =>
          apply Appends.of_written_eq
          simp only [handleUpdatePaddingScheme]
          split
          · split <;> rfl
          · rfl
      | alert => exact Appends.of_written_eq (handleAlert_written s data)
      | heartRequest => exact Appends.writeFrame _ (.inr (.inr rfl))
      | heartResponse => exact Appends.refl _
      | waste => exact Appends.refl _

theorem handleFrame_addsNoFin (s : Session) (frame : Frame) :
    AddsNoFin s (s.handleFrame md5Hex frame).1 :=
  AddsNoFin.iff_appends.mpr <| (handleFrame_replies md5Hex s frame).mono fun cmd reply => by
    rcases reply with rfl | rfl | rfl <;> decide

/-! ### What each operation does to the two maps -/

@[simp]
theorem writeFrame_streams (s : Session) (frame : Frame) : (s.writeFrame frame).streams = s.streams :=
  rfl

@[simp]
theorem writeFrame_streamReceiveTx (s : Session) (frame : Frame) :
    (s.writeFrame frame).streamReceiveTx = s.streamReceiveTx := rfl

@[simp]
theorem updateStream_streams (s : Session) (ref : Nat) (f : StreamState → StreamState) :
    (s.updateStream ref f).streams = s.streams := rfl

@[simp]
theorem updateStream_streamReceiveTx (s : Session) (ref : Nat) (f : StreamState → StreamState) :
    (s.updateStream ref f).streamReceiveTx = s.streamReceiveTx := rfl

@[simp]
theorem dropReceiver_streams (s : Session) (id : UInt32) : (s.dropReceiver id).streams = s.streams := by
  rw [dropReceiver_eq]

@[simp]
theorem dropReceiver_streamReceiveTx (s : Session) (id : UInt32) :
    (s.dropReceiver id).streamReceiveTx = s.streamReceiveTx := by
  rw [dropReceiver_eq]

@[simp]
theorem insertReceiver_streams (s : Session) (id : UInt32) (ref : Nat) :
    (s.insertReceiver id ref).streams = s.streams := by
  simp [insertReceiver]

@[simp]
theorem insertReceiver_streamReceiveTx (s : Session) (id : UInt32) (ref : Nat) :
    (s.insertReceiver id ref).streamReceiveTx = s.streamReceiveTx.insert id ref := rfl

/-- Every id registered in either map of `earlier` is registered in the same map
of `later`. -/
def KeepsRegistrations (earlier later : Session) : Prop :=
  (∀ id, id ∈ earlier.streams → id ∈ later.streams) ∧
    ∀ id, id ∈ earlier.streamReceiveTx → id ∈ later.streamReceiveTx

namespace KeepsRegistrations

theorem of_maps_eq {earlier later : Session} (streams : later.streams = earlier.streams)
    (receivers : later.streamReceiveTx = earlier.streamReceiveTx) :
    KeepsRegistrations earlier later :=
  ⟨fun id mem => by rwa [streams], fun id mem => by rwa [receivers]⟩

theorem refl (s : Session) : KeepsRegistrations s s := of_maps_eq rfl rfl

theorem trans {first second third : Session} (head : KeepsRegistrations first second)
    (tail : KeepsRegistrations second third) : KeepsRegistrations first third :=
  ⟨fun id mem => tail.1 id (head.1 id mem), fun id mem => tail.2 id (head.2 id mem)⟩

end KeepsRegistrations

theorem openStream_keepsRegistrations {s next : Session} {ref : Nat}
    (opened : s.openStream = .ok (next, ref)) : KeepsRegistrations s next := by
  obtain ⟨-, -, rfl⟩ := openStream_eq_ok opened
  constructor <;> intro other mem <;> simp [alloc, AList.mem_insert, mem]

theorem handleSyn_keepsRegistrations (s : Session) (streamId : UInt32) :
    KeepsRegistrations s (s.handleSyn streamId) := by
  rw [handleSyn_eq]
  split
  · exact KeepsRegistrations.refl s
  · dsimp only [alloc]
    constructor <;> intro other mem <;> split <;> simp [AList.mem_insert, mem]

/-- `later` has the two maps and the stream objects of `earlier`: the
operation touched no stream. -/
structure Untouched (earlier later : Session) : Prop where
  streams : later.streams = earlier.streams
  receivers : later.streamReceiveTx = earlier.streamReceiveTx
  objects : later.objects = earlier.objects

namespace Untouched

theorem refl (s : Session) : Untouched s s := ⟨rfl, rfl, rfl⟩

theorem trans {first second third : Session} (head : Untouched first second)
    (tail : Untouched second third) : Untouched first third :=
  ⟨tail.streams.trans head.streams, tail.receivers.trans head.receivers,
    tail.objects.trans head.objects⟩

theorem keepsRegistrations {earlier later : Session} (same : Untouched earlier later) :
    KeepsRegistrations earlier later :=
  KeepsRegistrations.of_maps_eq same.streams same.receivers

end Untouched

theorem writeFrame_untouched (s : Session) (frame : Frame) : Untouched s (s.writeFrame frame) :=
  ⟨rfl, rfl, rfl⟩

theorem sendStreamData_untouched (s : Session) (ref : Nat) (data : List UInt8) :
    Untouched s (s.sendStreamData ref data) := by
  rw [sendStreamData_eq]
  exact ⟨rfl, rfl, rfl⟩

theorem answerPaddingMd5_untouched (s : Session) (settings : StringMap) :
    Untouched s (s.answerPaddingMd5 md5Hex settings) := by
  unfold answerPaddingMd5
  split
  · split
    · exact writeFrame_untouched _ _
    · exact .refl _
  · exact .refl _

theorem answerVersion_untouched (s : Session) (settings : StringMap) :
    Untouched s (s.answerVersion settings) := by
  unfold answerVersion
  split
  · split
    · exact ⟨rfl, rfl, rfl⟩
    · exact .refl _
  · exact .refl _

theorem handleSettings_untouched (s : Session) (data : List UInt8) :
    Untouched s (s.handleSettings md5Hex data) := by
  unfold handleSettings
  split
  · exact (answerPaddingMd5_untouched md5Hex s _).trans (answerVersion_untouched _ _)
  · exact .refl _

theorem handleServerSettings_untouched (s : Session) (data : List UInt8) :
    Untouched s (s.handleServerSettings data) := by
  unfold handleServerSettings
  split
  · split
    · exact ⟨rfl, rfl, rfl⟩
    · exact .refl _
  · exact .refl _

theorem handleUpdatePaddingScheme_untouched (s : Session) (data : List UInt8) :
    Untouched s (s.handleUpdatePaddingScheme data) := by
  unfold handleUpdatePaddingScheme
  split
  · split
    · exact ⟨rfl, rfl, rfl⟩
    · exact .refl _
  · exact .refl _

/-- Handling any frame but a `Fin` or an `Alert` unregisters nothing. -/
theorem handleFrame_keepsRegistrations (s : Session) (frame : Frame)
    (kept : frame.cmd ≠ .fin ∧ frame.cmd ≠ .alert) :
    KeepsRegistrations s (s.handleFrame md5Hex frame).1 := by
  obtain ⟨cmd, streamId, data⟩ := frame
  cases cmd with
  | fin => exact absurd rfl kept.1
  | alert => exact absurd rfl kept.2
  | syn => exact handleSyn_keepsRegistrations s streamId
  | push =>
      apply KeepsRegistrations.of_maps_eq <;> simp only [handleFrame, handlePush] <;> split <;> rfl
  | synAck =>
      apply KeepsRegistrations.of_maps_eq <;> simp only [handleFrame, handleSynAck] <;>
        split <;> (try split) <;> rfl
  | settings => exact (handleSettings_untouched md5Hex s data).keepsRegistrations
  | serverSettings => exact (handleServerSettings_untouched s data).keepsRegistrations
  | updatePaddingScheme => exact (handleUpdatePaddingScheme_untouched s data).keepsRegistrations
  | heartRequest => exact (writeFrame_untouched _ _).keepsRegistrations
  | heartResponse => exact .refl s
  | waste => exact .refl s

end Session

namespace Session

/-- `f` leaves the receive channel of the stream object at `ref` open or closed
as it was. -/
def KeepsChannel (s : Session) (ref : Nat) (f : StreamState → StreamState) : Prop :=
  ∀ stream, s.objects[ref]? = some stream →
    (f stream).reader.readerRx.closed = stream.reader.readerRx.closed

end Session

namespace Endpoint

variable (md5Hex : List UInt8 → List Char)

/-- The steps after which an id may have left the session's maps: closing the
session, directly or by the receive loop at the end of its input or on a read
error, and handling the peer's `Fin` or `Alert`. -/
def Deregisters (e : Endpoint) : SessionEvent → Prop
  | .close => True
  | .recvReadError => True
  | .recvRead chunk => chunk = []
  | .recvHandle => ∃ frame ∈ e.recv.pending.head?, frame.cmd = .fin ∨ frame.cmd = .alert
  | _ => False

/-- What one step can do to the session. -/
inductive Effect (e : Endpoint) (event : SessionEvent) : Session → Prop
  /-- Frames other than `Fin` written or stream data queued, no stream touched. -/
  | quiet {next : Session} : Session.Untouched e.session next → e.session.AddsNoFin next →
      Effect e event next
  | openStream {next : Session} {ref : Nat} : e.session.openStream = .ok (next, ref) →
      Effect e event next
  | close : e.Deregisters event → Effect e event e.session.close
  | handle {frame : Frame} : event = .recvHandle → e.recv.pending.head? = some frame →
      Effect e event (e.session.handleFrame md5Hex frame).1
  | update {ref : Nat} {f : StreamState → StreamState} : e.session.KeepsChannel ref f →
      Effect e event (e.session.updateStream ref f)

theorem Effect.unchanged {e : Endpoint} {event : SessionEvent} : Effect md5Hex e event e.session :=
  .quiet (.refl _) (.refl _)

theorem Effect.writeFrame {e : Endpoint} {event : SessionEvent} {frame : Frame}
    (notFin : frame.cmd ≠ .fin) : Effect md5Hex e event (e.session.writeFrame frame) :=
  .quiet (Session.writeFrame_untouched _ _) (.writeFrame _ notFin)

theorem Effect.sendStreamData {e : Endpoint} {event : SessionEvent} {ref : Nat}
    {data : List UInt8} : Effect md5Hex e event (e.session.sendStreamData ref data) :=
  .quiet (Session.sendStreamData_untouched _ _ _) (.of_written_eq (by simp))

/-- Every step of every task is one of the effects above. -/
theorem step_effect {e next : Endpoint} {event : SessionEvent}
    (stepped : e.step md5Hex event = some next) : Effect md5Hex e event next.session := by
  cases event with
  | openStream =>
      simp only [step] at stepped
      split at stepped <;> cases stepped
      · exact .openStream ‹_›
      · exact .unchanged md5Hex
  | writeDataFrame streamId data | writeSynAck streamId data =>
      cases stepped
      exact .writeFrame md5Hex (by simp)
  | heartRequest =>
      simp only [step] at stepped
      split_ifs at stepped
      cases stepped
      exact .writeFrame md5Hex (by simp [Frame.control])
  | startClient =>
      simp only [step] at stepped
      split_ifs at stepped
      cases stepped
      exact .writeFrame md5Hex (by simp [Session.clientSettings])
  | recvRead chunk =>
      simp only [step] at stepped
      split_ifs at stepped with idle closed empty <;> cases stepped
      · exact .unchanged md5Hex
      · exact .close (by simpa [Deregisters] using empty)
      · exact .unchanged md5Hex
  | recvReadError =>
      simp only [step] at stepped
      split_ifs at stepped <;> cases stepped
      · exact .unchanged md5Hex
      · exact .close trivial
  | recvHandle =>
      simp only [step] at stepped
      rcases pending : e.recv.pending with _ | ⟨frame, rest⟩ <;> simp only [pending] at stepped
      · cases stepped
      · have handled : Effect md5Hex e .recvHandle (e.session.handleFrame md5Hex frame).1 :=
          .handle rfl (by simp [pending])
        rcases result : e.session.handleFrame md5Hex frame with ⟨session, _ | ⟨⟨⟩⟩⟩ <;>
          simp only [result] at stepped handled <;> cases stepped <;> exact handled
  | close =>
      cases stepped
      exact .close trivial
  | streamShutdown ref =>
      simp only [step] at stepped
      split_ifs at stepped
      cases stepped
      exact .update fun _ _ => rfl
  | streamCloseWithError ref err =>
      simp only [step] at stepped
      split_ifs at stepped
      cases stepped
      exact .update fun _ _ => by simp
  | streamSendData ref data =>
      simp only [step] at stepped
      split_ifs at stepped <;> cases stepped
      · exact .sendStreamData md5Hex
      · exact .unchanged md5Hex
  | streamWrite ref data =>
      simp only [step] at stepped
      split at stepped <;> cases stepped
      split
      · exact .unchanged md5Hex
      · exact .sendStreamData md5Hex
  | streamRead ref bufLen =>
      simp only [step] at stepped
      rcases found : e.session.objects[ref]? with _ | stream <;> simp only [found] at stepped
      · cases stepped
      · rcases read : stream.reader.read bufLen with ⟨bytes, reader⟩ | _ <;>
          simp only [read] at stepped <;> cases stepped
        refine .update fun current stored => ?_
        rw [found, Option.some.injEq] at stored
        subst stored
        exact StreamReader.read_closed read
  | processStreamData =>
      simp only [step] at stepped
      split_ifs at stepped <;> (try split at stepped) <;> cases stepped
      all_goals first
        | exact .unchanged md5Hex
        | exact .quiet ⟨rfl, rfl, rfl⟩ (.of_written_eq rfl)
        | exact .quiet ⟨rfl, rfl, rfl⟩ ((Session.AddsNoFin.of_written_eq rfl).trans (.writeFrame _ (by simp)))

theorem Effect.addsNoFin {e : Endpoint} {event : SessionEvent} {after : Session}
    (effect : Effect md5Hex e event after) : e.session.AddsNoFin after := by
  cases effect with
  | quiet _ added => exact added
  | openStream opened => exact Session.openStream_addsNoFin opened
  | close _ => exact .of_written_eq (Session.close_written _)
  | handle _ _ => exact Session.handleFrame_addsNoFin md5Hex _ _
  | update _ => exact .of_written_eq rfl

theorem Effect.keepsRegistrations {e : Endpoint} {event : SessionEvent} {after : Session}
    (effect : Effect md5Hex e event after) (kept : ¬ e.Deregisters event) :
    e.session.KeepsRegistrations after := by
  cases effect with
  | quiet same _ => exact same.keepsRegistrations
  | openStream opened => exact Session.openStream_keepsRegistrations opened
  | close deregisters => exact absurd deregisters kept
  | handle isHandle head =>
      subst isHandle
      apply Session.handleFrame_keepsRegistrations
      simpa [Deregisters, head, not_or] using kept
  | update _ => exact .of_maps_eq rfl rfl

/-- No step of any task writes a `Fin` frame. -/
theorem step_addsNoFin {e next : Endpoint} {event : SessionEvent}
    (stepped : e.step md5Hex event = some next) : e.session.AddsNoFin next.session :=
  Effect.addsNoFin md5Hex (step_effect md5Hex stepped)

/-- Every other step keeps every id registered. -/
theorem step_keepsRegistrations {e next : Endpoint} {event : SessionEvent}
    (stepped : e.step md5Hex event = some next) (kept : ¬ e.Deregisters event) :
    e.session.KeepsRegistrations next.session :=
  Effect.keepsRegistrations md5Hex (step_effect md5Hex stepped) kept

/-- Over every run of the session's tasks, in any interleaving, no `Fin` frame is
written, and every id registered at the start is still registered at the end
unless a step of the run closed the session or handled the peer's `Fin` or
`Alert`. -/
theorem run_sends_no_fin {start final : Endpoint} {events : List SessionEvent}
    (done : Runs.run (step md5Hex) start events = some final) :
    start.session.AddsNoFin final.session ∧
      (Runs.Avoids (step md5Hex) Deregisters start events →
        start.session.KeepsRegistrations final.session) := by
  constructor
  · apply Runs.run_relation (step md5Hex) (fun e e' => e.session.AddsNoFin e'.session)
      (fun e => .refl e.session) _ done
    intro _ _ _ _ earlier stepped
    exact earlier.trans (step_addsNoFin md5Hex stepped)
  · intro avoids
    apply Runs.run_relation_of_avoids (step md5Hex) Deregisters
      (fun e e' => e.session.KeepsRegistrations e'.session) (fun e => .refl e.session) _ avoids done
    intro _ _ _ _ earlier kept stepped
    exact earlier.trans (step_keepsRegistrations md5Hex stepped kept)

/-- A client opens stream 1 and shuts it down. -/
theorem open_then_shutdown_sends_no_fin :
    ∃ final, Runs.run (step fun _ => []) (init (Session.newClient PaddingFactory.defaultScheme none))
        [.openStream, .streamShutdown 0] = some final ∧
      (init (Session.newClient PaddingFactory.defaultScheme none)).session.AddsNoFin final.session ∧
      (Runs.Avoids (step fun _ => []) Deregisters
          (init (Session.newClient PaddingFactory.defaultScheme none)) [.openStream, .streamShutdown 0] →
        (init (Session.newClient PaddingFactory.defaultScheme none)).session.KeepsRegistrations
          final.session) :=
  ⟨_, rfl, run_sends_no_fin (fun _ => []) rfl⟩

/-- After a client shuts its stream down, the stream is closed, still registered
under id 1 in both maps, and the only frame written is its `Syn`. -/
theorem shutdown_leaves_stream_registered :
    ((Runs.run (step fun _ => []) (init (Session.newClient PaddingFactory.defaultScheme none))
        [.openStream, .streamShutdown 0]).map fun e =>
      (e.session.objects.map (·.isClosed), e.session.streams.lookup 1,
        e.session.streamReceiveTx.lookup 1, e.session.written.map (·.cmd))) =
      some ([true], some 0, some 0, [.syn]) := by
  decide

end Endpoint

end AnyTls
