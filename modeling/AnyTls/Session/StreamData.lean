/-
# Stream data on its way out

A stream's writes (`Stream::send_data`, and `poll_write` on an open stream)
hand their data, under the stream's id, to the session's stream-data channel,
and return `Ok` while `process_stream_data` still holds the receiver. That task
takes the data out one item at a time and writes it as a `Push` frame, unless
the session has closed, in which case it stops. The channel is one queue for
all the session's streams.

Over any interleaving of all the tasks of a session with no `write_data_frame`
call of their own, as on the server, whose handlers write through their
streams: the stream data written in `Push` frames is always a prefix of the
data the calls returning `Ok` handed over, in the order they returned; and
while `process_stream_data` runs, what it has written and what is still queued
together are exactly that data (`stream_data_written_in_order`). Nothing is
lost, duplicated or reordered, across streams as within one; a session that
closes stops with what is still queued.
-/

import AnyTls.Session.Lifecycle

namespace AnyTls

/-- The stream data a frame carries: a `Push`'s payload under its stream id. -/
def Frame.pushed (frame : Frame) : Option (UInt32 × List UInt8) :=
  if frame.cmd = .push then some (frame.streamId, frame.data) else none

namespace Session

variable (md5Hex : List UInt8 → List Char)

/-- The stream data in the frames written so far. -/
def pushed (s : Session) : List (UInt32 × List UInt8) := s.written.filterMap Frame.pushed

@[simp]
theorem pushed_writeFrame (s : Session) (frame : Frame) :
    (s.writeFrame frame).pushed = s.pushed ++ frame.pushed.toList := by
  cases pushing : frame.pushed <;> simp [pushed, writeFrame, List.filterMap_append, pushing]

/-- Frames other than `Push` add no stream data. -/
theorem pushed_of_appends {earlier later : Session} (appends : Appends (· ≠ .push) earlier later) :
    later.pushed = earlier.pushed := by
  obtain ⟨sent, written, notPush⟩ := appends
  have carried : sent.filterMap Frame.pushed = [] := by
    rw [List.filterMap_eq_nil_iff]
    intro frame mem
    simp [Frame.pushed, notPush frame mem]
  rw [pushed, written, List.filterMap_append, carried, List.append_nil, pushed]

theorem pushed_of_written_eq {earlier later : Session} (same : later.written = earlier.written) :
    later.pushed = earlier.pushed := by
  rw [pushed, same, pushed]

/-! ### Which operations leave the stream-data channel alone -/

@[simp]
theorem dropReceiver_streamData (s : Session) (id : UInt32) :
    (s.dropReceiver id).streamData = s.streamData := by
  rw [dropReceiver_eq]

@[simp]
theorem insertReceiver_streamData (s : Session) (id : UInt32) (ref : Nat) :
    (s.insertReceiver id ref).streamData = s.streamData := by
  simp [insertReceiver]

@[simp]
theorem removeReceiver_streamData (s : Session) (id : UInt32) :
    (s.removeReceiver id).streamData = s.streamData := by
  simp [removeReceiver]

theorem close_streamData (s : Session) : s.close.streamData = s.streamData := by
  cases open_ : s.isClosed with
  | true => simp [close, open_]
  | false => rw [close_eq s open_]

theorem handleAlert_streamData (s : Session) (data : List UInt8) :
    (s.handleAlert data).streamData = s.streamData := by
  unfold handleAlert
  simp only
  apply List.foldlRecOn (motive := fun t : Session => t.streamData = s.streamData)
  · rfl
  · intro t same _ _
    simpa [updateStream] using same

theorem openStream_streamData {s next : Session} {ref : Nat} (opened : s.openStream = .ok (next, ref)) :
    next.streamData = s.streamData ∧ next.pushed = s.pushed := by
  obtain ⟨-, -, rfl⟩ := openStream_eq_ok opened
  exact ⟨by simp [openStreamStore, writeFrame, alloc],
    by simp [pushed, openStreamStore, writeFrame, alloc, List.filterMap_append, Frame.pushed, Frame.control]⟩

/-- Handling a frame writes no stream data and leaves the channel alone. -/
theorem handleFrame_streamData (s : Session) (frame : Frame) :
    (s.handleFrame md5Hex frame).1.streamData = s.streamData ∧
      (s.handleFrame md5Hex frame).1.pushed = s.pushed := by
  refine ⟨?_, pushed_of_appends ((handleFrame_replies md5Hex s frame).mono fun cmd reply => by
    rcases reply with rfl | rfl | rfl <;> decide)⟩
  unfold handleFrame
  cases frame with
  | mk cmd streamId data =>
      cases cmd with
      | push => simp only [handlePush]; split <;> rfl
      | syn =>
          simp only [handleSyn_eq]
          split
          · rfl
          · split <;> simp [alloc]
      | synAck =>
          simp only [handleSynAck]
          split
          · split <;> rfl
          · rfl
      | fin => simp [handleFin]
      | settings =>
          simp only [handleSettings]
          split
          · simp only [answerVersion, answerPaddingMd5]
            split <;> (try split) <;> (try split) <;> (try split) <;> rfl
          · rfl
      | serverSettings =>
          simp only [handleServerSettings]
          split
          · split <;> rfl
          · rfl
      | updatePaddingScheme =>
          simp only [handleUpdatePaddingScheme]
          split
          · split <;> rfl
          · rfl
      | alert => exact handleAlert_streamData s data
      | heartRequest => rfl
      | heartResponse => rfl
      | waste => rfl

end Session

namespace Endpoint

variable (md5Hex : List UInt8 → List Char)

/-- The stream data a call hands to the session when it returns `Ok`:
`Stream::send_data` while `process_stream_data` holds the receiver, and
`poll_write` only on an open stream as well. -/
def sentData (e : Endpoint) : SessionEvent → List (UInt32 × List UInt8)
  | .streamSendData ref data =>
      match e.session.objects[ref]? with
      | some stream => if e.processing then [(stream.id, data)] else []
      | none => []
  | .streamWrite ref data =>
      match e.session.objects[ref]? with
      | some stream => if stream.isClosed || !e.processing then [] else [(stream.id, data)]
      | none => []
  | _ => []

/-- What one step does to the stream data: a call that returns `Ok` queues its
data, `process_stream_data` moves the oldest item from the queue to the
frames written or, on a closed session, stops, and nothing else touches either. -/
theorem step_streamData {e next : Endpoint} {event : SessionEvent}
    (stepped : e.step md5Hex event = some next)
    (queued : ∀ streamId data, event ≠ .writeDataFrame streamId data) :
    (next.session.pushed = e.session.pushed ∧
        next.session.streamData = e.session.streamData ++ sentData e event ∧
        next.processing = e.processing) ∨
      (e.processing = true ∧ sentData e event = [] ∧
        ∃ item rest, e.session.streamData = item :: rest ∧ next.session.streamData = rest ∧
          ((next.session.pushed = e.session.pushed ++ [item] ∧ next.processing = true) ∨
            (next.session.pushed = e.session.pushed ∧ next.processing = false))) ∨
      (sentData e event = [] ∧ e.session.streamData = [] ∧ next.session.pushed = e.session.pushed ∧
        next.session.streamData = [] ∧ next.processing = false) := by
  cases event with
  | openStream =>
      simp only [step] at stepped
      split at stepped
      · rename_i session ref opened
        cases stepped
        obtain ⟨sameData, samePushed⟩ := Session.openStream_streamData opened
        exact .inl ⟨samePushed, by simp [withSession, sameData, sentData], rfl⟩
      · cases stepped
        exact .inl ⟨rfl, by simp [sentData], rfl⟩
  | writeDataFrame streamId data => exact absurd rfl (queued streamId data)
  | writeSynAck streamId data =>
      cases stepped
      exact .inl ⟨by simp [withSession, Frame.pushed], by simp [withSession, Session.writeFrame, sentData], rfl⟩
  | heartRequest =>
      simp only [step] at stepped
      split_ifs at stepped
      cases stepped
      exact .inl ⟨by simp [withSession, Frame.pushed, Frame.control],
        by simp [withSession, Session.writeFrame, sentData], rfl⟩
  | startClient =>
      simp only [step] at stepped
      split_ifs at stepped
      cases stepped
      exact .inl ⟨by simp [withSession, Frame.pushed, Session.clientSettings],
        by simp [withSession, Session.writeFrame, sentData], rfl⟩
  | recvRead chunk =>
      simp only [step] at stepped
      split_ifs at stepped <;> cases stepped
      · exact .inl ⟨rfl, by simp [sentData], rfl⟩
      · exact .inl ⟨Session.pushed_of_written_eq (Session.close_written _),
          by simp [Session.close_streamData, sentData], rfl⟩
      · exact .inl ⟨rfl, by simp [sentData], rfl⟩
  | recvReadError =>
      simp only [step] at stepped
      split_ifs at stepped <;> cases stepped
      · exact .inl ⟨rfl, by simp [sentData], rfl⟩
      · exact .inl ⟨Session.pushed_of_written_eq (Session.close_written _),
          by simp [Session.close_streamData, sentData], rfl⟩
  | recvHandle =>
      simp only [step] at stepped
      rcases pending : e.recv.pending with _ | ⟨frame, rest⟩ <;> simp only [pending] at stepped
      · cases stepped
      · -- the frame is handled whether it ends the loop or not
        obtain ⟨sameData, samePushed⟩ := Session.handleFrame_streamData md5Hex e.session frame
        split at stepped <;> rename_i session _ handled <;> rw [handled] at sameData samePushed <;>
          cases stepped <;> exact .inl ⟨samePushed, by simpa [sentData] using sameData, rfl⟩
  | close =>
      cases stepped
      exact .inl ⟨Session.pushed_of_written_eq (Session.close_written _),
        by simp [withSession, Session.close_streamData, sentData], rfl⟩
  | streamShutdown ref | streamCloseWithError ref _ =>
      simp only [step] at stepped
      split_ifs at stepped
      cases stepped
      exact .inl ⟨rfl, by simp [withSession, Session.updateStream, sentData], rfl⟩
  | streamSendData ref data =>
      simp only [step] at stepped
      split_ifs at stepped with inside processing
      · cases stepped
        obtain ⟨stream, stored⟩ : ∃ stream, e.session.objects[ref]? = some stream :=
          ⟨_, List.getElem?_eq_getElem inside⟩
        refine .inl ⟨Session.pushed_of_written_eq (Session.sendStreamData_written _ _ _), ?_, rfl⟩
        simp [withSession, Session.sendStreamData, sentData, stored, processing]
      · cases stepped
        obtain ⟨stream, stored⟩ : ∃ stream, e.session.objects[ref]? = some stream :=
          ⟨_, List.getElem?_eq_getElem inside⟩
        exact .inl ⟨rfl, by simp [sentData, stored, processing], rfl⟩
  | streamWrite ref data =>
      simp only [step] at stepped
      cases stored : e.session.objects[ref]? with
      | none => simp [stored] at stepped
      | some stream =>
          simp only [stored, Option.some.injEq] at stepped
          subst stepped
          by_cases refused : (stream.isClosed || !e.processing) = true
          · exact .inl ⟨by simp [refused], by simp [refused, sentData, stored], by simp [refused]⟩
          · refine .inl ⟨?_, ?_, by simp [refused, withSession]⟩
            · simp only [refused, withSession]
              exact Session.pushed_of_written_eq (Session.sendStreamData_written _ _ _)
            · simp [refused, withSession, Session.sendStreamData, sentData, stored]
  | streamRead ref bufLen =>
      simp only [step] at stepped
      split at stepped
      · split at stepped <;> cases stepped
        exact .inl ⟨rfl, by simp [withSession, Session.updateStream, sentData], rfl⟩
      · cases stepped
  | processStreamData =>
      simp only [step] at stepped
      by_cases running : e.processing = true
      swap
      · simp [running] at stepped
      simp only [running, Bool.not_true, Bool.false_eq_true, if_false] at stepped
      rcases queue : e.session.streamData with _ | ⟨⟨streamId, data⟩, rest⟩ <;>
        simp only [queue] at stepped
      · split_ifs at stepped
        cases stepped
        exact .inr (.inr ⟨rfl, rfl, rfl, queue, rfl⟩)
      · refine .inr (.inl ⟨running, rfl, _, rest, rfl, ?_⟩)
        -- a closed session drops the item instead of writing it
        split_ifs at stepped <;> cases stepped
        · exact ⟨rfl, .inr ⟨Session.pushed_of_written_eq rfl, rfl⟩⟩
        · exact ⟨rfl, .inl ⟨by simp [withSession, Frame.pushed, Session.pushed, Session.writeFrame], running⟩⟩

/-- One step keeps the stream data written a prefix of `handed`, what was
queued at the start and handed over since, with this step's data added; and
while `process_stream_data` runs it keeps the data written and the data queued
together equal to it. -/
theorem step_delivered {e next : Endpoint} {event : SessionEvent} {handed : List (UInt32 × List UInt8)}
    (stepped : e.step md5Hex event = some next)
    (queued : ∀ streamId data, event ≠ .writeDataFrame streamId data)
    (written : e.session.pushed <+: handed)
    (whole : e.processing = true → e.session.pushed ++ e.session.streamData = handed) :
    next.session.pushed <+: handed ++ sentData e event ∧
      (next.processing = true →
        next.session.pushed ++ next.session.streamData = handed ++ sentData e event) := by
  rcases step_streamData md5Hex stepped queued with
    ⟨samePushed, queuedData, sameProcessing⟩ |
      ⟨running, noData, item, rest, queue, rest', ⟨wrote, stillRunning⟩ | ⟨dropped, stopped⟩⟩ |
      ⟨noData, -, samePushed, -, stopped⟩
  · refine ⟨samePushed ▸ written.trans (List.prefix_append _ _), fun running => ?_⟩
    rw [samePushed, queuedData, ← List.append_assoc, whole (sameProcessing ▸ running)]
  · -- the oldest item moves from the queue to the frames
    have moved : next.session.pushed ++ next.session.streamData = handed := by
      rw [wrote, rest', List.append_assoc, List.singleton_append, ← queue, whole running]
    rw [noData, List.append_nil]
    exact ⟨moved ▸ List.prefix_append _ _, fun _ => moved⟩
  · rw [noData, List.append_nil, dropped]
    exact ⟨written, fun running => absurd (stopped ▸ running) Bool.false_ne_true⟩
  · rw [noData, List.append_nil, samePushed]
    exact ⟨written, fun running => absurd (stopped ▸ running) Bool.false_ne_true⟩

theorem stream_data_written_in_order {e final : Endpoint} {events : List SessionEvent}
    (queuedOnly : ∀ event ∈ events, ∀ streamId data, event ≠ .writeDataFrame streamId data)
    (done : Runs.run (step md5Hex) e events = some final) :
    final.session.pushed <+:
        e.session.pushed ++ e.session.streamData ++ Runs.collect (step md5Hex) sentData e events ∧
      (final.processing = true → final.session.pushed ++ final.session.streamData =
        e.session.pushed ++ e.session.streamData ++ Runs.collect (step md5Hex) sentData e events) := by
  -- the relation: at every state of the run, the conclusion for what has been handed over so far
  apply Runs.run_collect_relation (step md5Hex) sentData
    (fun event => ∀ streamId data, event ≠ .writeDataFrame streamId data)
    (fun start e sent => e.session.pushed <+: start.session.pushed ++ start.session.streamData ++ sent ∧
      (e.processing = true → e.session.pushed ++ e.session.streamData =
        start.session.pushed ++ start.session.streamData ++ sent)) ?_ ?_ queuedOnly done
  · intro start
    exact ⟨by simp, fun _ => by simp⟩
  · intro start e sent event next queued ⟨written, whole⟩ stepped
    simpa only [List.append_assoc] using step_delivered md5Hex stepped queued written whole

/-- A client opens stream 1, hands it `[1]` with `send_data` and `[2]` with
`poll_write`, and `process_stream_data` runs twice. -/
theorem send_then_write_pushed_in_order :
    ∃ final, Runs.run (step fun _ => []) (init (Session.newClient PaddingFactory.defaultScheme none))
        [.openStream, .streamSendData 0 [1], .streamWrite 0 [2], .processStreamData, .processStreamData] =
        some final ∧
      (final.session.pushed <+:
          (init (Session.newClient PaddingFactory.defaultScheme none)).session.pushed ++
            (init (Session.newClient PaddingFactory.defaultScheme none)).session.streamData ++
            Runs.collect (step fun _ => []) sentData (init (Session.newClient PaddingFactory.defaultScheme none))
              [.openStream, .streamSendData 0 [1], .streamWrite 0 [2], .processStreamData, .processStreamData] ∧
        (final.processing = true → final.session.pushed ++ final.session.streamData =
          (init (Session.newClient PaddingFactory.defaultScheme none)).session.pushed ++
            (init (Session.newClient PaddingFactory.defaultScheme none)).session.streamData ++
            Runs.collect (step fun _ => []) sentData (init (Session.newClient PaddingFactory.defaultScheme none))
              [.openStream, .streamSendData 0 [1], .streamWrite 0 [2], .processStreamData,
                .processStreamData])) :=
  ⟨_, rfl, stream_data_written_in_order (fun _ => []) (by simp) rfl⟩

/-- Both pieces of stream 1's data go out as `Push` frames, in the order the
calls returned. -/
example :
    ((Runs.run (step fun _ => []) (init (Session.newClient PaddingFactory.defaultScheme none))
        [.openStream, .streamSendData 0 [1], .streamWrite 0 [2], .processStreamData,
          .processStreamData]).map fun e => e.session.pushed) =
      some [(1, [1]), (1, [2])] := by
  decide

end Endpoint

end AnyTls
