/-
# Handling received frames, and the session's events

`Session::handle_frame` dispatches on the command of each decoded frame. The
receive loop (`recv_loop`) reads a chunk, decodes every whole frame in its
buffer, and handles them one at a time; other tasks (the proxies, the
heartbeat, the pool) call into the session between any two of these steps.
`Endpoint.step` is that interleaving: one event is one lock-protected step of
one task.
-/

import AnyTls.Session.State
import AnyTls.Library.Runs

namespace AnyTls

namespace Session

variable (md5Hex : List UInt8 → List Char)

/-- `Push`: the payload goes to the stream whose sender is registered for the
id, and is dropped with a warning otherwise. -/
def handlePush (s : Session) (streamId : UInt32) (data : List UInt8) : Session :=
  match s.streamReceiveTx.lookup streamId with
  | some ref => s.updateStream ref (·.deliver data)
  | none => s

/-- The `Syn` branch on the server up to the release of the
`stream_receive_tx` lock: a fresh stream whose receive sender is registered
under the id, whatever was registered for it. -/
def handleSynRegister (s : Session) (streamId : UInt32) : Session × Nat :=
  let (s, ref) := s.alloc streamId
  (s.insertReceiver streamId ref, ref)

/-- The rest of the `Syn` branch: the stream is stored under the id and
announced to the `on_new_stream` callback. -/
def handleSynStore (s : Session) (streamId : UInt32) (ref : Nat) : Session :=
  let s := { s with streams := s.streams.insert streamId ref }
  if s.hasCallback then { s with announced := s.announced ++ [ref] } else s

@[simp]
theorem handleSynStore_streams (s : Session) (streamId : UInt32) (ref : Nat) :
    (s.handleSynStore streamId ref).streams = s.streams.insert streamId ref := by
  unfold handleSynStore
  dsimp only
  split <;> rfl

@[simp]
theorem handleSynStore_streamReceiveTx (s : Session) (streamId : UInt32) (ref : Nat) :
    (s.handleSynStore streamId ref).streamReceiveTx = s.streamReceiveTx := by
  unfold handleSynStore
  dsimp only
  split <;> rfl

@[simp]
theorem handleSynStore_objects (s : Session) (streamId : UInt32) (ref : Nat) :
    (s.handleSynStore streamId ref).objects = s.objects := by
  unfold handleSynStore
  dsimp only
  split <;> rfl

/-- `Syn` on the server: a fresh stream is registered in both maps, whatever
the maps held for the id, and announced to the `on_new_stream` callback. A
client ignores it. -/
def handleSyn (s : Session) (streamId : UInt32) : Session :=
  if s.isClient then s
  else
    let (registered, ref) := s.handleSynRegister streamId
    registered.handleSynStore streamId ref

/-- The `Syn` branch with its sections run back to back, as one body. -/
theorem handleSyn_eq (s : Session) (streamId : UInt32) : s.handleSyn streamId =
    if s.isClient then s
    else
      let (s, ref) := s.alloc streamId
      let s := s.insertReceiver streamId ref
      let s := { s with streams := s.streams.insert streamId ref }
      if s.hasCallback then { s with announced := s.announced ++ [ref] } else s :=
  rfl

/-- `SynAck` on the client: the registered stream's waiter learns the outcome,
an error when the frame carries a message. -/
def handleSynAck (s : Session) (streamId : UInt32) (data : List UInt8) : Session :=
  if s.isClient then
    match s.streams.lookup streamId with
    | some ref =>
        s.updateStream ref (·.notifySynack (if data.isEmpty then .ok ()
          else .error (.protocol ("Server error: ".toList ++ RustText.fromUtf8Lossy data))))
    | none => s
  else s

/-- `Fin`: the id leaves both maps, and the stream's receive channel closes. -/
def handleFin (s : Session) (streamId : UInt32) : Session :=
  { s with streams := s.streams.erase streamId }.removeReceiver streamId

/-- The `ServerSettings` payload: `v=2` and the configured extra settings. -/
def serverSettingsMap (s : Session) : StringMap :=
  match s.serverSettings with
  | some extra => extra.map.entries.foldl (fun m entry => m.insert entry.1 entry.2)
      (StringMap.new.insert "v".toList "2".toList)
  | none => StringMap.new.insert "v".toList "2".toList

/-- The `padding-md5` check of `Settings`: a digest other than the server's is
answered with the server's scheme. -/
def answerPaddingMd5 (s : Session) (settings : StringMap) : Session :=
  match settings.get "padding-md5".toList with
  | some clientMd5 =>
      if clientMd5 ≠ s.padding.md5 md5Hex then
        s.writeFrame ⟨.updatePaddingScheme, 0, s.padding.rawScheme⟩
      else s
  | none => s

/-- The version check of `Settings`: a version of at least 2 is recorded and
answered with `ServerSettings`. -/
def answerVersion (s : Session) (settings : StringMap) : Session :=
  match (settings.get "v".toList).bind RustText.parseU8 with
  | some v =>
      if 2 ≤ v then { s with peerVersion := v }.writeFrame ⟨.serverSettings, 0, s.serverSettingsMap.toBytes⟩
      else s
  | none => s

/-- `Settings` on the server: the `padding-md5` check, then the version check. -/
def handleSettings (s : Session) (data : List UInt8) : Session :=
  if !s.isClient && !data.isEmpty then
    let settings := StringMap.fromBytes data
    (s.answerPaddingMd5 md5Hex settings).answerVersion settings
  else s

/-- `ServerSettings` on the client: the server's version is recorded. -/
def handleServerSettings (s : Session) (data : List UInt8) : Session :=
  if s.isClient && !data.isEmpty then
    match ((StringMap.fromBytes data).get "v".toList).bind RustText.parseU8 with
    | some v => { s with peerVersion := v }
    | none => s
  else s

/-- `UpdatePaddingScheme` on the client: `update_default`, and on success the
session's factory becomes `PaddingFactory::default()`, which is the factory just
set. A rejected scheme, or a `OnceLock` already set, changes nothing. -/
def handleUpdatePaddingScheme (s : Session) (data : List UInt8) : Session :=
  if s.isClient && !data.isEmpty then
    match PaddingFactory.updateDefault s.defaultFactory data with
    | .ok factory =>
        let (global, padding) := PaddingFactory.default (some factory)
        { s with defaultFactory := global, padding := padding }
    | .error _ => s
  else s

/-- Once the process-global factory is set, as `PaddingFactory::default()` at
the client's start-up sets it, no update is applied. -/
theorem handleUpdatePaddingScheme_of_initialised (s : Session)
    (initialised : s.defaultFactory.isSome) (data : List UInt8) :
    s.handleUpdatePaddingScheme data = s := by
  obtain ⟨factory, global⟩ := Option.isSome_iff_exists.mp initialised
  obtain ⟨e, rejected⟩ := PaddingFactory.updateDefault_of_some factory data
  unfold handleUpdatePaddingScheme
  split
  · rw [global, rejected]
  · rfl

/-- The message an `Alert` frame carries. -/
def alertMessage (data : List UInt8) : List Char :=
  if data.isEmpty then "Unknown alert".toList else RustText.fromUtf8Lossy data

/-- `Alert`: every stream in `streams` is closed with the alert and the map is
drained, and `is_closed` is stored. The receive senders stay registered, the
writer is not shut down and `close_notify` is not signalled. -/
def handleAlert (s : Session) (data : List UInt8) : Session :=
  let s := s.streams.entries.foldl (fun s entry => s.updateStream entry.2 (·.closeWithError
    (.protocol ("Session closed due to alert: ".toList ++ alertMessage data)))) s
  { s with streams := ∅, isClosed := true }

/-- `Session::handle_frame`: the session afterwards and the result. -/
def handleFrame (s : Session) (frame : Frame) : Session × Except AnyTlsError Unit :=
  match frame.cmd with
  | .push => (s.handlePush frame.streamId frame.data, .ok ())
  | .syn => (s.handleSyn frame.streamId, .ok ())
  | .synAck => (s.handleSynAck frame.streamId frame.data, .ok ())
  | .fin => (s.handleFin frame.streamId, .ok ())
  | .settings => (s.handleSettings md5Hex frame.data, .ok ())
  | .serverSettings => (s.handleServerSettings frame.data, .ok ())
  | .updatePaddingScheme => (s.handleUpdatePaddingScheme frame.data, .ok ())
  | .alert => (s.handleAlert frame.data, .error (.protocol ("Alert: ".toList ++ alertMessage frame.data)))
  | .heartRequest => (s.writeFrame (Frame.control .heartResponse frame.streamId), .ok ())
  | .heartResponse => (s, .ok ())
  | .waste => (s, .ok ())

/-- A session whose process-global factory is already set ignores every
`UpdatePaddingScheme` frame, whatever scheme it carries. -/
theorem handleFrame_updatePaddingScheme_of_initialised (s : Session)
    (initialised : s.defaultFactory.isSome) {frame : Frame}
    (update : frame.cmd = .updatePaddingScheme) : (s.handleFrame md5Hex frame).1 = s := by
  rw [handleFrame, update]
  exact handleUpdatePaddingScheme_of_initialised s initialised _

set_option maxRecDepth 20000 in
/-- A client started the way the client binary starts it, with the default
factory already taken, is sent the valid scheme `stop=0`: its factory keeps the
default scheme. -/
theorem update_after_default_ignored :
    (∃ factory, PaddingFactory.new (RustText.intoBytes "stop=0".toList) = .ok factory) ∧
      ((newClient PaddingFactory.defaultScheme (some PaddingFactory.defaultScheme)).handleFrame md5Hex
        ⟨.updatePaddingScheme, 0, RustText.intoBytes "stop=0".toList⟩).1.padding.rawScheme ≠
        RustText.intoBytes "stop=0".toList := by
  refine ⟨⟨_, rfl⟩, ?_⟩
  rw [handleFrame_updatePaddingScheme_of_initialised md5Hex _ rfl rfl]
  decide

/-- The `Settings` frame `start_client` sends. -/
def clientSettings (s : Session) : Frame :=
  ⟨.settings, 0, (((StringMap.new.insert "v".toList "2".toList).insert "client".toList
    "anytls-rs/0.1.0".toList).insert "padding-md5".toList (s.padding.md5 md5Hex)).toBytes⟩

end Session

/-- The receive loop's own state: its buffer, the frames decoded from the last
chunk and not yet handled, and whether it is still running. -/
structure RecvLoop where
  buffer : List UInt8
  pending : List Frame
  running : Bool

/-- A session with its two loops: `recv_loop`, and whether
`process_stream_data` is still running. -/
structure Endpoint where
  session : Session
  recv : RecvLoop
  processing : Bool

/-- One step of one task. -/
inductive SessionEvent
  | openStream
  | writeDataFrame (streamId : UInt32) (data : List UInt8)
  | writeSynAck (streamId : UInt32) (data : List UInt8)
  | heartRequest
  | startClient
  | recvRead (chunk : List UInt8)
  | recvReadError
  | recvHandle
  | close
  | streamShutdown (ref : Nat)
  | streamCloseWithError (ref : Nat) (err : AnyTlsError)
  | streamSendData (ref : Nat) (data : List UInt8)
  | streamWrite (ref : Nat) (data : List UInt8)
  | streamRead (ref : Nat) (bufLen : Nat)
  | processStreamData

namespace Endpoint

variable (md5Hex : List UInt8 → List Char)

/-- Both loops running on a fresh session. -/
def init (session : Session) : Endpoint := ⟨session, ⟨[], [], true⟩, true⟩

/-- Replace the session. -/
def withSession (e : Endpoint) (session : Session) : Endpoint := { e with session := session }

/-- One event; `none` when the task cannot take that step now (a loop that has
stopped, a read that would wait, a stream that does not exist). -/
def step (e : Endpoint) : SessionEvent → Option Endpoint
  | .openStream =>
      match e.session.openStream with
      | .ok (session, _) => some (e.withSession session)
      | .error _ => some e
  | .writeDataFrame streamId data => some (e.withSession (e.session.writeFrame ⟨.push, streamId, data⟩))
  | .writeSynAck streamId data =>
      some (e.withSession (e.session.writeFrame ⟨.synAck, streamId, data⟩))
  | .heartRequest =>
      if e.session.isClient then some (e.withSession (e.session.writeFrame (Frame.control .heartRequest 0)))
      else none
  | .startClient =>
      if e.session.isClient then some (e.withSession (e.session.writeFrame (e.session.clientSettings md5Hex)))
      else none
  | .recvRead chunk =>
      if !e.recv.running || !e.recv.pending.isEmpty then none
      else if e.session.isClosed then some { e with recv := { e.recv with running := false } }
      else if chunk.isEmpty then
        some { e with session := e.session.close, recv := { e.recv with running := false } }
      else
        let decoded := Framing.feed FrameCodec.decode e.recv.buffer chunk
        some { e with recv := ⟨decoded.2, decoded.1, true⟩ }
  | .recvReadError =>
      if !e.recv.running || !e.recv.pending.isEmpty then none
      else if e.session.isClosed then some { e with recv := { e.recv with running := false } }
      else some { e with session := e.session.close, recv := { e.recv with running := false } }
  | .recvHandle =>
      match e.recv.pending with
      | [] => none
      | frame :: rest =>
          match e.session.handleFrame md5Hex frame with
          | (session, .ok ()) => some { e with session := session, recv := { e.recv with pending := rest } }
          | (session, .error _) =>
              some { e with session := session, recv := { e.recv with pending := [], running := false } }
  | .close => some (e.withSession e.session.close)
  | .streamShutdown ref =>
      if ref < e.session.objects.length then some (e.withSession (e.session.updateStream ref (·.pollShutdown)))
      else none
  | .streamCloseWithError ref err =>
      if ref < e.session.objects.length then
        some (e.withSession (e.session.updateStream ref (·.closeWithError err)))
      else none
  | .streamSendData ref data =>
      if ref < e.session.objects.length then
        some (if e.processing then e.withSession (e.session.sendStreamData ref data) else e)
      else none
  | .streamWrite ref data =>
      match e.session.objects[ref]? with
      | some stream =>
          some (if stream.isClosed || !e.processing then e
            else e.withSession (e.session.sendStreamData ref data))
      | none => none
  | .streamRead ref bufLen =>
      match e.session.objects[ref]? with
      | some stream =>
          match stream.reader.read bufLen with
          | .ready (_, reader) => some (e.withSession (e.session.updateStream ref fun _ => { stream with reader := reader }))
          | .pending => none
      | none => none
  | .processStreamData =>
      if !e.processing then none
      else
        match e.session.streamData with
        | [] => if e.session.closeNotified then some { e with processing := false } else none
        | (streamId, data) :: rest =>
            let session := { e.session with streamData := rest }
            if session.isClosed then some { e with session := session, processing := false }
            else some (e.withSession (session.writeFrame ⟨.push, streamId, data⟩))

end Endpoint

end AnyTls
