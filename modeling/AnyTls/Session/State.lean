/-
# The session state

A `Session` owns the map from stream ids to `Stream` objects, the map from
stream ids to the senders of the streams' receive channels, the stream-id
counter and the session flags. `Stream` objects are shared (`Arc<Stream>`):
the session's map, a proxy handler and the pool may all hold one. Here they live
in one heap, `objects`, and the maps and callers name them by position, so that
replacing a map entry is visibly different from changing the object it held.

A receive channel has exactly one sender, the one moved into
`stream_receive_tx`. Removing or replacing that entry drops the sender, which
closes the channel of the stream it fed (`removeReceiver`, `insertReceiver`).

Frames are recorded as they are handed to `write_frame`; how they become bytes
is the subject of `WritePadding` and `WriteOrder`.
-/

import AnyTls.Protocol.Codec
import AnyTls.Session.StreamReader
import AnyTls.Padding.Factory
import AnyTls.Util.Error

namespace AnyTls

/-- A `Stream` object: its id, its reader, its flags, and the result sent on its
SYNACK channel (`none` while the sender is still held). -/
structure StreamState where
  id : UInt32
  reader : StreamReader
  isClosed : Bool
  closeError : Option AnyTlsError
  synack : Option (Except AnyTlsError Unit)
  deriving DecidableEq, Repr

namespace StreamState

/-- `Stream::new` over a fresh `StreamReader` on a fresh channel. -/
def new (id : UInt32) : StreamState := ⟨id, StreamReader.new id ⟨[], false⟩, false, none, none⟩

/-- `Stream::close_with_error`: only the first close records its error. -/
def closeWithError (stream : StreamState) (err : AnyTlsError) : StreamState :=
  if stream.isClosed then stream else { stream with isClosed := true, closeError := some err }

/-- `Stream::notify_synack`: the first notification is sent, errors re-wrapped
as `Protocol(e.to_string())`; later ones find the sender taken. -/
def notifySynack (stream : StreamState) (result : Except AnyTlsError Unit) : StreamState :=
  match stream.synack with
  | some _ => stream
  | none =>
      let sent := match result with
        | .ok () => .ok ()
        | .error e => .error (.protocol e.toString)
      { stream with synack := some sent }

/-- `AsyncWrite::poll_shutdown`: marks the stream closed and nothing else. -/
def pollShutdown (stream : StreamState) : StreamState := { stream with isClosed := true }

/-- The sender of the stream's receive channel is dropped. -/
def dropSender (stream : StreamState) : StreamState :=
  { stream with reader := { stream.reader with readerRx := stream.reader.readerRx.dropSender } }

/-- A chunk arrives on the stream's receive channel. -/
def deliver (stream : StreamState) (data : List UInt8) : StreamState :=
  { stream with reader := { stream.reader with readerRx := stream.reader.readerRx.send data } }

@[simp]
theorem closeWithError_reader (stream : StreamState) (err : AnyTlsError) :
    (stream.closeWithError err).reader = stream.reader := by
  unfold closeWithError
  split <;> rfl

@[simp]
theorem notifySynack_reader (stream : StreamState) (result : Except AnyTlsError Unit) :
    (stream.notifySynack result).reader = stream.reader := by
  unfold notifySynack
  split <;> rfl

@[simp]
theorem pollShutdown_reader (stream : StreamState) : stream.pollShutdown.reader = stream.reader := rfl

end StreamState

/-- The session: its role, the two stream maps (values are positions in
`objects`), the stream-id counter, the stream-data channel that `Stream` writes
feed, the flags, the padding state, the callback announcements, the frames
written so far, and the process-global default padding factory. -/
structure Session where
  isClient : Bool
  streams : AList (fun _ : UInt32 => Nat)
  streamReceiveTx : AList (fun _ : UInt32 => Nat)
  objects : List StreamState
  streamId : Nat
  streamData : List (UInt32 × List UInt8)
  isClosed : Bool
  closeNotified : Bool
  writerShutdown : Bool
  padding : PaddingFactory
  peerVersion : Nat
  hasCallback : Bool
  announced : List Nat
  serverSettings : Option StringMap
  written : List Frame
  defaultFactory : Option PaddingFactory

namespace Session

/-- `Session::new_client`. -/
def newClient (padding : PaddingFactory) (defaultFactory : Option PaddingFactory) : Session :=
  ⟨true, ∅, ∅, [], 1, [], false, false, false, padding, 0, false, [], none, [], defaultFactory⟩

/-- `Session::new_server`, with `set_stream_callback` already called when
`hasCallback` holds. -/
def newServer (padding : PaddingFactory) (hasCallback : Bool)
    (defaultFactory : Option PaddingFactory) : Session :=
  ⟨false, ∅, ∅, [], 1, [], false, false, false, padding, 0, hasCallback, [], none, [],
    defaultFactory⟩

/-- Apply `f` to the stream object at `ref`. -/
def updateStream (s : Session) (ref : Nat) (f : StreamState → StreamState) : Session :=
  { s with objects := s.objects.modify ref f }

/-- Allocate a fresh `Stream` object; its position is the heap's length. -/
def alloc (s : Session) (id : UInt32) : Session × Nat :=
  ({ s with objects := s.objects ++ [StreamState.new id] }, s.objects.length)

/-- The sender registered for `id` goes out of scope: the channel it fed closes. -/
def dropReceiver (s : Session) (id : UInt32) : Session :=
  match s.streamReceiveTx.lookup id with
  | some old => s.updateStream old StreamState.dropSender
  | none => s

/-- `stream_receive_tx.insert(id, tx)`: the replaced sender, if any, is dropped. -/
def insertReceiver (s : Session) (id : UInt32) (ref : Nat) : Session :=
  { s.dropReceiver id with streamReceiveTx := s.streamReceiveTx.insert id ref }

/-- `stream_receive_tx.remove(&id)`: the removed sender is dropped. -/
def removeReceiver (s : Session) (id : UInt32) : Session :=
  { s.dropReceiver id with streamReceiveTx := s.streamReceiveTx.erase id }

/-- `write_frame`, as seen from the session: the frame is handed on. -/
def writeFrame (s : Session) (frame : Frame) : Session := { s with written := s.written ++ [frame] }

/-- What `close` does to each entry it drains from `streams`: close the stream,
answer its SYNACK waiter, and drop its receive sender. -/
def drainEntry (s : Session) (entry : (_ : UInt32) × Nat) : Session :=
  (s.updateStream entry.2 fun stream =>
    (stream.closeWithError .sessionClosed).notifySynack (.error .sessionClosed)).removeReceiver
    entry.1

/-- `Session::close`. A second call returns at once. The first marks the
session closed, signals `close_notify`, drains `streams` entry by entry, and
shuts the writer down. -/
def close (s : Session) : Session :=
  if s.isClosed then s
  else
    let s := { s with isClosed := true, closeNotified := true }
    let s := s.streams.entries.foldl drainEntry s
    { s with streams := ∅, writerShutdown := true }

/-- `Session::open_stream` up to the release of the `stream_receive_tx` lock:
refused on a closed session; otherwise the next id, and a fresh stream whose
receive sender is registered under it. -/
def openStreamRegister (s : Session) : Except AnyTlsError (Session × UInt32 × Nat) :=
  if s.isClosed then .error .sessionClosed
  else
    let id := UInt32.ofNat s.streamId
    -- `fetch_add(1)` wraps at `2 ^ 32`
    let s := { s with streamId := (s.streamId + 1) % 2 ^ 32 }
    let (s, ref) := s.alloc id
    .ok (s.insertReceiver id ref, id, ref)

/-- The rest of `open_stream`, under the `streams` lock and after it: the
stream is stored under its id and its `Syn` frame is written. -/
def openStreamStore (s : Session) (id : UInt32) (ref : Nat) : Session :=
  let s := { s with streams := s.streams.insert id ref }
  s.writeFrame (Frame.control .syn id)

@[simp]
theorem openStreamStore_streams (s : Session) (id : UInt32) (ref : Nat) :
    (s.openStreamStore id ref).streams = s.streams.insert id ref :=
  rfl

@[simp]
theorem openStreamStore_streamReceiveTx (s : Session) (id : UInt32) (ref : Nat) :
    (s.openStreamStore id ref).streamReceiveTx = s.streamReceiveTx :=
  rfl

@[simp]
theorem openStreamStore_objects (s : Session) (id : UInt32) (ref : Nat) :
    (s.openStreamStore id ref).objects = s.objects :=
  rfl

/-- `Session::open_stream` with no other task between its two lock sections. -/
def openStream (s : Session) : Except AnyTlsError (Session × Nat) :=
  match s.openStreamRegister with
  | .ok (registered, id, ref) => .ok (registered.openStreamStore id ref, ref)
  | .error e => .error e

/-- On an open session `open_stream` registers a fresh stream, at the heap's
end, under the counter's value, stores it, and writes its `Syn`. -/
theorem openStream_ok {s : Session} (open_ : s.isClosed = false) :
    s.openStream =
      .ok (((({ s with streamId := (s.streamId + 1) % 2 ^ 32 } : Session).alloc
        (UInt32.ofNat s.streamId)).1.insertReceiver (UInt32.ofNat s.streamId) s.objects.length).openStreamStore
          (UInt32.ofNat s.streamId) s.objects.length, s.objects.length) := by
  unfold openStream openStreamRegister
  rw [if_neg (by simp [open_])]
  rfl

/-- A successful `open_stream` is the one `openStream_ok` describes. -/
theorem openStream_eq_ok {s next : Session} {ref : Nat} (opened : s.openStream = .ok (next, ref)) :
    s.isClosed = false ∧ ref = s.objects.length ∧
      next = ((({ s with streamId := (s.streamId + 1) % 2 ^ 32 } : Session).alloc
        (UInt32.ofNat s.streamId)).1.insertReceiver (UInt32.ofNat s.streamId) s.objects.length).openStreamStore
          (UInt32.ofNat s.streamId) s.objects.length := by
  by_cases open_ : s.isClosed = false
  · rw [openStream_ok open_, Except.ok.injEq, Prod.mk.injEq] at opened
    obtain ⟨rfl, rfl⟩ := opened
    exact ⟨open_, rfl, rfl⟩
  · simp [openStream, openStreamRegister, open_] at opened

/-- `Stream::send_data` and an accepted `poll_write`: the data goes to the
session's stream-data channel under the stream's id. -/
def sendStreamData (s : Session) (ref : Nat) (data : List UInt8) : Session :=
  match s.objects[ref]? with
  | some stream => { s with streamData := s.streamData ++ [(stream.id, data)] }
  | none => s

/-! ### What each operation leaves alone -/

/-- Dropping a sender changes the stream objects and nothing else. -/
theorem dropReceiver_eq (s : Session) (id : UInt32) :
    s.dropReceiver id = { s with objects := (s.dropReceiver id).objects } := by
  unfold dropReceiver
  split <;> rfl

/-- Draining an entry changes the stream objects and the receive map only. -/
theorem drainEntry_eq (s : Session) (entry : (_ : UInt32) × Nat) :
    s.drainEntry entry =
      { s with
        objects := (s.drainEntry entry).objects
        streamReceiveTx := (s.drainEntry entry).streamReceiveTx } := by
  unfold drainEntry removeReceiver
  rw [dropReceiver_eq]
  rfl

/-- So does draining any list of entries. -/
theorem foldl_drainEntry_eq (entries : List ((_ : UInt32) × Nat)) (s : Session) :
    entries.foldl drainEntry s =
      { s with
        objects := (entries.foldl drainEntry s).objects
        streamReceiveTx := (entries.foldl drainEntry s).streamReceiveTx } := by
  induction entries generalizing s with
  | nil => rfl
  | cons entry entries ih =>
      rw [List.foldl_cons, ih, drainEntry_eq]

/-- `close` changes the flags, both maps and the stream objects. -/
theorem close_eq (s : Session) (open_ : s.isClosed = false) :
    s.close =
      { s with
        isClosed := true
        closeNotified := true
        writerShutdown := true
        streams := ∅
        objects := (s.streams.entries.foldl drainEntry
          { s with isClosed := true, closeNotified := true }).objects
        streamReceiveTx := (s.streams.entries.foldl drainEntry
          { s with isClosed := true, closeNotified := true }).streamReceiveTx } := by
  unfold close
  simp only [open_, Bool.false_eq_true, if_false]
  conv_lhs => rw [foldl_drainEntry_eq]

end Session

end AnyTls
