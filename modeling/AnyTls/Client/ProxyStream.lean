/-
# Opening a proxy stream, from the client to the server's handler and back

`Client::create_proxy_stream` opens a stream on a session (which writes its
`Syn`), writes the destination as the stream's first data, and waits at most
`DEFAULT_SYNACK_TIMEOUT` for the stream's SYNACK. On the other side the
server's receive loop registers the stream on the `Syn` and hands it the
destination on the `Push`; the stream's handler reads the destination, tries
the target, and answers with a `SynAck`, which the client's receive loop hands
to the waiting stream.

`proxy_stream_handshake` follows one stream through the two sessions and the
handler: the client's result agrees with where the handler went. The stream is
ready exactly when the handler goes on to UDP or to the target the client named;
a handler that fails after its connection attempt has its message reported by
the client, under three `Protocol error: ` prefixes once displayed; and a
handler that fails before (an address it cannot read, a name that does not
resolve) writes nothing, so the client times out.

A name too long for the address form is refused only after `open_stream`:
the stream stays registered and open on the client with its `Syn` sent, and its
handler on the server waits for an address that never comes
(`too_long_name_leaves_stream_open`).
-/

import AnyTls.Client.Destination
import AnyTls.Session.Registry

namespace AnyTls

namespace Session

variable (md5Hex : List UInt8 → List Char)

/-- `recv_loop` handling `frames` in order; an error (an `Alert`) ends it. -/
def handleFrames : Session → List Frame → Session
  | s, [] => s
  | s, frame :: frames =>
      match s.handleFrame md5Hex frame with
      | (next, .ok ()) => next.handleFrames frames
      | (next, .error _) => next

@[simp]
theorem handleFrames_nil (s : Session) : s.handleFrames md5Hex [] = s := rfl

@[simp]
theorem insertReceiver_isClient (s : Session) (id : UInt32) (ref : Nat) :
    (s.insertReceiver id ref).isClient = s.isClient := by
  rw [insertReceiver, dropReceiver_eq]

/-- Whatever the maps held for `id`, the object a stream-opening step
allocates is fresh, or fresh with its sender already dropped when a stale entry
of the receive map pointed at the new position. -/
theorem alloc_dropReceiver_fresh (s : Session) (id : UInt32) :
    ∃ stream, ((s.alloc id).1.dropReceiver id).objects[s.objects.length]? = some stream ∧
      (stream = StreamState.new id ∨ stream = (StreamState.new id).dropSender) := by
  have allocated : (s.alloc id).1.objects[s.objects.length]? = some (StreamState.new id) := by
    simp [alloc]
  unfold dropReceiver
  split
  · rename_i old _
    by_cases same : old = s.objects.length
    · subst same
      exact ⟨_, by simp [updateStream, allocated], .inr rfl⟩
    · exact ⟨_, (List.getElem?_modify_ne _ _ same).trans allocated, .inl rfl⟩
  · exact ⟨_, allocated, .inl rfl⟩

/-! ### The client's side -/

/-- A stream registered under its id in a client session, open, its SYNACK not
yet received: the stream `create_proxy_stream` waits on. -/
structure Awaiting (s : Session) (streamId : UInt32) (ref : Nat) : Prop where
  isClient : s.isClient = true
  registered : s.streams.lookup streamId = some ref
  waiting : ∃ stream, s.objects[ref]? = some stream ∧ stream.synack = none ∧ stream.isClosed = false

/-- Writing a frame leaves the stream it waits on waiting. -/
theorem Awaiting.writeFrame {s : Session} {streamId : UInt32} {ref : Nat}
    (awaiting : s.Awaiting streamId ref) (frame : Frame) : (s.writeFrame frame).Awaiting streamId ref :=
  ⟨awaiting.isClient, awaiting.registered, awaiting.waiting⟩

/-- The session `open_stream` leaves: its `Syn` written, the stream registered
under the id taken from the counter, at the heap's end, and waiting. -/
theorem openStream_awaiting {s : Session} (isClient : s.isClient = true) (open_ : s.isClosed = false) :
    ∃ opened, s.openStream = .ok (opened, s.objects.length) ∧
      opened.written = s.written ++ [Frame.control .syn (UInt32.ofNat s.streamId)] ∧
      opened.Awaiting (UInt32.ofNat s.streamId) s.objects.length := by
  obtain ⟨stream, stored, fresh⟩ := alloc_dropReceiver_fresh
    { s with streamId := (s.streamId + 1) % 2 ^ 32 } (UInt32.ofNat s.streamId)
  refine ⟨_, openStream_ok open_, by simp [openStreamStore, writeFrame, alloc],
    ⟨by simpa [openStreamStore, writeFrame, alloc] using isClient, by simp [openStreamStore, writeFrame, alloc],
      stream, stored, ?_⟩⟩
  rcases fresh with rfl | rfl <;> simp [StreamState.new, StreamState.dropSender]

/-! ### The server's side -/

/-- A fresh stream, its sender dropped or not, handed one chunk: its reader
holds that chunk, and is sound when the chunk is not empty. -/
theorem deliver_fresh {stream : StreamState} {id : UInt32}
    (made : stream = .new id ∨ stream = (StreamState.new id).dropSender) {bytes : List UInt8}
    (nonempty : bytes ≠ []) :
    (stream.deliver bytes).reader.pendingBytes = bytes ∧ (stream.deliver bytes).reader.Sound := by
  have delivered : (stream.deliver bytes).reader.readerRx.queue = [bytes] ∧
      (stream.deliver bytes).reader.readerBuffer = [] ∧ (stream.deliver bytes).reader.eof = false := by
    rcases made with rfl | rfl <;>
      simp [StreamState.deliver, StreamState.new, StreamState.dropSender, StreamReader.new,
        Receiver.send, Receiver.dropSender]
  obtain ⟨queue, buffer, notEof⟩ := delivered
  refine ⟨by simp [StreamReader.pendingBytes, queue, buffer], ⟨?_, ?_⟩⟩
  · intro chunk queued
    rw [queue, List.mem_singleton] at queued
    rw [queued]
    exact nonempty
  · intro atEof
    rw [notEof] at atEof
    cases atEof

/-- The `Syn` and the `Push` of the destination on a server: the new stream's
reader holds the destination's bytes. -/
theorem handleFrames_syn_push {server : Session} (isServer : server.isClient = false)
    (streamId : UInt32) {bytes : List UInt8} (nonempty : bytes ≠ []) :
    ∃ stream, (server.handleFrames md5Hex [Frame.control .syn streamId,
        ⟨.push, streamId, bytes⟩]).objects[server.objects.length]? = some stream ∧
      stream.reader.pendingBytes = bytes ∧ stream.reader.Sound := by
  obtain ⟨-, receivers, objects, -⟩ := handleSyn_of_server isServer streamId
  obtain ⟨fresh, stored, made⟩ := alloc_dropReceiver_fresh server streamId
  have registered : (server.handleSyn streamId).streamReceiveTx.lookup streamId =
      some server.objects.length := by
    rw [receivers, AList.lookup_insert]
  have delivered : (server.handleFrames md5Hex [Frame.control .syn streamId,
      ⟨.push, streamId, bytes⟩]).objects[server.objects.length]? = some (fresh.deliver bytes) := by
    show ((server.handleSyn streamId).handlePush streamId bytes).objects[server.objects.length]? = _
    simp [handlePush, registered, updateStream, objects, stored]
  exact ⟨_, delivered, deliver_fresh made nonempty⟩

/-- A `Syn` alone on a server whose receivers are open: the new stream's reader
has nothing, and its channel is open, so a read waits. -/
theorem handleFrames_syn {server : Session} (isServer : server.isClient = false)
    (receiversOpen : server.ReceiversOpen) (streamId : UInt32) :
    ∃ stream, (server.handleFrames md5Hex [Frame.control .syn streamId]).objects[
        server.objects.length]? = some stream ∧ stream.reader.read 1 = .pending := by
  obtain ⟨-, receivers, objects, -⟩ := handleSyn_of_server isServer streamId
  obtain ⟨fresh, stored, made⟩ := alloc_dropReceiver_fresh server streamId
  have registered : (server.handleSyn streamId).streamReceiveTx.lookup streamId =
      some server.objects.length := by
    rw [receivers, AList.lookup_insert]
  -- the invariant rules out the stale entry that would have closed the new channel
  obtain ⟨stream, handled, channelOpen⟩ :=
    (receiversOpen.handleSyn streamId).feedsOpen streamId server.objects.length registered
  rw [objects, stored, Option.some.injEq] at handled
  subst handled
  refine ⟨fresh, by rw [← objects] at stored; exact stored, ?_⟩
  rcases made with rfl | rfl
  · exact StreamReader.read_of_waiting _ 1 rfl rfl rfl rfl
  · cases channelOpen

end Session

/-! ### The handler, once it has read the destination -/

/-- Once the destination is read, the handler fails with nothing written (the
name does not resolve); or writes an empty `SynAck` and goes on, to UDP or to
the destination's target; or writes its error message in the `SynAck` and
fails with that message. -/
theorem handleStream_of_destination {Ip : Type} (outside : Outside Ip) {streamId : UInt32}
    {peerVersion : Nat} {reader next : StreamReader} {destination : SocksAddr}
    (read : readSocksAddr outside.ipv6Text reader = .ready (.ok destination, next)) :
    (∃ e, handleStream outside streamId peerVersion reader = .ready ([], .failed e, next)) ∨
      (∃ exit, handleStream outside streamId peerVersion reader =
          .ready (synAckFor streamId peerVersion [], exit, next) ∧
        (exit = .udp ∨ ∃ socket, target outside destination = .ok socket ∧ exit = .forward socket)) ∨
      ∃ message, message ≠ [] ∧ handleStream outside streamId peerVersion reader =
        .ready (synAckFor streamId peerVersion (RustText.intoBytes message), .failed (.protocol message),
          next) := by
  cases udp : RustText.contains "udp-over-tcp.arpa".toList destination.addr
  case true => exact .inr (.inl ⟨.udp, handleStream_udp outside read udp, .inl rfl⟩)
  case false =>
    rw [handleStream_proxied outside read udp]
    rcases resolved : target outside destination with e | socket
    · exact .inl ⟨e, by rw [proxyWithSynack_of_unresolved outside resolved]⟩
    · cases outcome : outside.connect socket with
      | connected =>
          refine .inr (.inl ⟨.forward socket, ?_, .inr ⟨socket, rfl, rfl⟩⟩)
          simp [proxyWithSynack, resolved, outcome]
      | failed e =>
          refine .inr (.inr ⟨"Failed to connect to ".toList ++ targetDisplay destination ++
            ": ".toList ++ e, by simp, ?_⟩)
          simp [proxyWithSynack, resolved, outcome]
      | timedOut =>
          refine .inr (.inr ⟨"Connection timeout (15s) to ".toList ++ targetDisplay destination,
            by simp, ?_⟩)
          simp [proxyWithSynack, resolved, outcome]

/-- A handler whose first read waits writes nothing yet. -/
theorem handleStream_of_waiting {Ip : Type} (outside : Outside Ip) (streamId : UInt32)
    (peerVersion : Nat) {reader : StreamReader} (waiting : reader.read 1 = .pending) :
    handleStream outside streamId peerVersion reader = .pending := by
  have typeRead : ReadStep.read 1 reader = .pending := by simp [ReadStep.read, waiting]
  unfold handleStream readSocksAddr
  rw [ReadStep.bind_of_pending typeRead]

/-- The destination's address form is never empty. -/
theorem addrBytes_ne_nil (ip : IpLiterals) {addr : List Char} {port : Nat} {bytes : List UInt8}
    (encoded : addrBytes ip addr port = .ok bytes) : bytes ≠ [] := by
  unfold addrBytes at encoded
  split at encoded
  · cases encoded
    exact List.cons_ne_nil _ _
  · split at encoded
    · cases encoded
      exact List.cons_ne_nil _ _
    · dsimp only at encoded
      split at encoded
      · cases encoded
      · cases encoded
        exact List.cons_ne_nil _ _

/-- `DEFAULT_SYNACK_TIMEOUT`, in seconds. -/
def defaultSynackTimeoutSecs : Nat := 30

namespace Client

variable (md5Hex : List UInt8 → List Char) (ip : IpLiterals)

/-- `Client::create_proxy_stream` on the session `create_stream` gave, up to
the wait: `open_stream`, the destination's bytes, and the `Push` of them.
Buffering only decides when frames reach the connection, so
`disable_buffering` does not show here. -/
def openProxyStream (session : Session) (addr : List Char) (port : Nat) :
    Session × Except AnyTlsError Nat :=
  match session.openStream with
  | .error e => (session, .error e)
  | .ok (opened, ref) =>
      -- `stream.id()`: the id `open_stream` took from the counter
      let streamId := UInt32.ofNat session.streamId
      match addrBytes ip addr port with
      | .error e => (opened, .error e)
      | .ok bytes => (opened.writeFrame ⟨.push, streamId, bytes⟩, .ok ref)

/-- The end of `create_proxy_stream`, once the receive loop has handled what
arrived within the timeout: the stream when its SYNACK succeeded, and
otherwise the stream closed with the error that is returned. The SYNACK
sender lives in the stream, which the caller holds, so `SYNACK channel closed`
cannot arise. -/
def awaitSynack (session : Session) (ref : Nat) : Session × Except AnyTlsError Nat :=
  match (session.objects[ref]?).bind StreamState.synack with
  | some (.ok ()) => (session, .ok ref)
  | some (.error e) =>
      (session.updateStream ref (·.closeWithError (.protocol e.toString)), .error (.protocol e.toString))
  | none =>
      let message := "SYNACK timeout after ".toList ++ RustText.decimal defaultSynackTimeoutSecs ++
        "s".toList
      (session.updateStream ref (·.closeWithError (.protocol message)), .error (.protocol message))

/-- `create_proxy_stream` on the session `create_stream` gave, when the receive
loop handles `arrived` before the timeout. -/
def createProxyStream (session : Session) (addr : List Char) (port : Nat) (arrived : List Frame) :
    Session × Except AnyTlsError Nat :=
  match openProxyStream ip session addr port with
  | (opened, .ok ref) => awaitSynack (opened.handleFrames md5Hex arrived) ref
  | (opened, .error e) => (opened, .error e)

/-- With a destination that has its address form, `create_proxy_stream` writes
the `Syn` and then the destination, and waits on the new stream. -/
theorem openProxyStream_ok {client : Session} (isClient : client.isClient = true)
    (open_ : client.isClosed = false) {addr : List Char} {port : Nat} {bytes : List UInt8}
    (encoded : addrBytes ip addr port = .ok bytes) :
    ∃ opened, openProxyStream ip client addr port = (opened, .ok client.objects.length) ∧
      opened.written = client.written ++ [Frame.control .syn (UInt32.ofNat client.streamId),
        ⟨.push, UInt32.ofNat client.streamId, bytes⟩] ∧
      opened.Awaiting (UInt32.ofNat client.streamId) client.objects.length := by
  obtain ⟨opened, opening, written, awaiting⟩ := Session.openStream_awaiting isClient open_
  refine ⟨opened.writeFrame ⟨.push, UInt32.ofNat client.streamId, bytes⟩, ?_, ?_,
    awaiting.writeFrame _⟩
  · simp only [openProxyStream, opening, encoded]
  · simp [Session.writeFrame, written]

/-- Nothing arrived: the wait times out. -/
theorem awaitSynack_timeout {s : Session} {streamId : UInt32} {ref : Nat}
    (awaiting : s.Awaiting streamId ref) :
    (awaitSynack s ref).2 = .error (.protocol "SYNACK timeout after 30s".toList) := by
  obtain ⟨stream, stored, fresh, -⟩ := awaiting.waiting
  have text : RustText.decimal defaultSynackTimeoutSecs = "30".toList := by decide
  simp [awaitSynack, stored, fresh, text]

/-- A `SynAck` for the stream: the stream when it is empty, and otherwise the
server's message, wrapped by `handle_frame`, by `notify_synack` and by
`create_proxy_stream`. -/
theorem awaitSynack_synAck {s : Session} {streamId : UInt32} {ref : Nat}
    (awaiting : s.Awaiting streamId ref) (data : List UInt8) :
    (awaitSynack (s.handleFrames md5Hex [⟨.synAck, streamId, data⟩]) ref).2 =
      if data.isEmpty then .ok ref
      else .error (.protocol ("Protocol error: Protocol error: Server error: ".toList ++
        RustText.fromUtf8Lossy data)) := by
  obtain ⟨stream, stored, fresh, -⟩ := awaiting.waiting
  have handled : (s.handleFrames md5Hex [⟨.synAck, streamId, data⟩]).objects[ref]? =
      some (stream.notifySynack (if data.isEmpty then .ok ()
        else .error (.protocol ("Server error: ".toList ++ RustText.fromUtf8Lossy data)))) := by
    show (s.handleSynAck streamId data).objects[ref]? = _
    rw [Session.handleSynAck, if_pos awaiting.isClient]
    simp only [awaiting.registered, Session.updateStream, List.getElem?_modify_eq, stored,
      Option.map_eq_map, Option.map_some]
  -- `notify_synack` wraps the error once more, and `create_proxy_stream` a last time
  have synack : ((s.handleFrames md5Hex [⟨.synAck, streamId, data⟩]).objects[ref]?).bind
      StreamState.synack = some (if data.isEmpty then .ok ()
        else .error (.protocol (AnyTlsError.protocol ("Server error: ".toList ++
          RustText.fromUtf8Lossy data)).toString)) := by
    rw [handled, Option.bind_some]
    unfold StreamState.notifySynack
    rw [fresh]
    cases data.isEmpty <;> rfl
  have text : "Protocol error: ".toList ++ ("Protocol error: ".toList ++ "Server error: ".toList) =
      "Protocol error: Protocol error: Server error: ".toList := by decide +kernel
  unfold awaitSynack
  rw [synack]
  cases data.isEmpty
  · rw [if_neg Bool.false_ne_true, if_neg Bool.false_ne_true]
    show Except.error (AnyTlsError.protocol ("Protocol error: ".toList ++ ("Protocol error: ".toList ++
      ("Server error: ".toList ++ RustText.fromUtf8Lossy data)))) = _
    rw [← text, List.append_assoc, List.append_assoc]
  · rfl

/-! ### The handshake -/

/-- One stream opened through `create_proxy_stream`, from a client session to a
server session of version 2 or later and back. The client writes the `Syn` and
the destination; the server's new stream holds the destination, and its handler
runs up to the forwarding; once the client's receive loop has handled what the
handler wrote, `create_proxy_stream` returns the stream exactly when the
handler goes on, to UDP or to the target of the destination the client named,
and otherwise the handler's own message, or the timeout when the handler wrote
nothing. -/
theorem proxy_stream_handshake {Ip : Type} (outside : Outside Ip) {client server : Session}
    (isClient : client.isClient = true) (open_ : client.isClosed = false)
    (isServer : server.isClient = false) (v2 : 2 ≤ server.peerVersion)
    {addr : List Char} {port : Nat} {bytes : List UInt8}
    (encoded : addrBytes ip addr port = .ok bytes) (fits : port < 2 ^ 16) :
    (openProxyStream ip client addr port).1.written = client.written ++
        [Frame.control .syn (UInt32.ofNat client.streamId), ⟨.push, UInt32.ofNat client.streamId, bytes⟩] ∧
      ∃ stream frames exit next,
        (server.handleFrames md5Hex [Frame.control .syn (UInt32.ofNat client.streamId),
          ⟨.push, UInt32.ofNat client.streamId, bytes⟩]).objects[server.objects.length]? = some stream ∧
        handleStream outside (UInt32.ofNat client.streamId) server.peerVersion stream.reader =
          .ready (frames, exit, next) ∧
        (((createProxyStream md5Hex ip client addr port frames).2 = .ok client.objects.length ∧
            (exit = .udp ∨ ∃ socket, target outside ⟨addrText ip outside.ipv6Text addr, port⟩ = .ok socket ∧
              exit = .forward socket)) ∨
          (∃ message, exit = .failed (.protocol message) ∧
            (createProxyStream md5Hex ip client addr port frames).2 =
              .error (.protocol ("Protocol error: Protocol error: Server error: ".toList ++ message))) ∨
          (frames = [] ∧ (∃ e, exit = .failed e) ∧
            (createProxyStream md5Hex ip client addr port frames).2 =
              .error (.protocol "SYNACK timeout after 30s".toList))) := by
  obtain ⟨opened, opening, written, awaiting⟩ := openProxyStream_ok ip isClient open_ encoded
  have created : ∀ frames, createProxyStream md5Hex ip client addr port frames =
      awaitSynack (opened.handleFrames md5Hex frames) client.objects.length := by
    intro frames
    simp only [createProxyStream, opening]
  obtain ⟨stream, stored, pending, sound⟩ := Session.handleFrames_syn_push md5Hex isServer
    (UInt32.ofNat client.streamId) (addrBytes_ne_nil ip encoded)
  refine ⟨by rw [opening]; exact written, stream, ?_⟩
  simp only [created]
  by_cases named : addr = []
  · -- the empty text goes out as a name of length `0`, which the handler cannot read
    subst named
    rw [addrBytes_empty] at encoded
    cases encoded
    obtain ⟨next, failed⟩ := readSocksAddr_empty_name outside.ipv6Text sound pending
    exact ⟨[], _, next, stored, handleStream_of_readSocksAddr_error outside failed,
      .inr (.inr ⟨rfl, ⟨_, rfl⟩, awaitSynack_timeout awaiting⟩)⟩
  · have whole : stream.reader.pendingBytes = bytes ++ [] := by rw [pending, List.append_nil]
    obtain ⟨next, read, -, -⟩ :=
      readSocksAddr_addrBytes ip outside.ipv6Text encoded named fits sound whole
    rcases handleStream_of_destination outside read with
      ⟨e, handled⟩ | ⟨exit, handled, goesOn⟩ | ⟨message, nonempty, handled⟩
    · exact ⟨[], _, next, stored, handled, .inr (.inr ⟨rfl, ⟨e, rfl⟩, awaitSynack_timeout awaiting⟩)⟩
    · refine ⟨_, exit, next, stored, handled, .inl ⟨?_, goesOn⟩⟩
      rw [synAckFor_of_v2 _ v2, awaitSynack_synAck md5Hex awaiting]
      rfl
    · refine ⟨_, _, next, stored, handled, .inr (.inl ⟨message, rfl, ?_⟩)⟩
      have sent : (RustText.intoBytes message).isEmpty = false :=
        List.isEmpty_eq_false_iff.mpr (RustText.intoBytes_ne_nil nonempty)
      rw [synAckFor_of_v2 _ v2, awaitSynack_synAck md5Hex awaiting, sent, if_neg Bool.false_ne_true,
        RustText.fromUtf8Lossy_intoBytes]

/-- Address literals that accept nothing, so that every text goes out as a name. -/
def namesOnly : IpLiterals := ⟨fun _ => none, fun _ => none, rfl, rfl⟩

/-- A network where every name resolves and every connection is made. -/
def reachable : Outside Unit := ⟨fun _ => [], fun _ => none, fun _ port => .ok ((), port), fun _ => .connected⟩

theorem example_com_handshake :
    (openProxyStream namesOnly (Session.newClient PaddingFactory.defaultScheme none) "example.com".toList
        443).1.written =
        [Frame.control .syn 1, ⟨.push, 1, 0x03 :: 11 :: RustText.intoBytes "example.com".toList ++ [0x01, 0xBB]⟩] ∧
      ∃ stream frames exit next,
        (({ Session.newServer PaddingFactory.defaultScheme true none with peerVersion := 2 } : Session).handleFrames
          (fun _ => []) [Frame.control .syn 1, ⟨.push, 1, 0x03 :: 11 :: RustText.intoBytes "example.com".toList ++
            [0x01, 0xBB]⟩]).objects[0]? = some stream ∧
        handleStream reachable 1 2 stream.reader = .ready (frames, exit, next) ∧
        (((createProxyStream (fun _ => []) namesOnly (Session.newClient PaddingFactory.defaultScheme none)
              "example.com".toList 443 frames).2 = .ok 0 ∧
            (exit = .udp ∨ ∃ socket, target reachable ⟨addrText namesOnly reachable.ipv6Text "example.com".toList,
              443⟩ = .ok socket ∧ exit = .forward socket)) ∨
          (∃ message, exit = .failed (.protocol message) ∧
            (createProxyStream (fun _ => []) namesOnly (Session.newClient PaddingFactory.defaultScheme none)
              "example.com".toList 443 frames).2 =
              .error (.protocol ("Protocol error: Protocol error: Server error: ".toList ++ message))) ∨
          (frames = [] ∧ (∃ e, exit = .failed e) ∧
            (createProxyStream (fun _ => []) namesOnly (Session.newClient PaddingFactory.defaultScheme none)
              "example.com".toList 443 frames).2 =
              .error (.protocol "SYNACK timeout after 30s".toList))) :=
  proxy_stream_handshake (fun _ => []) namesOnly reachable rfl rfl rfl (by decide) rfl (by decide)

/-- A name that is no address literal and longer than 255 bytes: the stream is
already open when `create_proxy_stream` refuses the name, and nothing closes it.
The client's session keeps it registered and open, with only its `Syn` written,
and on the server, once that `Syn` is handled, the stream's handler waits for
the address. -/
theorem too_long_name_leaves_stream_open {Ip : Type} (outside : Outside Ip) {client server : Session}
    (isClient : client.isClient = true) (open_ : client.isClosed = false)
    (isServer : server.isClient = false) (receiversOpen : server.ReceiversOpen)
    {addr : List Char} (notIpv4 : ip.parseIpv4 addr = none) (notIpv6 : ip.parseIpv6 addr = none)
    (long : 255 < (RustText.intoBytes addr).length) (port : Nat) (arrived : List Frame) :
    ∃ after, createProxyStream md5Hex ip client addr port arrived =
        (after, .error (.protocol "Domain name too long".toList)) ∧
      after.written = client.written ++ [Frame.control .syn (UInt32.ofNat client.streamId)] ∧
      after.Awaiting (UInt32.ofNat client.streamId) client.objects.length ∧
      ∃ stream, (server.handleFrames md5Hex [Frame.control .syn (UInt32.ofNat client.streamId)]).objects[
          server.objects.length]? = some stream ∧
        handleStream outside (UInt32.ofNat client.streamId) server.peerVersion stream.reader = .pending := by
  obtain ⟨opened, opening, written, awaiting⟩ := Session.openStream_awaiting isClient open_
  have refused : addrBytes ip addr port = .error (.protocol "Domain name too long".toList) := by
    simp [addrBytes, notIpv4, notIpv6, long]
  obtain ⟨stream, stored, waiting⟩ :=
    Session.handleFrames_syn md5Hex isServer receiversOpen (UInt32.ofNat client.streamId)
  refine ⟨opened, ?_, written, awaiting, stream, stored, handleStream_of_waiting outside _ _ waiting⟩
  simp only [createProxyStream, openProxyStream, opening, refused]

theorem long_name_stream_left_open :
    ∃ after, createProxyStream (fun _ => []) namesOnly (Session.newClient PaddingFactory.defaultScheme none)
        (List.replicate 256 'a') 443 [] = (after, .error (.protocol "Domain name too long".toList)) ∧
      after.written = [Frame.control .syn 1] ∧ after.Awaiting 1 0 ∧
      ∃ stream, ((Session.newServer PaddingFactory.defaultScheme true none).handleFrames (fun _ => [])
          [Frame.control .syn 1]).objects[0]? = some stream ∧
        handleStream reachable 1 0 stream.reader = .pending :=
  too_long_name_leaves_stream_open (fun _ => []) namesOnly reachable rfl rfl rfl
    (Session.ReceiversOpen.of_empty rfl) rfl rfl
    ((by rw [List.length_replicate]; decide : 255 < (List.replicate 256 'a').length).trans_le (RustText.length_le_intoBytes _)) 443 []

end Client

end AnyTls
