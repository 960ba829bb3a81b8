/-
# The server's stream handler

`TcpProxyHandler::handle_stream` reads the SOCKS address the client put at the
head of the stream, then either answers a UDP-over-TCP request or resolves and
connects to the target, and writes the stream's `SynAck` (for a peer of
version 2 or later) before any data is forwarded.

The reads go through the stream's `StreamReader`, so a read waits for the next
chunk; `ReadStep` is a read of the handler with that waiting, its error and the
reader it leaves. What lies outside the repository is a parameter, `Outside`:
the text of an IPv6 address and `IpAddr`'s parser, the resolver behind
`resolve_host_with_cache`, and the outcome of `TcpStream::connect` within its
15 s timeout.

Only the paths that reach a connection attempt, and the UDP path, write a
`SynAck` (`proxyWithSynack_synAck`, `handleStream_udp`); an address that cannot
be read or a name that does not resolve ends the handler with no `SynAck`
(`handleStream_of_readSocksAddr_error`, `proxyWithSynack_of_unresolved`).
-/

import AnyTls.Session.StreamReader
import AnyTls.Protocol.Frame
import AnyTls.Util.Error
import AnyTls.Library.RustText
import AnyTls.Library.BigEndian

namespace AnyTls

/-- A read of the handler: it waits for the next chunk, or moves the reader on
and gives a value or an error. -/
def ReadStep (α : Type) : Type := StreamReader → Poll (Except AnyTlsError α × StreamReader)

namespace ReadStep

def pure {α : Type} (value : α) : ReadStep α := fun reader => .ready (.ok value, reader)

def bind {α β : Type} (first : ReadStep α) (rest : α → ReadStep β) : ReadStep β := fun reader =>
  match first reader with
  | .pending => .pending
  | .ready (.error e, next) => .ready (.error e, next)
  | .ready (.ok value, next) => rest value next

instance : Monad ReadStep where
  pure := ReadStep.pure
  bind := ReadStep.bind

/-- Return `Err(e)`. -/
def fail {α : Type} (e : AnyTlsError) : ReadStep α := fun reader => .ready (.error e, reader)

/-- `reader.read(&mut buf)` into a buffer of `len` bytes; it never fails. -/
def read (len : Nat) : ReadStep (List UInt8) := fun reader =>
  match reader.read len with
  | .ready (bytes, next) => .ready (.ok bytes, next)
  | .pending => .pending

/-- The message of the `io::Error` that `read_exact` of `total` bytes returns:
the bytes it had filled are those the reader no longer holds. -/
def exactFailure (total : Nat) (before after : StreamReader) : List Char :=
  "Failed to read exact ".toList ++ RustText.decimal total ++ " bytes, only read ".toList ++
    RustText.decimal (before.pendingBytes.length - after.pendingBytes.length)

/-- `reader.read_exact(&mut buf)` into `total` bytes, its `UnexpectedEof`
error, with the message `read_exact` gives it, mapped by `wrap`. -/
def readExactMapped (wrap : List Char → AnyTlsError) (total : Nat) : ReadStep (List UInt8) :=
  fun reader =>
    match reader.readExact total with
    | .ready (.ok bytes, next) => .ready (.ok bytes, next)
    | .ready (.error .unexpectedEof, next) => .ready (.error (wrap (exactFailure total reader next)), next)
    | .pending => .pending

/-- `reader.read_exact(&mut buf)` into `total` bytes, its error mapped to
`Protocol("Failed to read {what}: {e}")`. -/
def readExact (what : List Char) (total : Nat) : ReadStep (List UInt8) := fun reader =>
  match reader.readExact total with
  | .ready (.ok bytes, next) => .ready (.ok bytes, next)
  | .ready (.error .unexpectedEof, next) =>
      .ready (.error (.protocol ("Failed to read ".toList ++ what ++ ": ".toList ++
        exactFailure total reader next)), next)
  | .pending => .pending

theorem readExact_eq_mapped (what : List Char) (total : Nat) :
    readExact what total =
      readExactMapped (fun e => .protocol ("Failed to read ".toList ++ what ++ ": ".toList ++ e)) total :=
  rfl

theorem bind_of_error {α β : Type} {first : ReadStep α} {rest : α → ReadStep β}
    {reader next : StreamReader} {e : AnyTlsError} (failed : first reader = .ready (.error e, next)) :
    (first >>= rest) reader = .ready (.error e, next) := by
  show first.bind rest reader = _
  simp [bind, failed]

theorem bind_of_pending {α β : Type} {first : ReadStep α} {rest : α → ReadStep β}
    {reader : StreamReader} (waiting : first reader = .pending) :
    (first >>= rest) reader = .pending := by
  show first.bind rest reader = _
  simp [bind, waiting]

theorem bind_of_ok {α β : Type} {first : ReadStep α} {rest : α → ReadStep β}
    {reader next : StreamReader} {value : α} (read : first reader = .ready (.ok value, next)) :
    (first >>= rest) reader = rest value next := by
  show first.bind rest reader = _
  simp [bind, read]

/-- On a sound reader, a one-byte read returns the next byte. -/
theorem read_one {reader : StreamReader} (sound : reader.Sound) {byte : UInt8}
    {rest : List UInt8} (holds : reader.pendingBytes = byte :: rest) :
    ∃ next, read 1 reader = .ready (.ok [byte], next) ∧ next.pendingBytes = rest ∧ next.Sound := by
  obtain ⟨bytes, next, completed, nonempty⟩ :=
    StreamReader.read_of_pending sound Nat.one_pos (by simp [holds])
  obtain ⟨split, fits⟩ := StreamReader.read_pendingBytes completed
  -- the read returned one byte, so it is the next one
  obtain ⟨first, rfl⟩ : ∃ first, bytes = [first] := by
    match bytes, nonempty, fits with
    | [first], _, _ => exact ⟨first, rfl⟩
  rw [holds, List.singleton_append, List.cons.injEq] at split
  obtain ⟨rfl, left⟩ := split
  exact ⟨next, by simp [read, completed], left, StreamReader.read_sound sound completed⟩

/-- On a sound reader that holds `bytes` next, `read_exact` of as many bytes
returns them, whatever the chunking. -/
theorem readExactMapped_of_leading (wrap : List Char → AnyTlsError) {reader : StreamReader}
    (sound : reader.Sound) {bytes rest : List UInt8} (holds : reader.pendingBytes = bytes ++ rest) :
    ∃ next, readExactMapped wrap bytes.length reader = .ready (.ok bytes, next) ∧
      next.pendingBytes = rest ∧ next.Sound := by
  obtain ⟨next, done, left, nextSound⟩ :=
    StreamReader.readExact_of_available sound (by simp [holds] : bytes.length ≤ reader.pendingBytes.length)
  rw [holds, List.take_left' rfl] at done
  rw [holds, List.drop_left' rfl] at left
  exact ⟨next, by simp [readExactMapped, done], left, nextSound⟩

theorem readExact_of_leading (what : List Char) {reader : StreamReader} (sound : reader.Sound)
    {bytes rest : List UInt8} (holds : reader.pendingBytes = bytes ++ rest) :
    ∃ next, readExact what bytes.length reader = .ready (.ok bytes, next) ∧
      next.pendingBytes = rest ∧ next.Sound := by
  rw [readExact_eq_mapped]
  exact readExactMapped_of_leading _ sound holds

theorem readExactMapped_closed {wrap : List Char → AnyTlsError} {total : Nat}
    {reader next : StreamReader} {result : Except AnyTlsError (List UInt8)}
    (done : readExactMapped wrap total reader = .ready (result, next)) :
    next.readerRx.closed = reader.readerRx.closed := by
  unfold readExactMapped at done
  split at done <;> rename_i read
  · simp only [Poll.ready.injEq, Prod.mk.injEq] at done
    rw [← done.2]
    exact StreamReader.readExactLoop_closed _ _ _ _ read
  · simp only [Poll.ready.injEq, Prod.mk.injEq] at done
    rw [← done.2]
    exact StreamReader.readExactLoop_closed _ _ _ _ read
  · cases done

/-- At the end of the stream `read_exact` fails having read nothing, and says so. -/
theorem readExactMapped_at_end (wrap : List Char → AnyTlsError) {reader : StreamReader}
    (sound : reader.Sound) (drained : reader.pendingBytes = []) (closed : reader.readerRx.closed = true)
    (total : Nat) :
    ∃ next, readExactMapped wrap (total + 1) reader =
      .ready (.error (wrap ("Failed to read exact ".toList ++ RustText.decimal (total + 1) ++
        " bytes, only read ".toList ++ RustText.decimal 0)), next) := by
  obtain ⟨next, failed, left⟩ := StreamReader.readExact_at_end sound drained closed total
  have message : exactFailure (total + 1) reader next = "Failed to read exact ".toList ++
      RustText.decimal (total + 1) ++ " bytes, only read ".toList ++ RustText.decimal 0 := by
    unfold exactFailure
    rw [drained, left, List.length_nil, Nat.sub_self]
  refine ⟨next, ?_⟩
  unfold readExactMapped
  rw [failed]
  show Poll.ready (Except.error (wrap (exactFailure (total + 1) reader next)), next) = _
  rw [message]

end ReadStep

/-- `SocksAddr`: the destination's text and port. -/
structure SocksAddr where
  addr : List Char
  port : Nat
  deriving DecidableEq, Repr

/-- `IpAddr::V4(Ipv4Addr::from(ip_buf)).to_string()`: the four octets in
decimal, separated by dots. -/
def ipv4Text (octets : List UInt8) : List Char :=
  ".".toList.intercalate (octets.map fun octet => RustText.decimal octet.toNat)

/-- `read_socks_addr`: `ATYP`, then the address it announces, then the port,
big-endian. The one-byte read of `ATYP` fills nothing at the end of the
stream, and the zeroed buffer then reads as type `0x00`. -/
def readSocksAddr (ipv6Text : List UInt8 → List Char) : ReadStep SocksAddr := do
  let atypBuf ← ReadStep.read 1
  let atyp := atypBuf.headD 0
  let addr ← match atyp.toNat with
    | 0x01 => do
        let ip ← ReadStep.readExact "IPv4".toList 4
        pure (ipv4Text ip)
    | 0x03 => do
        let lenBuf ← ReadStep.readExact "domain length".toList 1
        let domainLen := (lenBuf.headD 0).toNat
        if domainLen = 0 ∨ domainLen > 255 then ReadStep.fail (.protocol "Invalid domain length".toList)
        else do
          let domain ← ReadStep.readExact "domain".toList domainLen
          match RustText.fromUtf8 domain with
          | .ok text => pure text
          | .error e => ReadStep.fail (.protocol ("Invalid domain name: ".toList ++ e.toString))
    | 0x04 => do
        let ip ← ReadStep.readExact "IPv6".toList 16
        pure (ipv6Text ip)
    | _ => ReadStep.fail (.protocol ("Unsupported address type: 0x".toList ++ RustText.lowerHex2 atyp))
  let portBuf ← ReadStep.readExact "port".toList 2
  pure ⟨addr, BigEndian.ofBytes portBuf⟩

/-- An address type other than IPv4, domain and IPv6 is refused with its
value in hex, before any further byte is read. -/
theorem readSocksAddr_of_unsupported (ipv6Text : List UInt8 → List Char) {reader next : StreamReader}
    {atyp : UInt8} (first : reader.read 1 = .ready ([atyp], next))
    (unsupported : atyp.toNat ≠ 0x01 ∧ atyp.toNat ≠ 0x03 ∧ atyp.toNat ≠ 0x04) :
    readSocksAddr ipv6Text reader =
      .ready (.error (.protocol ("Unsupported address type: 0x".toList ++ RustText.lowerHex2 atyp)),
        next) := by
  have typeRead : ReadStep.read 1 reader = .ready (.ok [atyp], next) := by
    simp [ReadStep.read, first]
  obtain ⟨notV4, notDomain, notV6⟩ := unsupported
  unfold readSocksAddr
  rw [ReadStep.bind_of_ok typeRead]
  -- the match on the type takes its last arm: simp discharges the side
  -- conditions of that arm's equation with `notV4`, `notDomain` and `notV6`
  simp only [List.headD_cons]
  exact ReadStep.bind_of_error rfl

/-- How `TcpStream::connect` ends within the 15 s timeout. -/
inductive ConnectOutcome
  | connected
  | failed (error : List Char)
  | timedOut
  deriving DecidableEq, Repr

/-- What the handler takes from outside the repository, for a type `Ip` of IP
addresses. -/
structure Outside (Ip : Type) where
  /-- `Ipv6Addr::from(ip_buf).to_string()`. -/
  ipv6Text : List UInt8 → List Char
  /-- `str::parse::<IpAddr>`. -/
  parseIp : List Char → Option Ip
  /-- `resolve_host_with_cache`. -/
  resolve : List Char → Nat → Except AnyTlsError (Ip × Nat)
  /-- `timeout(15 s, TcpStream::connect(target))`. -/
  connect : Ip × Nat → ConnectOutcome

/-- Where the handler goes once it has written what it writes before forwarding. -/
inductive HandlerExit (Ip : Type)
  /-- It returns this error. -/
  | failed (err : AnyTlsError)
  /-- `handle_udp_over_tcp`. -/
  | udp
  /-- `proxy_tcp_connection_data_forwarding` with the connection to this target. -/
  | forward (target : Ip × Nat)
  deriving DecidableEq, Repr

variable {Ip : Type} (outside : Outside Ip)

/-- `format!("{}:{}", destination.addr, destination.port)`. -/
def targetDisplay (destination : SocksAddr) : List Char :=
  destination.addr ++ ":".toList ++ RustText.decimal destination.port

/-- The socket address: the text parsed as an IP address, or else resolved. -/
def target (destination : SocksAddr) : Except AnyTlsError (Ip × Nat) :=
  match outside.parseIp destination.addr with
  | some ip => .ok (ip, destination.port)
  | none => outside.resolve destination.addr destination.port

/-- The `SynAck` a peer of version 2 or later is sent, with `data`. -/
def synAckFor (streamId : UInt32) (peerVersion : Nat) (data : List UInt8) : List Frame :=
  if 2 ≤ peerVersion then [⟨.synAck, streamId, data⟩] else []

/-- `proxy_tcp_connection_with_synack_internal` up to the forwarding: the
frames it writes and where it goes. A resolution error leaves through `?`. -/
def proxyWithSynack (streamId : UInt32) (peerVersion : Nat) (destination : SocksAddr) :
    List Frame × HandlerExit Ip :=
  match target outside destination with
  | .error e => ([], .failed e)
  | .ok socket =>
      match outside.connect socket with
      | .connected => (synAckFor streamId peerVersion [], .forward socket)
      | .failed e =>
          let message := "Failed to connect to ".toList ++ targetDisplay destination ++ ": ".toList ++ e
          (synAckFor streamId peerVersion (RustText.intoBytes message), .failed (.protocol message))
      | .timedOut =>
          let message := "Connection timeout (15s) to ".toList ++ targetDisplay destination
          (synAckFor streamId peerVersion (RustText.intoBytes message), .failed (.protocol message))

/-- `TcpProxyHandler::handle_stream` up to the forwarding: the frames it
writes, where it goes, and the stream's reader afterwards. -/
def handleStream (streamId : UInt32) (peerVersion : Nat) (reader : StreamReader) :
    Poll (List Frame × HandlerExit Ip × StreamReader) :=
  match readSocksAddr outside.ipv6Text reader with
  | .pending => .pending
  | .ready (.error e, next) => .ready ([], .failed e, next)
  | .ready (.ok destination, next) =>
      if RustText.contains "udp-over-tcp.arpa".toList destination.addr then
        .ready (synAckFor streamId peerVersion [], .udp, next)
      else
        let (frames, exit) := proxyWithSynack outside streamId peerVersion destination
        .ready (frames, exit, next)

/-! ### Which paths write a `SynAck` -/

theorem synAckFor_of_v2 (streamId : UInt32) {peerVersion : Nat} (v2 : 2 ≤ peerVersion)
    (data : List UInt8) : synAckFor streamId peerVersion data = [⟨.synAck, streamId, data⟩] :=
  if_pos v2

/-- A name that neither parses as an IP address nor resolves ends the handler
with no frame written. -/
theorem proxyWithSynack_of_unresolved {streamId : UInt32} {peerVersion : Nat}
    {destination : SocksAddr} {e : AnyTlsError} (unresolved : target outside destination = .error e) :
    proxyWithSynack outside streamId peerVersion destination = ([], .failed e) := by
  simp [proxyWithSynack, unresolved]

/-- The TCP path never goes to the UDP handler. -/
theorem proxyWithSynack_ne_udp (streamId : UInt32) (peerVersion : Nat) (destination : SocksAddr) :
    (proxyWithSynack outside streamId peerVersion destination).2 ≠ .udp := by
  unfold proxyWithSynack
  split
  · simp
  · split <;> simp

/-- Once the target is resolved, a peer of version 2 or later is sent exactly
one `SynAck`: empty when the connection is made, with the text of the error
the handler returns when it fails or times out. -/
theorem proxyWithSynack_synAck {streamId : UInt32} {peerVersion : Nat} {destination : SocksAddr}
    {socket : Ip × Nat} (v2 : 2 ≤ peerVersion) (resolved : target outside destination = .ok socket) :
    ∃ data, (proxyWithSynack outside streamId peerVersion destination).1 = [⟨.synAck, streamId, data⟩] ∧
      (data = [] ↔ ∃ target, (proxyWithSynack outside streamId peerVersion destination).2 = .forward target) ∧
      ∀ e, (proxyWithSynack outside streamId peerVersion destination).2 = .failed e →
        ∃ message, e = .protocol message ∧ data = RustText.intoBytes message := by
  cases outcome : outside.connect socket with
  | connected =>
      refine ⟨[], ?_, ?_, ?_⟩ <;> simp [proxyWithSynack, resolved, outcome, synAckFor_of_v2 _ v2]
  | failed e =>
      refine ⟨RustText.intoBytes
        ("Failed to connect to ".toList ++ targetDisplay destination ++ ": ".toList ++ e), ?_, ?_, ?_⟩ <;>
        simp [proxyWithSynack, resolved, outcome, synAckFor_of_v2 _ v2, RustText.intoBytes_ne_nil]
  | timedOut =>
      refine ⟨RustText.intoBytes ("Connection timeout (15s) to ".toList ++ targetDisplay destination),
        ?_, ?_, ?_⟩ <;>
        simp [proxyWithSynack, resolved, outcome, synAckFor_of_v2 _ v2, RustText.intoBytes_ne_nil]

/-- An address that cannot be read ends the handler with no frame written. -/
theorem handleStream_of_readSocksAddr_error {streamId : UInt32} {peerVersion : Nat}
    {reader next : StreamReader} {e : AnyTlsError}
    (failed : readSocksAddr outside.ipv6Text reader = .ready (.error e, next)) :
    handleStream outside streamId peerVersion reader = .ready ([], .failed e, next) := by
  unfold handleStream
  rw [failed]

/-- A UDP-over-TCP destination is answered with an empty `SynAck`. -/
theorem handleStream_udp {streamId : UInt32} {peerVersion : Nat} {reader next : StreamReader}
    {destination : SocksAddr} (read : readSocksAddr outside.ipv6Text reader = .ready (.ok destination, next))
    (udp : RustText.contains "udp-over-tcp.arpa".toList destination.addr = true) :
    handleStream outside streamId peerVersion reader = .ready (synAckFor streamId peerVersion [], .udp, next) := by
  unfold handleStream
  rw [read]
  exact if_pos udp

/-- Any other destination goes to `proxy_tcp_connection_with_synack_internal`. -/
theorem handleStream_proxied {streamId : UInt32} {peerVersion : Nat} {reader next : StreamReader}
    {destination : SocksAddr} (read : readSocksAddr outside.ipv6Text reader = .ready (.ok destination, next))
    (notUdp : RustText.contains "udp-over-tcp.arpa".toList destination.addr = false) :
    handleStream outside streamId peerVersion reader =
      .ready ((proxyWithSynack outside streamId peerVersion destination).1,
        (proxyWithSynack outside streamId peerVersion destination).2, next) := by
  unfold handleStream
  rw [read]
  exact if_neg (by rw [notUdp]; exact Bool.false_ne_true)

/-- A handler that has run up to the forwarding, for a peer of version 2 or
later, has either written nothing and failed, or written one `SynAck` for its
stream, empty exactly when it goes on to forward, and holding the text of the
error it returns when it fails. -/
theorem handleStream_frames {streamId : UInt32} {peerVersion : Nat} {reader next : StreamReader}
    {frames : List Frame} {exit : HandlerExit Ip} (v2 : 2 ≤ peerVersion)
    (complete : handleStream outside streamId peerVersion reader = .ready (frames, exit, next)) :
    (frames = [] ∧ ∃ e, exit = .failed e) ∨
      ∃ data, frames = [⟨.synAck, streamId, data⟩] ∧
        (data = [] ↔ exit = .udp ∨ ∃ socket, exit = .forward socket) ∧
        ∀ e, exit = .failed e → ∃ message, e = .protocol message ∧ data = RustText.intoBytes message := by
  rcases read : readSocksAddr outside.ipv6Text reader with ⟨_ | destination, after⟩ | _
  · rename_i e
    rw [handleStream_of_readSocksAddr_error outside read] at complete
    obtain ⟨rfl, exited⟩ := Prod.mk.inj (Poll.ready.inj complete)
    exact .inl ⟨rfl, e, (Prod.mk.inj exited).1.symm⟩
  · cases udp : RustText.contains "udp-over-tcp.arpa".toList destination.addr
    · rw [handleStream_proxied outside read udp] at complete
      obtain ⟨written, exited⟩ := Prod.mk.inj (Poll.ready.inj complete)
      rw [← written, ← (Prod.mk.inj exited).1]
      rcases resolved : target outside destination with e | socket
      · rw [proxyWithSynack_of_unresolved outside resolved]
        exact .inl ⟨rfl, e, rfl⟩
      · obtain ⟨data, sent, empty, carries⟩ := proxyWithSynack_synAck outside v2 resolved
        refine .inr ⟨data, sent, empty.trans (or_iff_right ?_).symm, carries⟩
        exact proxyWithSynack_ne_udp outside streamId peerVersion destination
    · rw [handleStream_udp outside read udp, synAckFor_of_v2 _ v2] at complete
      obtain ⟨written, exited⟩ := Prod.mk.inj (Poll.ready.inj complete)
      exact .inr ⟨[], written.symm, by simp [← (Prod.mk.inj exited).1]⟩
  · rw [handleStream] at complete
    simp only [read] at complete
    cases complete

/-- An IPv4 destination that connects: one empty `SynAck`, and the handler
goes on to forward. -/
theorem connected_ipv4_gets_empty_synAck :
    handleStream ⟨fun _ => [], fun _ => some (), fun _ _ => .error (.protocol []), fun _ => .connected⟩
        1 2 (StreamReader.new 1 ⟨[[0x01, 10, 0, 0, 1, 0x01, 0xBB]], false⟩) =
      .ready ([⟨.synAck, 1, []⟩], .forward ((), 443), ⟨1, ⟨[], false⟩, [], false⟩) ∧
    ((([⟨.synAck, 1, []⟩] : List Frame) = [] ∧
        ∃ e, (HandlerExit.forward ((), 443) : HandlerExit Unit) = .failed e) ∨
      ∃ data, ([⟨.synAck, 1, []⟩] : List Frame) = [⟨.synAck, 1, data⟩] ∧
        (data = [] ↔ (HandlerExit.forward ((), 443) : HandlerExit Unit) = .udp ∨
          ∃ socket, (HandlerExit.forward ((), 443) : HandlerExit Unit) = .forward socket) ∧
        ∀ e, (HandlerExit.forward ((), 443) : HandlerExit Unit) = .failed e →
          ∃ message, e = .protocol message ∧ data = RustText.intoBytes message) := by
  have complete : handleStream
      ⟨fun _ => [], fun _ => some (), fun _ _ => .error (.protocol []), fun _ => .connected⟩
        1 2 (StreamReader.new 1 ⟨[[0x01, 10, 0, 0, 1, 0x01, 0xBB]], false⟩) =
      .ready ([⟨.synAck, 1, []⟩], .forward ((), 443), ⟨1, ⟨[], false⟩, [], false⟩) := by
    decide
  exact ⟨complete, handleStream_frames _ (by decide) complete⟩

/-- A refused connection: the `SynAck` carries the text of the error the
handler returns. -/
example :
    handleStream ⟨fun _ => [], fun _ => some (), fun _ _ => .error (.protocol []), fun _ => .failed "refused".toList⟩
        1 2 (StreamReader.new 1 ⟨[[0x01, 10, 0, 0, 1, 0x01, 0xBB]], false⟩) =
      .ready ([⟨.synAck, 1, RustText.intoBytes "Failed to connect to 10.0.0.1:443: refused".toList⟩],
        .failed (.protocol "Failed to connect to 10.0.0.1:443: refused".toList), ⟨1, ⟨[], false⟩, [], false⟩) := by
  decide +kernel

/-- A stream whose SOCKS address has type `0x02`, from a peer of version 2:
the handler fails and writes no `SynAck`, whatever the network would answer. -/
theorem unsupported_address_type_no_synAck :
    handleStream outside 1 2 (StreamReader.new 1 ⟨[[0x02, 0, 0]], false⟩) =
      .ready ([], .failed (.protocol "Unsupported address type: 0x02".toList),
        ⟨1, ⟨[], false⟩, [0, 0], false⟩) := by
  apply handleStream_of_readSocksAddr_error
  rfl

end AnyTls
