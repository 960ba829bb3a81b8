/-
# UDP over TCP

The UDP-over-TCP format (sing-box v2, Connect form) on a proxy stream: one
address header, `encode_initial_request`, then each datagram behind a two-byte
big-endian length, `encode_udp_packet`. The server reads the header with
`read_initial_request` and runs `stream_to_udp`, which reads datagrams with
`read_udp_packet` and passes each to `send_to`; the client runs its own
`stream_to_udp` over the datagrams the server encodes with
`encode_udp_packet_simple`. `read_udp_packet` has one copy on each side, with
the same body. Reads are `read_exact` on the stream's reader, so they hold for
every chunking; `resolve_host_with_cache` is a parameter, and the datagrams
handed to `send_to` are recorded.

From any chunking, the server reads back the target, and the loop passes on
each non-empty datagram in order (`readInitialRequest_encoded`,
`streamToUdpLoop_encoded`). A zero-length datagram is encoded as length `0`,
which `read_udp_packet` returns as an empty payload and the loop takes for the
end of the stream: it stops there, and the datagrams after it are never sent
(`zero_length_datagram_ends_loop`). At the real end of the stream the error of
`read_exact` says neither `EOF` nor `UnexpectedEof`, so the loop ends with that
error instead of `Ok`.
-/

import AnyTls.Server.Handler

namespace AnyTls

/-- `SocketAddr` with flow info and scope id `0`. -/
inductive SocketAddr
  | v4 (ip : Vector UInt8 4) (port : UInt16)
  | v6 (ip : Vector UInt8 16) (port : UInt16)
  deriving DecidableEq, Repr

namespace UdpProxy

/-- `MAX_UDP_PACKET_SIZE`. -/
def maxUdpPacketSize : Nat := 65535

/-- `encode_initial_request`, which never fails: `isConnect = 1`, the address
in the SOCKS form, the port. -/
def encodeInitialRequest : SocketAddr → List UInt8
  | .v4 ip port => 1 :: 0x01 :: ip.toList ++ BigEndian.toBytes 2 port.toNat
  | .v6 ip port => 1 :: 0x04 :: ip.toList ++ BigEndian.toBytes 2 port.toNat

/-- A `[u8; n]` buffer as `read_exact` filled it. -/
def octets (n : Nat) (buf : List UInt8) : Vector UInt8 n := Vector.ofFn fun i => buf.getD i 0

/-- `reader.read_exact(&mut buf)` into `total` bytes, its error mapped with
`AnyTlsError::Io`. -/
def readExactIo (total : Nat) : ReadStep (List UInt8) := ReadStep.readExactMapped .io total

/-- `read_initial_request`; `resolve` is `resolve_host_with_cache`. -/
def readInitialRequest (resolve : List Char → UInt16 → Except AnyTlsError SocketAddr) :
    ReadStep SocketAddr := do
  let isConnectBuf ← readExactIo 1
  let isConnect := isConnectBuf.headD 0
  if isConnect ≠ 1 then
    ReadStep.fail (.protocol ("Unsupported UDP over TCP format: isConnect=".toList ++
      RustText.decimal isConnect.toNat))
  else
    let atypBuf ← readExactIo 1
    let atyp := atypBuf.headD 0
    match atyp.toNat with
    | 0x01 => do
        let ipBuf ← readExactIo 4
        let portBuf ← readExactIo 2
        pure (.v4 (octets 4 ipBuf) (UInt16.ofNat (BigEndian.ofBytes portBuf)))
    | 0x04 => do
        let ipBuf ← readExactIo 16
        let portBuf ← readExactIo 2
        pure (.v6 (octets 16 ipBuf) (UInt16.ofNat (BigEndian.ofBytes portBuf)))
    | 0x03 => do
        let lenBuf ← readExactIo 1
        let domainLen := (lenBuf.headD 0).toNat
        if domainLen = 0 ∨ domainLen > 255 then ReadStep.fail (.protocol "Invalid domain length".toList)
        else do
          let domainBuf ← readExactIo domainLen
          match RustText.fromUtf8 domainBuf with
          | .error e => ReadStep.fail (.protocol ("Invalid domain name: ".toList ++ e.toString))
          | .ok domain => do
              let portBuf ← readExactIo 2
              match resolve domain (UInt16.ofNat (BigEndian.ofBytes portBuf)) with
              | .ok addr => pure addr
              | .error e => ReadStep.fail e
    | _ => ReadStep.fail (.protocol ("Unknown address type: ".toList ++ RustText.decimal atyp.toNat))

/-- `read_udp_packet`, on the server and the client alike: the payload, empty
for length `0`. -/
def readUdpPacket : ReadStep (List UInt8) := do
  let lenBuf ← readExactIo 2
  let len := BigEndian.ofBytes lenBuf
  if len = 0 then pure []
  else if len > maxUdpPacketSize then
    ReadStep.fail (.protocol ("UDP packet too large: ".toList ++ RustText.decimal len ++
      " bytes".toList))
  else readExactIo len

/-- `encode_udp_packet` of the client: the length, then the payload. -/
def encodeUdpPacket (payload : List UInt8) : Except AnyTlsError (List UInt8) :=
  if payload.length > maxUdpPacketSize then
    .error (.protocol ("UDP packet too large: ".toList ++ RustText.decimal payload.length ++
      " bytes".toList))
  else .ok (BigEndian.toBytes 2 payload.length ++ payload)

/-- `encode_udp_packet_simple` of the server, the same body as the client's
`encode_udp_packet`. -/
def encodeUdpPacketSimple (payload : List UInt8) : Except AnyTlsError (List UInt8) :=
  encodeUdpPacket payload

/-- How a `stream_to_udp` loop stands. -/
inductive LoopEnd
  /-- It returned `Ok(())`. -/
  | stopped
  /-- It returned `Err(e)`. -/
  | failed (e : AnyTlsError)
  /-- It waits on the reader for the next chunk. -/
  | waiting
  /-- It is still running after the rounds counted. -/
  | running
  deriving DecidableEq, Repr

/-- The test `stream_to_udp` makes of a read error before it stops quietly. -/
def isEofError (e : AnyTlsError) : Bool :=
  RustText.contains "UnexpectedEof".toList e.toString || RustText.contains "EOF".toList e.toString

/-- The loop of `stream_to_udp` for `fuel` rounds: the payloads handed to
`send_to`, and how the loop stands. `peerKnown` says whether there is an
address to send to: always on the server, and on the client once a local peer
has sent. -/
def streamToUdpLoop (peerKnown : Bool) : Nat → StreamReader → List (List UInt8) × LoopEnd
  | 0, _ => ([], .running)
  | fuel + 1, reader =>
      match readUdpPacket reader with
      | .pending => ([], .waiting)
      | .ready (.error e, _) => ([], if isEofError e then .stopped else .failed e)
      | .ready (.ok payload, next) =>
          -- an empty payload is taken for a closed stream
          if payload.isEmpty then ([], .stopped)
          else
            let (sent, ending) := streamToUdpLoop peerKnown fuel next
            ((if peerKnown then [payload] else []) ++ sent, ending)

/-- `stream_to_udp` of the server, which sends every payload to the target. -/
def streamToUdp (fuel : Nat) (reader : StreamReader) : List (List UInt8) × LoopEnd :=
  streamToUdpLoop true fuel reader

/-- `stream_to_udp` of the client, which drops a payload while no local peer
is known. -/
def streamToUdpClient (lastPeer : Option SocketAddr) (fuel : Nat) (reader : StreamReader) :
    List (List UInt8) × LoopEnd :=
  streamToUdpLoop lastPeer.isSome fuel reader

/-! ### Reading the header and the datagrams back -/

theorem octets_toList {n : Nat} (ip : Vector UInt8 n) : octets n ip.toList = ip := by
  ext i bound
  simp [octets]

theorem port_roundtrip (port : UInt16) :
    UInt16.ofNat (BigEndian.ofBytes (BigEndian.toBytes 2 port.toNat)) = port := by
  rw [BigEndian.ofBytes_toBytes_of_lt (by simpa using port.toNat_lt), UInt16.ofNat_toNat]

section ReadBack

variable {reader : StreamReader} (sound : reader.Sound)

include sound

theorem readExactIo_of_leading {bytes rest : List UInt8} (holds : reader.pendingBytes = bytes ++ rest) :
    ∃ next, readExactIo bytes.length reader = .ready (.ok bytes, next) ∧
      next.pendingBytes = rest ∧ next.Sound ∧ next.readerRx.closed = reader.readerRx.closed := by
  obtain ⟨next, read, left, nextSound⟩ := ReadStep.readExactMapped_of_leading .io sound holds
  exact ⟨next, read, left, nextSound, ReadStep.readExactMapped_closed read⟩

/-- From any chunking, `read_initial_request` reads back the target
`encode_initial_request` wrote, and stops right after it. -/
theorem readInitialRequest_encoded (resolve : List Char → UInt16 → Except AnyTlsError SocketAddr)
    (target : SocketAddr) {rest : List UInt8}
    (holds : reader.pendingBytes = encodeInitialRequest target ++ rest) :
    ∃ next, readInitialRequest resolve reader = .ready (.ok target, next) ∧
      next.pendingBytes = rest ∧ next.Sound ∧ next.readerRx.closed = reader.readerRx.closed := by
  -- both address forms are read alike: `isConnect`, `ATYP`, the octets, the port
  rcases target with ⟨ip, port⟩ | ⟨ip, port⟩
  all_goals
    simp only [encodeInitialRequest, List.cons_append, List.append_assoc] at holds
    obtain ⟨afterConnect, connectRead, connectLeft, connectSound, connectClosed⟩ :=
      @readExactIo_of_leading _ sound [1] _ holds
    obtain ⟨afterType, typeRead, typeLeft, typeSound, typeClosed⟩ :=
      @readExactIo_of_leading _ connectSound [_] _ connectLeft
    obtain ⟨afterIp, ipRead, ipLeft, ipSound, ipClosed⟩ :=
      @readExactIo_of_leading _ typeSound ip.toList _ typeLeft
    obtain ⟨afterPort, portRead, portLeft, portSound, portClosed⟩ :=
      readExactIo_of_leading ipSound ipLeft
    rw [List.length_singleton] at connectRead typeRead
    rw [Vector.length_toList] at ipRead
    rw [BigEndian.length_toBytes] at portRead
    refine ⟨afterPort, ?_, portLeft, portSound,
      by rw [portClosed, ipClosed, typeClosed, connectClosed]⟩
    unfold readInitialRequest
    rw [ReadStep.bind_of_ok connectRead]
    simp only [List.headD_cons, ne_eq, not_true_eq_false, ↓reduceIte]
    rw [ReadStep.bind_of_ok typeRead]
    simp only [List.headD_cons, UInt8.reduceToNat]
    rw [ReadStep.bind_of_ok ipRead, ReadStep.bind_of_ok portRead, octets_toList, port_roundtrip]
    rfl

/-- A datagram of one to `65535` bytes is read back whole. -/
theorem readUdpPacket_encoded {payload rest : List UInt8} (nonempty : payload ≠ [])
    (fits : payload.length ≤ maxUdpPacketSize)
    (holds : reader.pendingBytes = BigEndian.toBytes 2 payload.length ++ payload ++ rest) :
    ∃ next, readUdpPacket reader = .ready (.ok payload, next) ∧ next.pendingBytes = rest ∧
      next.Sound := by
  have length : BigEndian.ofBytes (BigEndian.toBytes 2 payload.length) = payload.length :=
    BigEndian.ofBytes_toBytes_of_lt (by unfold maxUdpPacketSize at fits; omega)
  have positive : payload.length ≠ 0 := fun zero => nonempty (List.eq_nil_of_length_eq_zero zero)
  obtain ⟨afterLength, lengthRead, lengthLeft, lengthSound, -⟩ :=
    @readExactIo_of_leading _ sound (BigEndian.toBytes 2 payload.length) (payload ++ rest)
      (by rw [holds, List.append_assoc])
  obtain ⟨afterPayload, payloadRead, payloadLeft, payloadSound, -⟩ :=
    readExactIo_of_leading lengthSound lengthLeft
  rw [BigEndian.length_toBytes] at lengthRead
  refine ⟨afterPayload, ?_, payloadLeft, payloadSound⟩
  unfold readUdpPacket
  rw [ReadStep.bind_of_ok lengthRead]
  simp only [length, if_neg positive, if_neg (Nat.not_lt.mpr fits)]
  exact payloadRead

/-- Length `0` reads as an empty payload. -/
theorem readUdpPacket_zero {rest : List UInt8} (holds : reader.pendingBytes = [0, 0] ++ rest) :
    ∃ next, readUdpPacket reader = .ready (.ok [], next) := by
  obtain ⟨afterLength, lengthRead, -⟩ := readExactIo_of_leading sound holds
  have twoBytes : readExactIo 2 reader = .ready (.ok [0, 0], afterLength) := lengthRead
  have zero : BigEndian.ofBytes [0, 0] = 0 := by decide
  refine ⟨afterLength, ?_⟩
  unfold readUdpPacket
  rw [ReadStep.bind_of_ok twoBytes]
  simp only [zero, ↓reduceIte]
  rfl

/-- At the end of the stream `read_udp_packet` fails in reading the length. -/
theorem readUdpPacket_at_end (drained : reader.pendingBytes = [])
    (closed : reader.readerRx.closed = true) :
    ∃ next, readUdpPacket reader = .ready (.error (.io ("Failed to read exact ".toList ++
      RustText.decimal 2 ++ " bytes, only read ".toList ++ RustText.decimal 0)), next) := by
  obtain ⟨next, failed⟩ := ReadStep.readExactMapped_at_end .io sound drained closed 1
  exact ⟨next, ReadStep.bind_of_error failed⟩

end ReadBack

theorem readUdpPacket_closed {reader next : StreamReader} {payload : List UInt8}
    (done : readUdpPacket reader = .ready (.ok payload, next)) :
    next.readerRx.closed = reader.readerRx.closed := by
  unfold readUdpPacket at done
  rcases lengthRead : readExactIo 2 reader with ⟨_ | lenBuf, afterLength⟩ | _
  · rw [ReadStep.bind_of_error lengthRead] at done
    cases done
  · rw [ReadStep.bind_of_ok lengthRead] at done
    have first := ReadStep.readExactMapped_closed lengthRead
    split_ifs at done
    · cases done
      exact first
    · cases done
    · rw [ReadStep.readExactMapped_closed done, first]
  · rw [ReadStep.bind_of_pending lengthRead] at done
    cases done

/-! ### The loop -/

/-- The end of a stream, as `stream_to_udp` sees it: `read_exact`'s error. -/
def endOfStream : AnyTlsError :=
  .io ("Failed to read exact ".toList ++ RustText.decimal 2 ++ " bytes, only read ".toList ++
    RustText.decimal 0)

/-- The error at the end of the stream mentions no EOF, so the loop reports it. -/
theorem isEofError_endOfStream : isEofError endOfStream = false := by
  decide

/-- Over any chunking of a stream that carries the encodings of non-empty
datagrams and then ends, the loop hands each datagram on in order (when it has
an address to send to) and ends with `read_exact`'s error; by induction on the
datagrams, one round each. -/
theorem streamToUdpLoop_encoded (peerKnown : Bool) :
    ∀ (datagrams : List (List UInt8)) (fuel : Nat) (reader : StreamReader), reader.Sound →
      reader.readerRx.closed = true →
      (∀ d ∈ datagrams, d ≠ [] ∧ d.length ≤ maxUdpPacketSize) → datagrams.length < fuel →
      reader.pendingBytes = (datagrams.map fun d => BigEndian.toBytes 2 d.length ++ d).flatten →
      streamToUdpLoop peerKnown fuel reader =
        (if peerKnown then datagrams else [], .failed endOfStream)
  | [], fuel + 1, reader, sound, closed, _, _, holds => by
      obtain ⟨next, failed⟩ := readUdpPacket_at_end sound holds closed
      simp only [streamToUdpLoop, failed]
      rw [if_neg (by rw [← endOfStream, isEofError_endOfStream]; decide)]
      split <;> rfl
  | d :: datagrams, fuel + 1, reader, sound, closed, fit, enough, holds => by
      have ⟨nonempty, small⟩ := fit d (by simp)
      obtain ⟨next, read, left, nextSound⟩ :=
        readUdpPacket_encoded sound nonempty small (by simpa using holds)
      have rest := streamToUdpLoop_encoded peerKnown datagrams fuel next nextSound
        (by rw [readUdpPacket_closed read, closed]) (fun e mem => fit e (by simp [mem]))
        (by simp at enough; omega) left
      simp only [streamToUdpLoop, read, rest, List.isEmpty_iff, nonempty, if_false]
      split <;> rfl
  | _, 0, _, _, _, _, enough, _ => absurd enough (by omega)

/-- A datagram of at most `65535` bytes is written as its length and itself. -/
theorem encodeUdpPacket_of_fits {payload : List UInt8} (fits : payload.length ≤ maxUdpPacketSize) :
    encodeUdpPacket payload = .ok (BigEndian.toBytes 2 payload.length ++ payload) := by
  rw [encodeUdpPacket, if_neg (Nat.not_lt.mpr fits)]

/-- From any chunking, the server reads back the target and then sends every
datagram the client encoded, in order, as long as none is empty; the loop then
ends with `read_exact`'s error at the end of the stream. -/
theorem streamToUdp_encoded (resolve : List Char → UInt16 → Except AnyTlsError SocketAddr)
    {reader : StreamReader} (sound : reader.Sound) (closed : reader.readerRx.closed = true)
    (target : SocketAddr) (datagrams : List (List UInt8))
    (fit : ∀ d ∈ datagrams, d ≠ [] ∧ d.length ≤ maxUdpPacketSize)
    (holds : reader.pendingBytes = encodeInitialRequest target ++
      (datagrams.map fun d => BigEndian.toBytes 2 d.length ++ d).flatten) :
    ∃ next, readInitialRequest resolve reader = .ready (.ok target, next) ∧
      streamToUdp (datagrams.length + 1) next = (datagrams, .failed endOfStream) := by
  obtain ⟨next, read, left, nextSound, nextClosed⟩ :=
    readInitialRequest_encoded sound resolve target holds
  refine ⟨next, read, ?_⟩
  rw [streamToUdp, streamToUdpLoop_encoded true datagrams _ next nextSound
    (nextClosed.trans closed) fit (by omega) left]
  rfl

/-- On either side, a datagram of length `0` stops the loop with nothing sent,
whatever follows it. -/
theorem streamToUdpLoop_zero (peerKnown : Bool) {reader : StreamReader} (sound : reader.Sound)
    {rest : List UInt8} (holds : reader.pendingBytes = [0, 0] ++ rest) (fuel : Nat) :
    streamToUdpLoop peerKnown (fuel + 1) reader = ([], .stopped) := by
  obtain ⟨next, read⟩ := readUdpPacket_zero sound holds
  simp only [streamToUdpLoop, read, List.isEmpty_nil, ↓reduceIte]

/-- The datagrams `[]` and `[7]` to `127.0.0.1:53`, delivered in one chunk on a
stream that then ends: the server reads the target, and its loop stops at the
empty datagram with nothing sent. -/
theorem zero_length_datagram_ends_loop
    (resolve : List Char → UInt16 → Except AnyTlsError SocketAddr) :
    encodeUdpPacket [] = .ok [0, 0] ∧ encodeUdpPacket [7] = .ok [0, 1, 7] ∧
      ∃ next, readInitialRequest resolve
          (StreamReader.new 1 ⟨[encodeInitialRequest (.v4 #v[127, 0, 0, 1] 53) ++ [0, 0] ++ [0, 1, 7]],
            true⟩) = .ready (.ok (.v4 #v[127, 0, 0, 1] 53), next) ∧
        ∀ fuel, streamToUdp (fuel + 1) next = ([], .stopped) := by
  have sound : (StreamReader.new 1
      ⟨[encodeInitialRequest (.v4 #v[127, 0, 0, 1] 53) ++ [0, 0] ++ [0, 1, 7]], true⟩).Sound :=
    ⟨by simp [StreamReader.new, encodeInitialRequest], by simp [StreamReader.new]⟩
  obtain ⟨next, read, left, nextSound, -⟩ :=
    @readInitialRequest_encoded _ sound resolve (.v4 #v[127, 0, 0, 1] 53) [0, 0, 0, 1, 7]
      (by simp [StreamReader.pendingBytes, StreamReader.new])
  refine ⟨rfl, rfl, next, read, fun fuel => ?_⟩
  exact @streamToUdpLoop_zero true next nextSound [0, 1, 7] left fuel

end UdpProxy

end AnyTls
