/-
# The destination at the head of a proxy stream

`Client::create_proxy_stream` writes the destination as the stream's first
data, in the SOCKS address form: `ATYP`, the address, and the port big-endian.
It tries the text as an IPv4 literal, then as an IPv6 literal, and otherwise
sends it as a name of at most 255 bytes. On the server, `read_socks_addr` reads
the same form from the stream's reader. std's parsers of address literals are
a parameter.

Whatever the chunking and whatever bytes follow, the server reads back what
the client wrote for a non-empty text: the name itself or the canonical text of
the literal, and the port, and leaves the reader at the bytes after them
(`readSocksAddr_addrBytes`). The empty text is written as a name of length `0`,
which `read_socks_addr` refuses (`readSocksAddr_empty_name`), and the HTTP front
end produces it: `CONNECT :443` names the empty host on port `443`
(`connect_empty_host_refused`).
-/

import AnyTls.Client.HttpProxy
import AnyTls.Server.Handler

namespace AnyTls

/-- std's parsers of address literals, `str::parse::<Ipv4Addr>` and
`str::parse::<Ipv6Addr>`, giving the address's octets; neither accepts the
empty text. -/
structure IpLiterals where
  parseIpv4 : List Char → Option (Vector UInt8 4)
  parseIpv6 : List Char → Option (Vector UInt8 16)
  ipv4_empty : parseIpv4 [] = none
  ipv6_empty : parseIpv6 [] = none

/-- The bytes `Client::create_proxy_stream` writes for the destination
`(addr, port)`, or its error for a name longer than 255 bytes. -/
def addrBytes (ip : IpLiterals) (addr : List Char) (port : Nat) : Except AnyTlsError (List UInt8) :=
  let portBytes := BigEndian.toBytes 2 port
  match ip.parseIpv4 addr with
  | some ipv4 => .ok (0x01 :: ipv4.toList ++ portBytes)
  | none =>
      match ip.parseIpv6 addr with
      | some ipv6 => .ok (0x04 :: ipv6.toList ++ portBytes)
      | none =>
          let domainBytes := RustText.intoBytes addr
          if domainBytes.length > 255 then .error (.protocol "Domain name too long".toList)
          else .ok (0x03 :: UInt8.ofNat domainBytes.length :: domainBytes ++ portBytes)

/-- What the server should read back for `addr`: the canonical text of a
literal's octets, and a name as it is. -/
def addrText (ip : IpLiterals) (ipv6Text : List UInt8 → List Char) (addr : List Char) :
    List Char :=
  match ip.parseIpv4 addr with
  | some ipv4 => ipv4Text ipv4.toList
  | none =>
      match ip.parseIpv6 addr with
      | some ipv6 => ipv6Text ipv6.toList
      | none => addr

/-! ### What `read_socks_addr` reads

Each lemma reads one form from any sound reader, so from any chunking of the
bytes: the type byte by a one-byte read, the address and the port by
`read_exact`. -/

section ReadBack

variable (ipv6Text : List UInt8 → List Char) {reader : StreamReader} (sound : reader.Sound)
  {port : Nat} (fits : port < 2 ^ 16) {rest : List UInt8}

include sound fits

theorem readSocksAddr_ipv4 (octets : Vector UInt8 4)
    (holds : reader.pendingBytes = 0x01 :: (octets.toList ++ (BigEndian.toBytes 2 port ++ rest))) :
    ∃ next, readSocksAddr ipv6Text reader = .ready (.ok ⟨ipv4Text octets.toList, port⟩, next) ∧
      next.pendingBytes = rest ∧ next.Sound := by
  obtain ⟨afterType, typeRead, typeLeft, typeSound⟩ := ReadStep.read_one sound holds
  obtain ⟨afterIp, ipRead, ipLeft, ipSound⟩ :=
    ReadStep.readExact_of_leading "IPv4".toList typeSound typeLeft
  obtain ⟨afterPort, portRead, portLeft, portSound⟩ :=
    ReadStep.readExact_of_leading "port".toList ipSound ipLeft
  rw [Vector.length_toList] at ipRead
  rw [BigEndian.length_toBytes] at portRead
  refine ⟨afterPort, ?_, portLeft, portSound⟩
  unfold readSocksAddr
  rw [ReadStep.bind_of_ok typeRead]
  simp only [List.headD_cons, UInt8.reduceToNat]
  rw [ReadStep.bind_of_ok ipRead, ReadStep.bind_of_ok rfl, ReadStep.bind_of_ok portRead,
    BigEndian.ofBytes_toBytes_of_lt (by simpa using fits)]
  rfl

theorem readSocksAddr_ipv6 (octets : Vector UInt8 16)
    (holds : reader.pendingBytes = 0x04 :: (octets.toList ++ (BigEndian.toBytes 2 port ++ rest))) :
    ∃ next, readSocksAddr ipv6Text reader = .ready (.ok ⟨ipv6Text octets.toList, port⟩, next) ∧
      next.pendingBytes = rest ∧ next.Sound := by
  obtain ⟨afterType, typeRead, typeLeft, typeSound⟩ := ReadStep.read_one sound holds
  obtain ⟨afterIp, ipRead, ipLeft, ipSound⟩ :=
    ReadStep.readExact_of_leading "IPv6".toList typeSound typeLeft
  obtain ⟨afterPort, portRead, portLeft, portSound⟩ :=
    ReadStep.readExact_of_leading "port".toList ipSound ipLeft
  rw [Vector.length_toList] at ipRead
  rw [BigEndian.length_toBytes] at portRead
  refine ⟨afterPort, ?_, portLeft, portSound⟩
  unfold readSocksAddr
  rw [ReadStep.bind_of_ok typeRead]
  simp only [List.headD_cons, UInt8.reduceToNat]
  rw [ReadStep.bind_of_ok ipRead, ReadStep.bind_of_ok rfl, ReadStep.bind_of_ok portRead,
    BigEndian.ofBytes_toBytes_of_lt (by simpa using fits)]
  rfl

/-- A name of one to 255 bytes is read back as the text it encodes. -/
theorem readSocksAddr_name {name : List Char} (named : name ≠ [])
    (short : (RustText.intoBytes name).length ≤ 255)
    (holds : reader.pendingBytes = 0x03 :: UInt8.ofNat (RustText.intoBytes name).length ::
      (RustText.intoBytes name ++ (BigEndian.toBytes 2 port ++ rest))) :
    ∃ next, readSocksAddr ipv6Text reader = .ready (.ok ⟨name, port⟩, next) ∧
      next.pendingBytes = rest ∧ next.Sound := by
  have length : (UInt8.ofNat (RustText.intoBytes name).length).toNat =
      (RustText.intoBytes name).length := RustText.byte_toNat (by omega)
  have positive : (RustText.intoBytes name).length ≠ 0 :=
    fun zero => RustText.intoBytes_ne_nil named (List.eq_nil_of_length_eq_zero zero)
  obtain ⟨afterType, typeRead, typeLeft, typeSound⟩ := ReadStep.read_one sound holds
  obtain ⟨afterLength, lengthRead, lengthLeft, lengthSound⟩ :=
    @ReadStep.readExact_of_leading "domain length".toList _ typeSound
      [UInt8.ofNat (RustText.intoBytes name).length] _ typeLeft
  obtain ⟨afterName, nameRead, nameLeft, nameSound⟩ :=
    ReadStep.readExact_of_leading "domain".toList lengthSound lengthLeft
  obtain ⟨afterPort, portRead, portLeft, portSound⟩ :=
    ReadStep.readExact_of_leading "port".toList nameSound nameLeft
  rw [List.length_singleton] at lengthRead
  rw [BigEndian.length_toBytes] at portRead
  refine ⟨afterPort, ?_, portLeft, portSound⟩
  unfold readSocksAddr
  rw [ReadStep.bind_of_ok typeRead]
  simp only [List.headD_cons, UInt8.reduceToNat]
  rw [ReadStep.bind_of_ok lengthRead]
  simp only [List.headD_cons, length]
  rw [if_neg (by omega)]
  rw [ReadStep.bind_of_ok nameRead, RustText.fromUtf8_intoBytes]
  dsimp only
  rw [ReadStep.bind_of_ok rfl, ReadStep.bind_of_ok portRead,
    BigEndian.ofBytes_toBytes_of_lt (by simpa using fits)]
  rfl

end ReadBack

/-- A name of length `0` is refused once its length is read, whatever follows. -/
theorem readSocksAddr_empty_name (ipv6Text : List UInt8 → List Char) {reader : StreamReader}
    (sound : reader.Sound) {rest : List UInt8} (holds : reader.pendingBytes = 0x03 :: 0x00 :: rest) :
    ∃ next, readSocksAddr ipv6Text reader =
      .ready (.error (.protocol "Invalid domain length".toList), next) := by
  obtain ⟨afterType, typeRead, typeLeft, typeSound⟩ := ReadStep.read_one sound holds
  obtain ⟨afterLength, lengthRead, -, -⟩ :=
    @ReadStep.readExact_of_leading "domain length".toList _ typeSound [0x00] _ typeLeft
  rw [List.length_singleton] at lengthRead
  refine ⟨afterLength, ?_⟩
  unfold readSocksAddr
  rw [ReadStep.bind_of_ok typeRead]
  simp only [List.headD_cons, UInt8.reduceToNat]
  rw [ReadStep.bind_of_ok lengthRead]
  exact ReadStep.bind_of_error rfl

/-! ### Client and server -/

/-- Whatever the chunking and whatever follows, the server reads back the
destination the client wrote for a non-empty text, and stops right after it. -/
theorem readSocksAddr_addrBytes (ip : IpLiterals) (ipv6Text : List UInt8 → List Char)
    {addr : List Char} {port : Nat} {bytes : List UInt8} (written : addrBytes ip addr port = .ok bytes)
    (named : addr ≠ []) (fits : port < 2 ^ 16) {reader : StreamReader} (sound : reader.Sound)
    {rest : List UInt8} (holds : reader.pendingBytes = bytes ++ rest) :
    ∃ next, readSocksAddr ipv6Text reader = .ready (.ok ⟨addrText ip ipv6Text addr, port⟩, next) ∧
      next.pendingBytes = rest ∧ next.Sound := by
  unfold addrBytes at written
  unfold addrText
  rcases ipv4 : ip.parseIpv4 addr with _ | octets <;> simp only [ipv4] at written ⊢
  · rcases ipv6 : ip.parseIpv6 addr with _ | octets <;> simp only [ipv6] at written ⊢
    · -- neither literal: a name, which fits in its length byte
      split at written
      · cases written
      case isFalse short =>
        cases written
        exact readSocksAddr_name ipv6Text sound fits named (by omega) (by simp [holds])
    · cases written
      exact readSocksAddr_ipv6 ipv6Text sound fits octets (by simp [holds])
  · cases written
    exact readSocksAddr_ipv4 ipv6Text sound fits octets (by simp [holds])

/-- The empty text is no literal, so it is written as a name of length `0`. -/
theorem addrBytes_empty (ip : IpLiterals) (port : Nat) :
    addrBytes ip [] port = .ok (0x03 :: 0x00 :: BigEndian.toBytes 2 port) := by
  simp [addrBytes, ip.ipv4_empty, ip.ipv6_empty, RustText.intoBytes]

/-- `CONNECT :443` through the HTTP front end: `create_proxy_stream` is called
with the empty host and port `443`, writes `03 00 01 BB`, and the server's
`read_socks_addr` refuses it. -/
theorem connect_empty_host_refused (ip : IpLiterals) (ipv6Text : List UInt8 → List Char)
    (createProxyStream : List Char × Nat → Except AnyTlsError Unit) :
    (HttpProxy.handleHttpProxyConnection createProxyStream
        [RustText.intoBytes "CONNECT :443 HTTP/1.1\r\n\r\n".toList]).proxied = some ([], 443) ∧
      addrBytes ip [] 443 = .ok [0x03, 0x00, 0x01, 0xBB] ∧
      ∃ next, readSocksAddr ipv6Text (StreamReader.new 1 ⟨[[0x03, 0x00, 0x01, 0xBB]], false⟩) =
        .ready (.error (.protocol "Invalid domain length".toList), next) := by
  -- the front end reads the header and parses it as a CONNECT to the empty host
  have header : HttpProxy.readHttpHeader [RustText.intoBytes "CONNECT :443 HTTP/1.1\r\n\r\n".toList] =
      .ok (RustText.intoBytes "CONNECT :443 HTTP/1.1\r\n\r\n".toList, []) := rfl
  have parsed : HttpProxy.readHttpRequest (RustText.intoBytes "CONNECT :443 HTTP/1.1\r\n\r\n".toList) [] =
      .ok ⟨"CONNECT".toList, "HTTP/1.1".toList, [], 443, [], true, [], []⟩ := rfl
  refine ⟨HttpProxy.handleHttpProxyConnection_proxied createProxyStream header parsed,
    addrBytes_empty ip 443, ?_⟩
  have sound : (StreamReader.new 1 ⟨[[0x03, 0x00, 0x01, 0xBB]], false⟩).Sound :=
    ⟨by simp [StreamReader.new], by simp [StreamReader.new]⟩
  exact readSocksAddr_empty_name ipv6Text sound rfl

end AnyTls
