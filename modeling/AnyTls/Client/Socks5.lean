/-
# The SOCKS5 front end

`handle_socks5_connection` runs the RFC 1928 handshake with a local client:
the method negotiation (`authenticate`), then the request
(`read_connection_request`), then `Client::create_proxy_stream` to the
requested destination, and a reply. Reads are `read_exact` on the TCP
connection, the bytes the client sends; writes are assumed to succeed, and
the outcome of `create_proxy_stream` is a parameter.

`read_connection_request` returns the command byte, and the caller drops it:
a request is served the same way whatever its `CMD`
(`handleSocks5Connection_ignores_cmd`), so a `BIND` opens a proxy stream and
gets `REP = 0x00` (`bind_request_opens_stream`). A malformed greeting or
request never reaches `create_proxy_stream`.
-/

import AnyTls.Util.Auth
import AnyTls.Server.Handler

namespace AnyTls

namespace Socks5

/-- `SOCKS5_VERSION`. -/
def socks5Version : UInt8 := 0x05

/-- `AUTH_NO_AUTHENTICATION`. -/
def authNoAuthentication : UInt8 := 0x00

/-- `AUTH_NOT_ACCEPTABLE`. -/
def authNotAcceptable : UInt8 := 0xFF

/-- `REPLY_SUCCEEDED`. -/
def replySucceeded : UInt8 := 0x00

/-- `REPLY_GENERAL_FAILURE`. -/
def replyGeneralFailure : UInt8 := 0x01

/-- `Socks5Addr`. -/
structure Socks5Addr where
  addr : List Char
  port : Nat
  deriving DecidableEq, Repr

/-- `authenticate`, with the writes succeeding: the bytes written to the
client, and the connection's bytes after the greeting or the error. -/
def authenticate (input : List UInt8) : List UInt8 × Except AnyTlsError (List UInt8) :=
  match readExact 2 input with
  | .error e => ([], .error e)
  | .ok (buf, input) =>
      let version := buf.getD 0 0
      if version ≠ socks5Version then
        ([], .error
          (.protocol ("Unsupported SOCKS version: ".toList ++ RustText.decimal version.toNat)))
      else
        let nmethods := (buf.getD 1 0).toNat
        if nmethods = 0 then ([], .error (.protocol "No authentication methods provided".toList))
        else
          match readExact nmethods input with
          | .error e => ([], .error e)
          | .ok (methods, input) =>
              if methods.contains authNoAuthentication then
                ([socks5Version, authNoAuthentication], .ok input)
              else
                ([socks5Version, authNotAcceptable],
                  .error (.protocol "Client does not support NO AUTHENTICATION".toList))

/-- The address of a request, after `VER CMD RSV ATYP`: the text of the address
`ATYP` announces, and the bytes after it. -/
def readAddress (ipv6Text : List UInt8 → List Char) (atyp : UInt8) (input : List UInt8) :
    Except AnyTlsError (List Char × List UInt8) :=
  match atyp.toNat with
  | 0x01 => do
      let (ipBuf, input) ← readExact 4 input
      pure (ipv4Text ipBuf, input)
  | 0x03 => do
      let (lenBuf, input) ← readExact 1 input
      let domainLen := (lenBuf.headD 0).toNat
      if domainLen = 0 ∨ domainLen > 255 then throw (.protocol "Invalid domain length".toList)
      let (domainBuf, input) ← readExact domainLen input
      match RustText.fromUtf8 domainBuf with
      | .ok text => pure (text, input)
      | .error e => throw (.protocol ("Invalid domain name: ".toList ++ e.toString))
  | 0x04 => do
      let (ipBuf, input) ← readExact 16 input
      pure (ipv6Text ipBuf, input)
  | _ => throw (.protocol ("Unsupported address type: 0x".toList ++ RustText.lowerHex2 atyp))

/-- `read_connection_request`: the destination and the command byte, and the
connection's bytes after the request. -/
def readConnectionRequest (ipv6Text : List UInt8 → List Char) (input : List UInt8) :
    Except AnyTlsError ((Socks5Addr × UInt8) × List UInt8) := do
  let (header, input) ← readExact 4 input
  let version := header.getD 0 0
  if version ≠ socks5Version then
    throw (.protocol ("Invalid SOCKS version: ".toList ++ RustText.decimal version.toNat))
  let cmd := header.getD 1 0
  let atyp := header.getD 3 0
  let (addr, input) ← readAddress ipv6Text atyp input
  let (portBuf, input) ← readExact 2 input
  pure ((⟨addr, BigEndian.ofBytes portBuf⟩, cmd), input)

/-- `send_connection_reply`: the bound address is always `0.0.0.0:0`. -/
def sendConnectionReply (reply : UInt8) : List UInt8 :=
  [socks5Version, reply, 0x00, 0x01, 0x00, 0x00, 0x00, 0x00, 0x00, 0x00]

/-- What `handle_socks5_connection` does before it starts forwarding: the bytes
written to the client, the destination `create_proxy_stream` was called with,
and either the client's bytes left to forward or the error returned. -/
structure Socks5Run where
  written : List UInt8
  proxied : Option (List Char × Nat)
  result : Except AnyTlsError (List UInt8)
  deriving DecidableEq, Repr

/-- `handle_socks5_connection` up to the forwarding tasks;
`createProxyStream` is the outcome of `Client::create_proxy_stream`. -/
def handleSocks5Connection (ipv6Text : List UInt8 → List Char)
    (createProxyStream : List Char × Nat → Except AnyTlsError Unit) (input : List UInt8) :
    Socks5Run :=
  match authenticate input with
  | (written, .error e) => ⟨written, none, .error e⟩
  | (written, .ok input) =>
      match readConnectionRequest ipv6Text input with
      | .error e => ⟨written, none, .error e⟩
      | .ok ((destAddr, _cmd), input) =>
          match createProxyStream (destAddr.addr, destAddr.port) with
          | .error e =>
              ⟨written ++ sendConnectionReply replyGeneralFailure,
                some (destAddr.addr, destAddr.port), .error e⟩
          | .ok () =>
              ⟨written ++ sendConnectionReply replySucceeded, some (destAddr.addr, destAddr.port),
                .ok input⟩

/-! ### How a request is read -/

/-- A greeting of version 5 that offers no authentication is answered with
method `0x00`, and the bytes after it are left for the request. -/
theorem authenticate_of_offers {methods : List UInt8} (offered : authNoAuthentication ∈ methods)
    (fits : methods.length < 256) (more : List UInt8) :
    authenticate ([socks5Version, UInt8.ofNat methods.length] ++ methods ++ more) =
      ([socks5Version, authNoAuthentication], .ok more) := by
  have nonempty : methods.length ≠ 0 :=
    (List.length_pos_iff.mpr (List.ne_nil_of_mem offered)).ne'
  have count : (UInt8.ofNat methods.length).toNat = methods.length := RustText.byte_toNat fits
  rw [List.append_assoc, authenticate,
    @readExact_append 2 [socks5Version, UInt8.ofNat methods.length] rfl]
  simp only [List.getD_cons_zero, List.getD_cons_succ, ne_eq, not_true_eq_false, if_false, count,
    nonempty, @readExact_append methods.length methods rfl]
  rw [if_pos (by simpa using offered)]

/-- A request with its four header bytes: a version other than 5 is refused,
and otherwise the address and the port follow. -/
theorem readConnectionRequest_header (ipv6Text : List UInt8 → List Char)
    (version cmd rsv atyp : UInt8) (input : List UInt8) :
    readConnectionRequest ipv6Text (version :: cmd :: rsv :: atyp :: input) =
      if version ≠ socks5Version then
        .error (.protocol ("Invalid SOCKS version: ".toList ++ RustText.decimal version.toNat))
      else
        (readAddress ipv6Text atyp input).bind fun (addr, input) =>
          (readExact 2 input).bind fun (portBuf, input) =>
            .ok ((⟨addr, BigEndian.ofBytes portBuf⟩, cmd), input) := by
  have header : readExact 4 (version :: cmd :: rsv :: atyp :: input) =
      .ok ([version, cmd, rsv, atyp], input) :=
    @readExact_append 4 [version, cmd, rsv, atyp] rfl input
  rw [readConnectionRequest, header]
  simp only [bind, Except.bind, List.getD_cons_zero, List.getD_cons_succ]
  split_ifs <;> rfl

/-- The request is read the same way whatever its command byte; only the byte
returned differs. -/
theorem readConnectionRequest_cmd (ipv6Text : List UInt8 → List Char) (cmd : UInt8)
    (rest : List UInt8) :
    readConnectionRequest ipv6Text (socks5Version :: cmd :: rest) =
      (readConnectionRequest ipv6Text (socks5Version :: 0x01 :: rest)).map
        fun ((destAddr, _), input) => ((destAddr, cmd), input) := by
  match rest with
  | [] | [_] => rfl
  | rsv :: atyp :: input =>
      rw [readConnectionRequest_header, readConnectionRequest_header, if_neg (by decide),
        if_neg (by decide)]
      rcases readAddress ipv6Text atyp input with e | ⟨addr, afterAddr⟩
      · rfl
      · simp only [Except.bind]
        rcases readExact 2 afterAddr with e | ⟨portBuf, afterPort⟩ <;> rfl

/-- An accepted greeting followed by a request: the run does not depend on the
request's command byte. -/
theorem handleSocks5Connection_ignores_cmd (ipv6Text : List UInt8 → List Char)
    (createProxyStream : List Char × Nat → Except AnyTlsError Unit) {methods : List UInt8}
    (offered : authNoAuthentication ∈ methods) (fits : methods.length < 256) (cmd : UInt8)
    (rest : List UInt8) :
    handleSocks5Connection ipv6Text createProxyStream
        ([socks5Version, UInt8.ofNat methods.length] ++ methods ++ socks5Version :: cmd :: rest) =
      handleSocks5Connection ipv6Text createProxyStream
        ([socks5Version, UInt8.ofNat methods.length] ++ methods ++
          socks5Version :: 0x01 :: rest) := by
  unfold handleSocks5Connection
  rw [authenticate_of_offers offered fits, authenticate_of_offers offered fits]
  dsimp only
  rw [readConnectionRequest_cmd]
  rcases readConnectionRequest ipv6Text (socks5Version :: 0x01 :: rest) with
    e | ⟨⟨destAddr, _⟩, input⟩ <;> rfl

/-- Whatever its `CMD`, a request that parses is proxied: a proxy stream is
opened only after an accepted greeting and a request that reads. -/
theorem proxied_of_handle {ipv6Text : List UInt8 → List Char}
    {createProxyStream : List Char × Nat → Except AnyTlsError Unit} {input : List UInt8}
    {destination : List Char × Nat}
    (opened : (handleSocks5Connection ipv6Text createProxyStream input).proxied = some destination) :
    ∃ written rest cmd left, authenticate input = (written, .ok rest) ∧
      readConnectionRequest ipv6Text rest = .ok ((⟨destination.1, destination.2⟩, cmd), left) := by
  unfold handleSocks5Connection at opened
  rcases greeting : authenticate input with ⟨written, _ | rest⟩ <;> rw [greeting] at opened
  · cases opened
  · rcases request : readConnectionRequest ipv6Text rest with _ | ⟨⟨destAddr, cmd⟩, left⟩ <;>
      simp only [request] at opened
    · cases opened
    · refine ⟨written, rest, cmd, left, rfl, ?_⟩
      have : (destAddr.addr, destAddr.port) = destination := by
        split at opened <;> exact Option.some.inj opened
      rw [← this, request]

/-- A `BIND` request for `127.0.0.1:80` after a greeting offering no
authentication: it is answered `REP = 0x00` and a proxy stream is opened to the
address, as for `CONNECT`. -/
theorem bind_request_opens_stream (ipv6Text : List UInt8 → List Char) :
    handleSocks5Connection ipv6Text (fun _ => .ok ())
        [0x05, 0x01, 0x00, 0x05, 0x02, 0x00, 0x01, 127, 0, 0, 1, 0x00, 0x50] =
      ⟨[0x05, 0x00, 0x05, 0x00, 0x00, 0x01, 0, 0, 0, 0, 0, 0], some ("127.0.0.1".toList, 80), .ok []⟩ := by
  rfl

end Socks5

end AnyTls
