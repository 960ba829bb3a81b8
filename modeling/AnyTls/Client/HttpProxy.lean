/-
# The HTTP front end

`handle_http_proxy_connection` reads a request header from a local client
(`read_http_header`), decodes and parses it (`parse_http_request`,
`determine_target`, `split_host_port`), opens a proxy stream to the target
with `Client::create_proxy_stream`, and then either confirms a `CONNECT` or
sends the request, rewritten by `build_forward_request`, as the stream's first
data. Reads are the chunks the client's connection returns, writes are assumed
to succeed, and the outcome of `create_proxy_stream` is a parameter.

`build_forward_request` writes the Host line without a port whenever the port
is `80` or `443`, whatever the scheme, and `split_host_port` reads a host
without a port as port `80`: a request for port `443` named in its Host header
is forwarded as one for port `80` (`splitHostPort_hostHeaderValue`). The port
of an IPv6 host is lost as well, since the parser strips its brackets and the
renderer does not put them back (`splitHostPort_unbracketed`).

Otherwise the rewrite is faithful: every request that is not a `CONNECT`,
parsed again from the bytes forwarded, has the method, path and version it was
parsed with, and the host and port `split_host_port` reads from the Host value
written (`readHttpRequest_buildForwardRequest`); for a plain host name that is
the host itself and the port, `443` apart (`readHttpRequest_forwarded_port`).
-/

import AnyTls.Library.RustText
import AnyTls.Util.Error

namespace AnyTls

namespace HttpProxy

/-- `HEADER_TERMINATOR`. -/
def headerTerminator : List UInt8 := [13, 10, 13, 10]

/-- `MAX_HEADER_SIZE`. -/
def maxHeaderSize : Nat := 64 * 1024

/-- `find_header_end`: the end of the first `\r\n\r\n` in the buffer. -/
def findHeaderEnd : List UInt8 → Option Nat
  | [] => none
  | byte :: rest =>
      if headerTerminator.isPrefixOf (byte :: rest) then some headerTerminator.length
      else (findHeaderEnd rest).map (· + 1)

/-- `read_http_header` over the chunks the client's reads return, an empty one
being the end of the connection: the header up to and including `\r\n\r\n`,
and the bytes read after it. -/
def readHttpHeaderLoop : List (List UInt8) → List UInt8 → Except AnyTlsError (List UInt8 × List UInt8)
  | [], _ | [] :: _, _ => .error (.protocol "Connection closed before HTTP header complete".toList)
  | chunk :: chunks, buf =>
      let buf := buf ++ chunk
      if buf.length > maxHeaderSize then .error (.protocol "HTTP header too large".toList)
      else
        match findHeaderEnd buf with
        | some headerEnd => .ok (buf.take headerEnd, buf.drop headerEnd)
        | none => readHttpHeaderLoop chunks buf

/-- `read_http_header`, from an empty buffer. -/
def readHttpHeader (reads : List (List UInt8)) : Except AnyTlsError (List UInt8 × List UInt8) :=
  readHttpHeaderLoop reads []

/-- `ParsedRequest`. -/
structure ParsedRequest where
  method : List Char
  version : List Char
  host : List Char
  port : Nat
  path : List Char
  isConnect : Bool
  headers : List (List Char)
  body : List UInt8
  deriving DecidableEq, Repr

/-- The host as `split_host_port` returns it: trimmed, then brackets removed
from both ends. -/
def stripHost (value : List Char) : List Char :=
  RustText.trimMatches ']' (RustText.trimMatches '[' (RustText.trim value))

/-- `split_host_port`, which never fails: a port after the last `:` if it
parses, and `defaultPort` otherwise; a value with a `:` before its last one
and no `]` is taken whole, as an IPv6 address without brackets. -/
def splitHostPort (value : List Char) (defaultPort : Nat) : List Char × Nat :=
  match RustText.rfind ':' value with
  | some idx =>
      if ':' ∈ value.take idx ∧ ']' ∉ value then (value, defaultPort)
      else
        match RustText.parseU16 (value.drop (idx + 1)) with
        | some port => (stripHost (value.take idx), port)
        | none => (stripHost value, defaultPort)
  | none => (stripHost value, defaultPort)

/-- The loop of `determine_target` over the headers: the first `Host:` or
`host:` header's value, trimmed. -/
def hostHeader (headers : List (List Char)) : Option (List Char) :=
  headers.findSome? fun header =>
    match header.dropPrefix? "Host:".toList with
    | some rest => some (RustText.trim rest)
    | none => (header.dropPrefix? "host:".toList).map RustText.trim

/-- `determine_target`: the host, port and path of a request, and whether it is
a `CONNECT`. -/
def determineTarget (method target : List Char) (headers : List (List Char)) :
    Except AnyTlsError (List Char × Nat × List Char × Bool) :=
  if RustText.eqIgnoreAsciiCase method "CONNECT".toList then
    let (host, port) := splitHostPort target 443
    .ok (host, port, [], true)
  else
    -- an absolute-form target names the host itself; otherwise the Host header does
    let (host, port, path) :=
      if "http://".toList.isPrefixOf target || "https://".toList.isPrefixOf target then
        let withoutScheme :=
          match RustText.find "://".toList target with
          | some pos => target.drop (pos + 3)
          | none => target
        let (host, path) :=
          match RustText.find ['/'] withoutScheme with
          | some pos => (withoutScheme.take pos, withoutScheme.drop pos)
          | none => (withoutScheme, ['/'])
        (host, if "https://".toList.isPrefixOf target then 443 else 80, path)
      else ((hostHeader headers).getD [], 80, target)
    if host.isEmpty then .error (.protocol "Host header missing for HTTP request".toList)
    else
      let (hostOnly, portResolved) := splitHostPort host port
      let path := if path.head? = some '/' ∨ path.head? = some '*' then path else '/' :: path
      .ok (hostOnly, portResolved, path, false)

/-- `parse_http_request`. -/
def parseHttpRequest (header : List Char) (body : List UInt8) :
    Except AnyTlsError ParsedRequest :=
  match RustText.splitStr "\r\n".toList header with
  | [] => .error (.protocol "Missing HTTP request line".toList)
  | requestLine :: lines =>
      match RustText.splitWhitespace requestLine with
      | method :: target :: parts =>
          let version := parts.headD "HTTP/1.1".toList
          let headerLines := lines.filter fun line => !line.isEmpty
          (determineTarget method target headerLines).map fun (host, port, path, isConnect) =>
            ⟨method, version, host, port, path, isConnect, headerLines, body⟩
      | _ => .error (.protocol "Invalid HTTP request line".toList)

/-- The header decoded and parsed, as `handle_http_proxy_connection` does with
what `read_http_header` returned. -/
def readHttpRequest (headerBytes remaining : List UInt8) : Except AnyTlsError ParsedRequest :=
  match RustText.fromUtf8 headerBytes with
  | .error e => .error (.protocol ("Invalid HTTP header encoding: ".toList ++ e.toString))
  | .ok header => parseHttpRequest header remaining

/-- The Host value `build_forward_request` writes: the host alone for ports `80`
and `443`, and `host:port` for any other. -/
def hostHeaderValue (host : List Char) (port : Nat) : List Char :=
  if port = 80 ∨ port = 443 then host else host ++ ':' :: RustText.decimal port

/-- The header loop of `build_forward_request`: the lines written, and whether
a Host line was among them. Empty headers are skipped, and every header whose
name is `host` in any case is replaced by `hostLine`. -/
def forwardHeaders (hostLine : List Char) : List (List Char) → List Char × Bool
  | [] => ([], false)
  | header :: headers =>
      let (written, hostWritten) := forwardHeaders hostLine headers
      if header.isEmpty then (written, hostWritten)
      else if "host:".toList.isPrefixOf (RustText.toAsciiLowercase header) then
        (hostLine ++ written, true)
      else (header ++ "\r\n".toList ++ written, hostWritten)

/-- `build_forward_request`, which never fails: the bytes of the rewritten
request line, headers and Host line. -/
def buildForwardRequest (req : ParsedRequest) : List UInt8 :=
  let requestLine := req.method ++ ' ' :: (if req.path.isEmpty then ['/'] else req.path) ++
    ' ' :: req.version ++ "\r\n".toList
  let hostLine := "Host: ".toList ++ hostHeaderValue req.host req.port ++ "\r\n".toList
  let (headerLines, hostWritten) := forwardHeaders hostLine req.headers
  RustText.intoBytes
    (requestLine ++ headerLines ++ (if hostWritten then [] else hostLine) ++ "\r\n".toList)

/-- `send_connect_success`. -/
def sendConnectSuccess : List UInt8 :=
  RustText.intoBytes "HTTP/1.1 200 Connection Established\r\n\r\n".toList

/-- `send_http_error`. -/
def sendHttpError (code : Nat) (message : List Char) : List UInt8 :=
  RustText.intoBytes ("HTTP/1.1 ".toList ++ RustText.decimal code ++ ' ' :: message ++
    "\r\nContent-Length: 0\r\nConnection: close\r\n\r\n".toList)

/-- What `handle_http_proxy_connection` does before it starts forwarding: the
bytes written to the client, the destination `create_proxy_stream` was called
with, the data frames written to the proxy stream, and the outcome. -/
structure HttpRun where
  written : List UInt8
  proxied : Option (List Char × Nat)
  sent : List (List UInt8)
  result : Except AnyTlsError Unit
  deriving DecidableEq, Repr

/-- `handle_http_proxy_connection` up to the forwarding tasks;
`createProxyStream` is the outcome of `Client::create_proxy_stream`. -/
def handleHttpProxyConnection (createProxyStream : List Char × Nat → Except AnyTlsError Unit)
    (reads : List (List UInt8)) : HttpRun :=
  match readHttpHeader reads with
  | .error e => ⟨[], none, [], .error e⟩
  | .ok (headerBytes, remaining) =>
      match readHttpRequest headerBytes remaining with
      | .error e => ⟨[], none, [], .error e⟩
      | .ok request =>
          let destination := (request.host, request.port)
          match createProxyStream destination with
          | .error e => ⟨sendHttpError 502 "Bad Gateway".toList, some destination, [], .error e⟩
          | .ok () =>
              if request.isConnect then ⟨sendConnectSuccess, some destination, [], .ok ()⟩
              else
                ⟨[], some destination,
                  buildForwardRequest request ::
                    (if request.body.isEmpty then [] else [request.body]),
                  .ok ()⟩

/-! ### Which destinations reach `create_proxy_stream` -/

/-- A request header that is read and parsed is proxied to its host and port,
whatever `create_proxy_stream` then does. -/
theorem handleHttpProxyConnection_proxied
    (createProxyStream : List Char × Nat → Except AnyTlsError Unit) {reads : List (List UInt8)}
    {headerBytes remaining : List UInt8} {request : ParsedRequest}
    (header : readHttpHeader reads = .ok (headerBytes, remaining))
    (parsed : readHttpRequest headerBytes remaining = .ok request) :
    (handleHttpProxyConnection createProxyStream reads).proxied =
      some (request.host, request.port) := by
  unfold handleHttpProxyConnection
  rw [header]
  dsimp only
  rw [parsed]
  dsimp only
  split
  · rfl
  · split <;> rfl

/-- `create_proxy_stream` is called only with the host and port of a request
the front end has read and parsed. -/
theorem proxied_of_request {createProxyStream : List Char × Nat → Except AnyTlsError Unit}
    {reads : List (List UInt8)} {destination : List Char × Nat}
    (opened : (handleHttpProxyConnection createProxyStream reads).proxied = some destination) :
    ∃ headerBytes remaining request, readHttpHeader reads = .ok (headerBytes, remaining) ∧
      readHttpRequest headerBytes remaining = .ok request ∧
      destination = (request.host, request.port) := by
  unfold handleHttpProxyConnection at opened
  rcases header : readHttpHeader reads with _ | ⟨headerBytes, remaining⟩ <;>
    rw [header] at opened
  · cases opened
  rcases parsed : readHttpRequest headerBytes remaining with _ | request <;>
    simp only [parsed] at opened
  · cases opened
  refine ⟨headerBytes, remaining, request, rfl, parsed, ?_⟩
  split at opened
  · exact (Option.some.inj opened).symm
  · split at opened <;> exact (Option.some.inj opened).symm

/-! ### The Host line read back -/

theorem not_mem_decimal {c : Char} (notDigit : c.isDigit = false) (port : Nat) :
    c ∉ RustText.decimal port := fun mem =>
  absurd (RustText.isDigit_of_mem_decimal mem) (by simp [notDigit])

/-- `split_host_port` reads back the Host value written for a host without a
`:` that it would leave as it is: every port comes back but `443`, which reads
as the default `80`. -/
theorem splitHostPort_hostHeaderValue {host : List Char} (noColon : ':' ∉ host)
    (bare : stripHost host = host) {port : Nat} (fits : port < 2 ^ 16) :
    splitHostPort (hostHeaderValue host port) 80 = (host, if port = 443 then 80 else port) := by
  unfold hostHeaderValue
  by_cases default : port = 80 ∨ port = 443
  · rw [if_pos default, splitHostPort, RustText.rfind_eq_none noColon, bare]
    rcases default with rfl | rfl <;> rfl
  · have notHttps : port ≠ 443 := fun https => default (.inr https)
    have portText : RustText.parseU16 (RustText.decimal port) = some port :=
      RustText.parseUnsigned_decimal (by omega)
    have portPart : (host ++ ':' :: RustText.decimal port).drop (host.length + 1) =
        RustText.decimal port := by
      simp
    rw [if_neg default, splitHostPort,
      RustText.rfind_append host (not_mem_decimal (by decide) port)]
    dsimp only
    rw [List.take_left' rfl, if_neg fun both => noColon both.1, portPart, portText]
    dsimp only
    rw [bare, if_neg notHttps]

/-- An IPv6 host with a port other than `80` and `443` is written as
`host:port` without brackets, which `split_host_port` takes whole, with port
`80`. -/
theorem splitHostPort_unbracketed {host : List Char} (colon : ':' ∈ host) (noBracket : ']' ∉ host)
    {port : Nat} (other : ¬(port = 80 ∨ port = 443)) :
    splitHostPort (hostHeaderValue host port) 80 = (hostHeaderValue host port, 80) := by
  have noBracketDigits : ']' ∉ RustText.decimal port := not_mem_decimal (by decide) port
  unfold hostHeaderValue
  rw [if_neg other, splitHostPort, RustText.rfind_append host (not_mem_decimal (by decide) port)]
  dsimp only
  rw [List.take_left' rfl, if_pos ⟨colon, by simp [noBracket, noBracketDigits]⟩]

/-! ### The forwarded request read back

`build_forward_request` writes the request line from the method, path and
version it parsed, the headers it kept with the Host line in place of every
Host header, and a blank line. Parsed again, that text gives back the method,
the path and the version, and the host and port `split_host_port` makes of the
Host value written (`readHttpRequest_buildForwardRequest`).
-/

/-- The test `build_forward_request` makes for a Host header: the name `host`
in any case. -/
def isHostHeader (header : List Char) : Bool :=
  "host:".toList.isPrefixOf (RustText.toAsciiLowercase header)

/-- The header lines `build_forward_request` writes, without their line ends:
the non-empty headers, with `line` in place of every Host header. -/
def forwardedLines (line : List Char) (headers : List (List Char)) : List (List Char) :=
  (headers.filter fun header => !header.isEmpty).map fun header =>
    if isHostHeader header then line else header

theorem forwardHeaders_eq (line : List Char) :
    ∀ headers : List (List Char), forwardHeaders (line ++ "\r\n".toList) headers =
      ((forwardedLines line headers).flatMap (· ++ "\r\n".toList), headers.any isHostHeader)
  | [] => rfl
  | header :: headers => by
      rw [forwardHeaders, forwardHeaders_eq line headers]
      dsimp only
      by_cases empty : header.isEmpty = true
      · -- an empty header is skipped, and it names no host
        obtain rfl := List.isEmpty_iff.mp empty
        simp [forwardedLines, isHostHeader, RustText.toAsciiLowercase]
      · by_cases host : isHostHeader header = true
        · rw [if_neg empty,
            if_pos (show "host:".toList.isPrefixOf (RustText.toAsciiLowercase header) = true from host)]
          simp [forwardedLines, empty, host]
        · rw [if_neg empty,
            if_neg (show ¬"host:".toList.isPrefixOf (RustText.toAsciiLowercase header) = true from host)]
          simp [forwardedLines, empty, host]

theorem mem_forwardedLines {line header : List Char} {headers : List (List Char)}
    (mem : header ∈ forwardedLines line headers) :
    header = line ∨ (header ∈ headers ∧ header ≠ [] ∧ isHostHeader header = false) := by
  obtain ⟨original, kept, rfl⟩ := List.mem_map.mp mem
  obtain ⟨inHeaders, nonempty⟩ := List.mem_filter.mp kept
  by_cases host : isHostHeader original = true
  · exact .inl (if_pos host)
  · rw [if_neg host]
    exact .inr ⟨inHeaders, by simpa using nonempty, by simpa using host⟩

theorem stripHost_isInfix (value : List Char) : stripHost value <:+: value :=
  (RustText.trimMatches_isInfix _ _).trans
    ((RustText.trimMatches_isInfix _ _).trans (RustText.trim_isInfix _))

/-- The host `split_host_port` returns is cut from the value. -/
theorem splitHostPort_isInfix (value : List Char) (defaultPort : Nat) :
    (splitHostPort value defaultPort).1 <:+: value := by
  unfold splitHostPort
  split
  · split
    · exact List.infix_refl _
    · split
      · exact (stripHost_isInfix _).trans (List.take_prefix _ _).isInfix
      · exact stripHost_isInfix _
  · exact stripHost_isInfix _

theorem splitHostPort_port_lt (value : List Char) {defaultPort : Nat}
    (fits : defaultPort < 2 ^ 16) : (splitHostPort value defaultPort).2 < 2 ^ 16 := by
  unfold splitHostPort
  split
  · split
    · exact fits
    · split
      case h_1 port parsed =>
        have := RustText.parseUnsigned_le parsed
        omega
      case h_2 => exact fits
  · exact fits

/-- The Host value `determine_target` reads is cut from one of the headers. -/
theorem hostHeader_isInfix {headers : List (List Char)} {value : List Char}
    (found : hostHeader headers = some value) : ∃ header ∈ headers, value <:+: header := by
  obtain ⟨header, mem, hit⟩ := List.exists_of_findSome?_eq_some found
  refine ⟨header, mem, ?_⟩
  -- the value is the trimmed text after `Host:` or `host:`
  have after : ∀ name rest : List Char, header.dropPrefix? name = some rest →
      RustText.trim rest <:+: header := fun name rest dropped => by
    obtain ⟨front, whole, -⟩ := List.dropPrefix?_eq_some_iff.mp dropped
    rw [whole]
    exact (RustText.trim_isInfix rest).trans (List.suffix_append front rest).isInfix
  split at hit
  case h_1 rest dropped =>
    rw [← Option.some.inj hit]
    exact after _ rest dropped
  case h_2 =>
    obtain ⟨rest, dropped, trimmed⟩ := Option.map_eq_some_iff.mp hit
    rw [← trimmed]
    exact after _ rest dropped

/-- A request that is not a `CONNECT`: its path starts with `/` or `*` and is
cut from the target, its host is cut from the target or from the value of its
Host header, and its port fits in `u16`. -/
theorem determineTarget_plain {method target : List Char} {headers : List (List Char)}
    {host : List Char} {port : Nat} {path : List Char}
    (found : determineTarget method target headers = .ok (host, port, path, false)) :
    RustText.eqIgnoreAsciiCase method "CONNECT".toList = false ∧
      (path.head? = some '/' ∨ path.head? = some '*') ∧ path ⊆ '/' :: target ∧
      (host ⊆ target ∨ ∃ value, hostHeader headers = some value ∧ host <:+: value) ∧
      port < 2 ^ 16 := by
  unfold determineTarget at found
  split at found
  · simp at found
  case isFalse plain =>
  split at found
  rename_i hostSource portSource pathSource source
  split at found
  · cases found
  simp only [Except.ok.injEq, Prod.mk.injEq] at found
  obtain ⟨rfl, rfl, rfl, -⟩ := found
  -- where the host, the port and the path come from, before `split_host_port`
  have cut : pathSource ⊆ '/' :: target ∧
      (hostSource ⊆ target ∨ hostHeader headers = some hostSource) ∧ portSource < 2 ^ 16 := by
    by_cases absolute :
        ("http://".toList.isPrefixOf target || "https://".toList.isPrefixOf target) = true
    · -- an absolute-form target: host and path are cut from it
      rw [if_pos absolute] at source
      split at source <;> dsimp only at source <;> split at source <;>
        simp only [Prod.mk.injEq] at source <;> obtain ⟨rfl, rfl, rfl⟩ := source
      all_goals
        refine ⟨fun c mem => ?_, .inl fun c mem => ?_, by split <;> norm_num⟩ <;>
        grind -ring -linarith [List.mem_of_mem_drop, List.mem_of_mem_take]
    · rw [if_neg absolute] at source
      simp only [Prod.mk.injEq] at source
      obtain ⟨rfl, rfl, rfl⟩ := source
      refine ⟨List.subset_cons_self _ _, ?_, by norm_num⟩
      cases hostHeader headers with
      | none => exact .inl (List.nil_subset _)
      | some value => exact .inr rfl
  obtain ⟨pathCut, hostCut, portFits⟩ := cut
  have narrowed := splitHostPort_isInfix hostSource portSource
  refine ⟨Bool.eq_false_iff.mpr plain, ?_, ?_, ?_, splitHostPort_port_lt hostSource portFits⟩
  · split
    · assumption
    · exact .inl rfl
  · split
    · exact pathCut
    · exact List.cons_subset.mpr ⟨List.mem_cons_self, pathCut⟩
  · rcases hostCut with within | header
    · exact .inl (List.Subset.trans narrowed.subset within)
    · exact .inr ⟨hostSource, header, narrowed⟩

/-- An origin-form target read with its Host header: the host and port are
what `split_host_port` makes of the header's value, and the path is kept. -/
theorem determineTarget_origin {method path value : List Char} {headers : List (List Char)}
    (notConnect : RustText.eqIgnoreAsciiCase method "CONNECT".toList = false)
    (pathHead : path.head? = some '/' ∨ path.head? = some '*')
    (header : hostHeader headers = some value) (named : value ≠ []) :
    determineTarget method path headers =
      .ok ((splitHostPort value 80).1, (splitHostPort value 80).2, path, false) := by
  have origin : ("http://".toList.isPrefixOf path || "https://".toList.isPrefixOf path) = false := by
    rcases pathHead with head | head <;>
    · obtain ⟨c, rest, rfl⟩ :=
        List.exists_cons_of_ne_nil (show path ≠ [] from fun empty => by simp [empty] at head)
      obtain rfl := Option.some.inj head
      rfl
  unfold determineTarget
  rw [notConnect, if_neg Bool.false_ne_true, origin, if_neg Bool.false_ne_true, header]
  dsimp only
  rw [Option.getD_some, if_neg (by simpa using named), if_pos pathHead]

/-- What a parsed request is made of: the request line and the header lines
`split("\r\n")` cuts, the words of the request line, and the target they name. -/
theorem parseHttpRequest_ok {header : List Char} {body : List UInt8} {req : ParsedRequest}
    (parsed : parseHttpRequest header body = .ok req) :
    ∃ requestLine lines target parts,
      RustText.splitStr "\r\n".toList header = requestLine :: lines ∧
      RustText.splitWhitespace requestLine = req.method :: target :: parts ∧
      req.version = parts.headD "HTTP/1.1".toList ∧
      req.headers = lines.filter (fun line => !line.isEmpty) ∧ req.body = body ∧
      determineTarget req.method target req.headers =
        .ok (req.host, req.port, req.path, req.isConnect) := by
  unfold parseHttpRequest at parsed
  split at parsed
  · cases parsed
  case h_2 requestLine lines split =>
  split at parsed
  case h_1 method target parts words =>
    dsimp only at parsed
    rcases found : determineTarget method target (lines.filter fun line => !line.isEmpty) with
      e | ⟨host, port, path, isConnect⟩ <;> rw [found] at parsed
    · cases parsed
    · injection parsed with parsed
      subst parsed
      exact ⟨requestLine, lines, target, parts, split, words, rfl, rfl, rfl, found⟩
  case h_2 => cases parsed

/-- The loop body of `determine_target`: the trimmed value of a `Host:` or
`host:` header. -/
def hostValue (header : List Char) : Option (List Char) :=
  match header.dropPrefix? "Host:".toList with
  | some rest => some (RustText.trim rest)
  | none => (header.dropPrefix? "host:".toList).map RustText.trim

theorem hostHeader_eq (headers : List (List Char)) :
    hostHeader headers = headers.findSome? hostValue := rfl

theorem hostValue_hostLine (value : List Char) :
    hostValue ("Host: ".toList ++ value) = some (RustText.trim value) := by
  have split : "Host: ".toList ++ value = "Host:".toList ++ ' ' :: value := rfl
  rw [hostValue, split, List.dropPrefix?_append_of_beq _ (beq_self_eq_true _)]
  dsimp only
  rw [RustText.trim_space_cons]

/-- A header `build_forward_request` keeps as it is names no host for
`determine_target` either. -/
theorem hostValue_of_kept {header : List Char} (kept : isHostHeader header = false) :
    hostValue header = none := by
  -- a header starting with either spelling would have been replaced
  have absent : ∀ name : List Char, RustText.toAsciiLowercase name = "host:".toList →
      header.dropPrefix? name = none := fun name lower => by
    rcases dropped : header.dropPrefix? name with _ | rest
    · rfl
    · obtain ⟨front, whole, same⟩ := List.dropPrefix?_eq_some_iff.mp dropped
      rw [beq_iff_eq.mp same] at whole
      have host : isHostHeader header = true := by
        rw [isHostHeader, whole, RustText.toAsciiLowercase, List.map_append]
        rw [← RustText.toAsciiLowercase, lower]
        exact List.isPrefixOf_iff_prefix.mpr (List.prefix_append _ _)
      rw [kept] at host
      cases host
  rw [hostValue, absent _ rfl, absent _ rfl]
  rfl

/-- The Host value read from the lines a forwarded request carries is the one
written, trimmed: the Host line stands in place of the first Host header, or
after the headers when there was none. -/
theorem hostHeader_forwarded (value : List Char) (headers : List (List Char)) :
    hostHeader (forwardedLines ("Host: ".toList ++ value) headers ++
        if headers.any isHostHeader then [] else ["Host: ".toList ++ value]) =
      some (RustText.trim value) := by
  rw [hostHeader_eq]
  apply RustText.findSome?_of_hits
  · intro header mem
    rcases List.mem_append.mp mem with inLines | inExtra
    · rcases mem_forwardedLines inLines with rfl | ⟨-, -, kept⟩
      · exact .inr (hostValue_hostLine value)
      · exact .inl (hostValue_of_kept kept)
    · split at inExtra
      · cases inExtra
      · rw [List.mem_singleton.mp inExtra]
        exact .inr (hostValue_hostLine value)
  · refine ⟨"Host: ".toList ++ value, ?_, hostValue_hostLine value⟩
    by_cases any : headers.any isHostHeader = true
    · -- a Host header is replaced by the Host line; it is not empty, so it is kept
      obtain ⟨header, mem, host⟩ := List.any_eq_true.mp any
      have nonempty : header ≠ [] := by
        rintro rfl
        cases host
      refine List.mem_append_left _ (List.mem_map.mpr ⟨header, ?_, if_pos host⟩)
      exact List.mem_filter.mpr ⟨mem, by simpa using nonempty⟩
    · rw [if_neg any]
      exact List.mem_append_right _ List.mem_cons_self

theorem not_mem_port (port : Nat) : '\r' ∉ ':' :: RustText.decimal port ∧
    '\n' ∉ ':' :: RustText.decimal port := by
  simp only [List.mem_cons, not_or]
  exact ⟨⟨by decide, not_mem_decimal (by decide) port⟩, ⟨by decide, not_mem_decimal (by decide) port⟩⟩

/-- The Host line holds no line end when the host holds none. -/
theorem hostLine_clear {host : List Char} (clear : ¬ ['\r', '\n'] <:+: host) (port : Nat) :
    ¬ ['\r', '\n'] <:+: "Host: ".toList ++ hostHeaderValue host port := by
  have front : ¬ ['\r', '\n'] <:+: "Host: ".toList ++ host :=
    RustText.not_pair_infix_append_left (by decide) clear
  unfold hostHeaderValue
  split
  · exact front
  · rw [← List.append_assoc]
    exact RustText.not_pair_infix_append front (not_mem_port port).1 (not_mem_port port).2

/-- What `build_forward_request` relies on in a request parsed and not a
`CONNECT`: the method, the path and the version are words, the path starts
with `/` or `*`, no header and not the host holds a line end, and the port fits
in `u16`. -/
theorem parseHttpRequest_plain {header : List Char} {body : List UInt8} {req : ParsedRequest}
    (parsed : parseHttpRequest header body = .ok req) (plain : req.isConnect = false) :
    RustText.eqIgnoreAsciiCase req.method "CONNECT".toList = false ∧
      RustText.Word req.method ∧ RustText.Word req.path ∧ RustText.Word req.version ∧
      (req.path.head? = some '/' ∨ req.path.head? = some '*') ∧
      (∀ line ∈ req.headers, ¬ ['\r', '\n'] <:+: line) ∧ ¬ ['\r', '\n'] <:+: req.host ∧
      req.port < 2 ^ 16 := by
  obtain ⟨requestLine, lines, target, parts, split, words, version, headers, -, found⟩ :=
    parseHttpRequest_ok parsed
  rw [plain] at found
  obtain ⟨notConnect, pathHead, pathCut, hostCut, fits⟩ := determineTarget_plain found
  have wordOf : ∀ word ∈ RustText.splitWhitespace requestLine, RustText.Word word :=
    fun word mem => RustText.mem_splitWhitespace mem
  have targetWord := wordOf target (by rw [words]; simp)
  have versionWord : RustText.Word req.version := by
    rw [version]
    cases parts with
    | nil =>
      rw [List.headD_nil]
      exact ⟨by simp, by simp [RustText.isWhitespace]⟩
    | cons word parts => exact wordOf word (by rw [words]; simp)
  -- the path is the target, or cut from it, behind a `/`
  have pathWord : RustText.Word req.path := by
    refine ⟨fun empty => by simp [empty] at pathHead, fun c mem => ?_⟩
    rcases List.mem_cons.mp (pathCut mem) with rfl | inTarget
    · decide
    · exact targetWord.2 c inTarget
  -- the headers were cut at the line ends, and the host is cut from a header
  -- or from the target
  have headerClear : ∀ line ∈ req.headers, ¬ ['\r', '\n'] <:+: line := fun line mem => by
    rw [headers] at mem
    refine @RustText.not_infix_of_mem_splitStr _ (List.cons_ne_nil _ _) header line ?_
    rw [show ['\r', '\n'] = "\r\n".toList from rfl, split]
    exact List.mem_cons_of_mem _ (List.mem_filter.mp mem).1
  have hostClear : ¬ ['\r', '\n'] <:+: req.host := by
    rcases hostCut with within | ⟨value, header, cut⟩
    · exact fun inside => targetWord.not_mem (by decide) (within (inside.subset List.mem_cons_self))
    · obtain ⟨line, mem, inLine⟩ := hostHeader_isInfix header
      exact fun inside => headerClear line mem ((inside.trans cut).trans inLine)
  exact ⟨notConnect, wordOf req.method (by rw [words]; exact List.mem_cons_self), pathWord,
    versionWord, pathHead, headerClear, hostClear, fits⟩

/-- The text `build_forward_request` writes for a request with a path: the
request line, the header lines, each ended by `\r\n`, and a blank line. -/
theorem buildForwardRequest_eq {req : ParsedRequest} (routed : req.path ≠ []) :
    buildForwardRequest req = RustText.intoBytes
      (((req.method ++ ' ' :: req.path ++ ' ' :: req.version) ::
          (forwardedLines ("Host: ".toList ++ hostHeaderValue req.host req.port) req.headers ++
            if req.headers.any isHostHeader then []
            else ["Host: ".toList ++ hostHeaderValue req.host req.port])).flatMap
          (· ++ "\r\n".toList) ++ "\r\n".toList) := by
  unfold buildForwardRequest
  dsimp only
  rw [forwardHeaders_eq, if_neg (by simpa using routed)]
  cases req.headers.any isHostHeader <;> simp

/-- The lines `build_forward_request` writes after the request line: none is
empty or holds a line end when the Host line and the headers hold none. -/
theorem forwardedLines_clear {line : List Char} {headers : List (List Char)}
    (lineClear : line ≠ [] ∧ ¬ ['\r', '\n'] <:+: line)
    (headersClear : ∀ header ∈ headers, ¬ ['\r', '\n'] <:+: header) :
    ∀ x ∈ forwardedLines line headers ++ (if headers.any isHostHeader then [] else [line]),
      x ≠ [] ∧ ¬ ['\r', '\n'] <:+: x := by
  intro x mem
  rcases List.mem_append.mp mem with inLines | inExtra
  · rcases mem_forwardedLines inLines with rfl | ⟨inHeaders, nonempty, -⟩
    · exact lineClear
    · exact ⟨nonempty, headersClear x inHeaders⟩
  · split at inExtra
    · cases inExtra
    · rw [List.mem_singleton.mp inExtra]
      exact lineClear

/-- A request line of three words, then header lines that are neither empty
nor hold a line end, then a blank line: `parse_http_request` reads it back as
that request, its target from the Host header. -/
theorem parseHttpRequest_written {method path version value : List Char}
    {lines : List (List Char)} (methodWord : RustText.Word method) (pathWord : RustText.Word path)
    (versionWord : RustText.Word version)
    (notConnect : RustText.eqIgnoreAsciiCase method "CONNECT".toList = false)
    (pathHead : path.head? = some '/' ∨ path.head? = some '*')
    (clear : ∀ line ∈ lines, line ≠ [] ∧ ¬ ['\r', '\n'] <:+: line)
    (header : hostHeader lines = some value) (named : value ≠ []) (body : List UInt8) :
    parseHttpRequest (((method ++ ' ' :: path ++ ' ' :: version) :: lines).flatMap
        (· ++ "\r\n".toList) ++ "\r\n".toList) body =
      .ok ⟨method, version, (splitHostPort value 80).1, (splitHostPort value 80).2, path, false,
        lines, body⟩ := by
  -- the request line holds no whitespace but its two spaces
  have requestClear : ¬ ['\r', '\n'] <:+: method ++ ' ' :: path ++ ' ' :: version := by
    intro inside
    have inLine := inside.subset List.mem_cons_self
    simp only [List.mem_append, List.mem_cons] at inLine
    rcases inLine with (inMethod | space | inPath) | space | inVersion
    · exact methodWord.not_mem (by decide) inMethod
    · cases space
    · exact pathWord.not_mem (by decide) inPath
    · cases space
    · exact versionWord.not_mem (by decide) inVersion
  have lastLine : RustText.splitStr ['\r', '\n'] ['\r', '\n'] = [[], []] := rfl
  have pieces : RustText.splitStr ['\r', '\n']
      (((method ++ ' ' :: path ++ ' ' :: version) :: lines).flatMap (· ++ ['\r', '\n']) ++
        ['\r', '\n']) = (method ++ ' ' :: path ++ ' ' :: version) :: (lines ++ [[], []]) := by
    rw [RustText.splitStr_flatMap (by decide) _ _ ?clear, lastLine, List.cons_append]
    intro piece mem
    rcases List.mem_cons.mp mem with rfl | later
    · exact requestClear
    · exact (clear piece later).2
  have words : RustText.splitWhitespace (method ++ ' ' :: path ++ ' ' :: version) =
      [method, path, version] := by
    rw [List.append_assoc, List.cons_append, RustText.splitWhitespace_append_space methodWord,
      RustText.splitWhitespace_append_space pathWord, RustText.splitWhitespace_word versionWord]
  -- the blank line and the end of the text are the only empty lines
  have kept : (lines ++ [[], []]).filter (fun line => !line.isEmpty) = lines := by
    have blank : ([[], []] : List (List Char)).filter (fun line => !line.isEmpty) = [] := rfl
    rw [List.filter_append, List.filter_eq_self.mpr fun x mem => by simpa using (clear x mem).1,
      blank, List.append_nil]
  unfold parseHttpRequest
  rw [show "\r\n".toList = ['\r', '\n'] from rfl, pieces]
  dsimp only
  rw [words]
  dsimp only
  rw [kept, determineTarget_origin notConnect pathHead header named]
  rfl

/-- A request the front end parsed and forwards, not a `CONNECT`, parsed again
from the bytes it forwards, with any body after them: the method, the path and
the version come back, and the host and port are what `split_host_port` makes
of the Host value written. That value must not trim to nothing, which
`determine_target` refuses. -/
theorem readHttpRequest_buildForwardRequest {header : List Char} {body : List UInt8}
    {req : ParsedRequest} (parsed : parseHttpRequest header body = .ok req)
    (plain : req.isConnect = false)
    (named : RustText.trim (hostHeaderValue req.host req.port) ≠ []) (rest : List UInt8) :
    ∃ again, readHttpRequest (buildForwardRequest req) rest = .ok again ∧
      again.method = req.method ∧ again.path = req.path ∧ again.version = req.version ∧
      (again.host, again.port) =
        splitHostPort (RustText.trim (hostHeaderValue req.host req.port)) 80 ∧
      again.isConnect = false := by
  obtain ⟨notConnect, methodWord, pathWord, versionWord, pathHead, headersClear, hostClear, -⟩ :=
    parseHttpRequest_plain parsed plain
  have hostLine : "Host: ".toList ++ hostHeaderValue req.host req.port ≠ [] ∧
      ¬ ['\r', '\n'] <:+: "Host: ".toList ++ hostHeaderValue req.host req.port :=
    ⟨by simp, hostLine_clear hostClear req.port⟩
  rw [readHttpRequest, buildForwardRequest_eq pathWord.1, RustText.fromUtf8_intoBytes]
  exact ⟨_, parseHttpRequest_written methodWord pathWord versionWord notConnect pathHead
    (forwardedLines_clear hostLine headersClear)
    (hostHeader_forwarded (hostHeaderValue req.host req.port) req.headers) named rest,
    rfl, rfl, rfl, rfl, rfl⟩

/-- A host `split_host_port` leaves as it is has no whitespace at its ends. -/
theorem trim_of_stripHost {host : List Char} (bare : stripHost host = host) :
    RustText.trim host = host := by
  have inTrim : stripHost host <:+: RustText.trim host :=
    (RustText.trimMatches_isInfix _ _).trans (RustText.trimMatches_isInfix _ _)
  rw [bare] at inTrim
  exact (RustText.trim_isInfix host).eq_of_length
    (le_antisymm (RustText.trim_isInfix host).length_le inTrim.length_le)

/-- The Host value written for a host without whitespace at its ends is its
own trim. -/
theorem trim_hostHeaderValue {host : List Char} (trimmed : RustText.trim host = host)
    (port : Nat) : RustText.trim (hostHeaderValue host port) = hostHeaderValue host port := by
  unfold hostHeaderValue
  split
  · exact trimmed
  · apply RustText.trim_eq_self
    · -- it starts with the host's first character, or with `:`
      intro c first
      cases host with
      | nil =>
        obtain rfl := Option.some.inj first
        decide
      | cons head rest =>
        obtain rfl := Option.some.inj first
        exact RustText.trim_head? _ _ (by rw [trimmed]; rfl)
    · -- it ends with the port's last digit
      intro c last
      obtain ⟨digits, final, split⟩ :=
        (List.eq_nil_or_concat (RustText.decimal port)).resolve_left (RustText.decimal_ne_nil port)
      have inDigits : final ∈ RustText.decimal port := by
        rw [split]
        simp
      rw [List.getLast?_append_cons, split, List.concat_eq_append, ← List.cons_append,
        List.getLast?_concat] at last
      obtain rfl := Option.some.inj last
      exact RustText.isWhitespace_of_isDigit (RustText.isDigit_of_mem_decimal inDigits)

/-- Every request the front end forwards, not a `CONNECT`, for a non-empty
host without `:` that `split_host_port` leaves as it is: parsed again, it names
the same host, and its own port unless that was `443`, which reads as `80`. -/
theorem readHttpRequest_forwarded_port {header : List Char} {body : List UInt8}
    {req : ParsedRequest} (parsed : parseHttpRequest header body = .ok req)
    (plain : req.isConnect = false) (named : req.host ≠ []) (noColon : ':' ∉ req.host)
    (bare : stripHost req.host = req.host) (rest : List UInt8) :
    ∃ again, readHttpRequest (buildForwardRequest req) rest = .ok again ∧
      again.host = req.host ∧ again.port = if req.port = 443 then 80 else req.port := by
  have fits : req.port < 2 ^ 16 := (parseHttpRequest_plain parsed plain).2.2.2.2.2.2.2
  have trimmed := trim_hostHeaderValue (trim_of_stripHost bare) req.port
  have written : RustText.trim (hostHeaderValue req.host req.port) ≠ [] := by
    rw [trimmed]
    unfold hostHeaderValue
    split
    · exact named
    · simp
  obtain ⟨again, reread, -, -, -, target, -⟩ :=
    readHttpRequest_buildForwardRequest parsed plain written rest
  rw [trimmed, splitHostPort_hostHeaderValue noColon bare fits, Prod.mk.injEq] at target
  exact ⟨again, reread, target.1, target.2⟩

/-- A `GET` whose Host header names port `443`: the proxy stream is opened to
port `443`, and the request it forwards, parsed again, names port `80`. -/
theorem port_443_forwarded_as_80 :
    (parseHttpRequest "GET / HTTP/1.1\r\nHost: example.com:443\r\n\r\n".toList []).map
        (fun req => (req.method, req.path, req.host, req.port)) =
      .ok ("GET".toList, "/".toList, "example.com".toList, 443) ∧
    ((parseHttpRequest "GET / HTTP/1.1\r\nHost: example.com:443\r\n\r\n".toList []).bind
        fun req => readHttpRequest (buildForwardRequest req) []).map
        (fun again => (again.method, again.path, again.host, again.port)) =
      .ok ("GET".toList, "/".toList, "example.com".toList, 80) :=
  ⟨rfl, rfl⟩

example : handleHttpProxyConnection (fun _ => .ok ())
    [RustText.intoBytes "GET / HTTP/1.1\r\nHost: example.com:443\r\n\r\n".toList] =
      ⟨[], some ("example.com".toList, 443),
        [RustText.intoBytes "GET / HTTP/1.1\r\nHost: example.com\r\n\r\n".toList], .ok ()⟩ := by
  rfl

end HttpProxy

end AnyTls
