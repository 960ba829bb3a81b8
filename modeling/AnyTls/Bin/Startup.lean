/-
# Starting the binaries

After the argument loop the server's `main` checks its options in order (the
password, the padding scheme file, the DNS servers, the certificate and key)
and builds the hints its sessions send to clients from `-I`, `-T` and `-M`.
Each connection it accepts is authenticated and becomes a server session with
those hints (`handle_connection`). The client's `main` checks its password,
settles the TLS server name and builds the session pool's configuration, which
`create_new_session` also hands to each session's heartbeat.

`started_pair_agrees`: a client session of the client binary, connecting to a
server binary started from any options on which it starts, is refused exactly
when the two passwords' digests differ; otherwise the two sessions' first
exchange leaves both on protocol version 2 and nothing else changed on the
client, and the client is sent exactly `v=2` and the hints given on the
server's command line, as decimal numbers.

`client_names_server_host`: without `--sni` a started client names the server
by the host of `-s`, bracketed or not. `client_heartbeat_outlasting_timeout_closes`:
the heartbeat of a client started with `-I` longer than `-T` and the time an
answer takes closes each session at its second tick.
-/

import AnyTls.Bin.CommandLine
import AnyTls.Session.Negotiation
import AnyTls.Session.Heartbeat
import AnyTls.Util.Auth
import AnyTls.Util.CertAnalyzer
import AnyTls.Util.DnsCache
import AnyTls.Client.SessionPool

namespace AnyTls

namespace CommandLine

/-! ### The server's `main` -/

/-- Where the server's TLS acceptor comes from. -/
inductive TlsSource
  /-- A `CertReloader` on `--cert` and `--key`, watched under `--watch-cert`. -/
  | reloader (config : CertReloaderConfig) (watching : Bool)
  /-- `create_server_config`: a self-signed certificate. -/
  | selfSigned
  deriving DecidableEq, Repr

/-- What the server's `main` sets up before `listen`. -/
structure ServerPlan (Ip : Type) where
  listenAddr : List Char
  password : List Char
  padding : PaddingFactory
  /-- The process-wide default factory afterwards. -/
  paddingGlobal : Option PaddingFactory
  dnsServers : Option (List (Ip × Nat))
  tls : TlsSource
  serverSettings : Option StringMap

/-- One hint: the flag's value in decimal, when the flag was given. -/
def insertHint (m : StringMap) (key : List Char) : Option Nat → StringMap
  | some value => m.insert key (RustText.decimal value)
  | none => m

/-- The hints `main` builds from `-I`, `-T` and `-M`; none at all when none of
them was given. -/
def serverSettingsOf (args : ServerArgs) : Option StringMap :=
  let hints := insertHint (insertHint (insertHint StringMap.new "idle_session_check_interval".toList
    args.idleSessionCheckInterval) "idle_session_timeout".toList args.idleSessionTimeout)
    "min_idle_session".toList args.minIdleSession
  if hints.map.entries.isEmpty then none else some hints

/-- `Context::context` on an `Option`: its value, or the message as the error. -/
def context {α : Type} (value : Option α) (message : List Char) : Except (List Char) α :=
  match value with
  | some value => .ok value
  | none => .error message

/-- `?` on a step that succeeds exactly when `ok` holds. -/
def ensure (ok : Bool) (message : List Char) : Except (List Char) Unit :=
  if ok then .ok () else .error message

/-- The step `?` takes: a computation that succeeded through a bind succeeded at
its first part. -/
theorem except_bind_ok {ε α β : Type} {first : Except ε α} {rest : α → Except ε β} {result : β}
    (ok : (first >>= rest) = .ok result) : ∃ value, first = .ok value ∧ rest value = .ok result := by
  cases first with
  | error e => cases ok
  | ok value => exact ⟨value, rfl, ok⟩

section ServerMain

variable {Ip : Type} (readFile : List Char → Option (List UInt8))
  (loadCertificate : List Char → List Char → Bool) (createServerConfig : Bool)
  (parseSocketAddr : List Char → Option (Ip × Nat)) (parseIp : List Char → Option Ip)

/-- The padding factory: `PaddingFactory::new` on the scheme file, or
`PaddingFactory::default()`, which also sets the process-wide default. -/
def loadPadding : Option (List Char) → Except (List Char) (Option PaddingFactory × PaddingFactory)
  | none => .ok (PaddingFactory.default none)
  | some path =>
      match readFile path with
      | none => .error ("Failed to read padding scheme file: ".toList ++ path)
      | some bytes =>
          match PaddingFactory.new bytes with
          | .error e => .error ("Failed to parse padding scheme: ".toList ++ e.toList)
          | .ok factory => .ok (none, factory)

/-- `set_custom_dns_servers` when `--dns` named any server: the resolver's
servers afterwards. -/
def configureDns (servers : List (List Char)) : Except (List Char) (Option (List (Ip × Nat))) :=
  if servers.isEmpty then .ok none
  else
    match setCustomDnsServers parseSocketAddr parseIp none DnsCache.new servers with
    | (_, .error e) => .error ("Failed to configure DNS resolver: ".toList ++ e.toString)
    | ((resolver, _), .ok ()) => .ok resolver

/-- The `match` on `--cert` and `--key`; `loadCertificate` is whether
`CertReloader::new` loads the two files. -/
def chooseTls (args : ServerArgs) : Except (List Char) TlsSource :=
  match args.certPath, args.keyPath with
  | some cert, some key =>
      if loadCertificate cert key then .ok (.reloader ⟨true, args.expiryWarningDays⟩ args.watchCert)
      else .error ("Failed to load certificate/key: ".toList ++ cert ++ ", ".toList ++ key)
  | none, none =>
      if createServerConfig then .ok .selfSigned else .error "Failed to create TLS server config".toList
  | _, _ => .error "Both --cert and --key must be provided together".toList

/-- The server's `main` after the argument loop, up to `listen`. -/
def serverMain (args : ServerArgs) : Except (List Char) (ServerPlan Ip) := do
  let password ← context args.password "Password is required (use -p or --password)".toList
  let (global, padding) ← loadPadding readFile args.paddingSchemeFile
  let dnsServers ← configureDns parseSocketAddr parseIp args.dnsServers
  let tls ← chooseTls loadCertificate createServerConfig args
  pure ⟨args.listenAddr, password, padding, global, dnsServers, tls, serverSettingsOf args⟩

/-- What a started server holds: its options' hints, and its password. -/
theorem serverMain_ok {args : ServerArgs} {plan : ServerPlan Ip}
    (started : serverMain readFile loadCertificate createServerConfig parseSocketAddr parseIp args = .ok plan) :
    plan.serverSettings = serverSettingsOf args ∧ args.password = some plan.password := by
  unfold serverMain at started
  obtain ⟨password, given, started⟩ := except_bind_ok started
  obtain ⟨⟨global, padding⟩, -, started⟩ := except_bind_ok started
  obtain ⟨dnsServers, -, started⟩ := except_bind_ok started
  obtain ⟨tls, -, started⟩ := except_bind_ok started
  cases started
  refine ⟨rfl, ?_⟩
  cases stated : args.password with
  | none => simp [stated, context] at given
  | some password' => simpa [stated, context] using given

end ServerMain

/-! ### The hints -/

theorem get_insertHint (m : StringMap) (key : List Char) (value : Option Nat) (other : List Char) :
    (insertHint m key value).get other =
      if other = key then (value.map RustText.decimal).or (m.get other) else m.get other := by
  cases value with
  | none => split <;> rfl
  | some value =>
      by_cases same : other = key
      · subst same
        simp [insertHint]
      · simp [insertHint, same, StringMap.get_insert_ne _ _ same]

/-- A decimal survives a settings line under any key that does. -/
theorem decimal_roundTrips {key : List Char} (noEquals : '=' ∉ key) (noNewline : '\n' ∉ key)
    (trimmed : RustText.trim key = key) (value : Nat) :
    StringMap.EntryRoundTrips key (RustText.decimal value) := by
  have digits : ∀ c ∈ RustText.decimal value, RustText.isWhitespace c = false := fun _ mem =>
    RustText.isWhitespace_of_isDigit (RustText.isDigit_of_mem_decimal mem)
  refine ⟨noEquals, noNewline, trimmed, fun mem => ?_, ?_⟩
  · exact absurd (RustText.isDigit_of_mem_decimal mem) (by decide)
  · exact RustText.trim_eq_self (fun c first => digits c (List.mem_of_mem_head? first))
      fun c last => digits c (List.mem_of_getLast? last)

theorem insertHint_serialisable {m : StringMap} (ok : m.Serialisable) {key : List Char}
    (noEquals : '=' ∉ key) (noNewline : '\n' ∉ key) (trimmed : RustText.trim key = key)
    (value : Option Nat) : (insertHint m key value).Serialisable := by
  cases value with
  | none => exact ok
  | some value => exact StringMap.serialisable_insert ok (decimal_roundTrips noEquals noNewline trimmed value)

/-- The hints of `serverSettingsOf`, key by key. -/
def hintOf (args : ServerArgs) (key : List Char) : Option (List Char) :=
  if key = "min_idle_session".toList then args.minIdleSession.map RustText.decimal
  else if key = "idle_session_timeout".toList then args.idleSessionTimeout.map RustText.decimal
  else if key = "idle_session_check_interval".toList then args.idleSessionCheckInterval.map RustText.decimal
  else none

/-- What a client reads under each key of the server's `ServerSettings`. -/
def advertised (args : ServerArgs) (key : List Char) : Option (List Char) :=
  (hintOf args key).or (if key = "v".toList then some "2".toList else none)

/-- The keys are distinct texts. -/
theorem hint_keys_distinct :
    "min_idle_session".toList ≠ "idle_session_timeout".toList ∧
      "min_idle_session".toList ≠ "idle_session_check_interval".toList ∧
      "idle_session_timeout".toList ≠ "idle_session_check_interval".toList ∧
      "v".toList ≠ "min_idle_session".toList ∧ "v".toList ≠ "idle_session_timeout".toList ∧
      "v".toList ≠ "idle_session_check_interval".toList := by
  decide +kernel

theorem serverSettingsOf_get (args : ServerArgs) (key : List Char) :
    ((serverSettingsOf args).bind fun extra => extra.get key) = hintOf args key := by
  obtain ⟨d1, d2, d3, -⟩ := hint_keys_distinct
  have hints : (insertHint (insertHint (insertHint StringMap.new "idle_session_check_interval".toList
      args.idleSessionCheckInterval) "idle_session_timeout".toList args.idleSessionTimeout)
      "min_idle_session".toList args.minIdleSession).get key = hintOf args key := by
    simp only [get_insertHint, hintOf]
    -- a key is at most one of the three
    split_ifs <;> subst_vars <;> simp_all [StringMap.new, StringMap.get]
  unfold serverSettingsOf
  dsimp only
  split
  · rename_i empty
    rw [Option.bind_none, ← hints, StringMap.get, AList.lookup, List.isEmpty_iff.mp empty]
    rfl
  · rw [Option.bind_some, hints]

theorem serverSettingsOf_fit (args : ServerArgs) :
    ∀ extra, serverSettingsOf args = some extra → extra.Serialisable ∧ extra.get "v".toList = none := by
  intro extra configured
  have get := serverSettingsOf_get args "v".toList
  rw [configured, Option.bind_some] at get
  refine ⟨?_, ?_⟩
  · unfold serverSettingsOf at configured
    dsimp only at configured
    split at configured
    · cases configured
    · cases configured
      exact insertHint_serialisable (insertHint_serialisable (insertHint_serialisable
        StringMap.serialisable_new (by decide +kernel) (by decide +kernel) (by decide +kernel) _)
        (by decide +kernel) (by decide +kernel) (by decide +kernel) _)
        (by decide +kernel) (by decide +kernel) (by decide +kernel) _
  · obtain ⟨-, -, -, d4, d5, d6⟩ := hint_keys_distinct
    rw [get, hintOf, if_neg d4, if_neg d5, if_neg d6]

/-! ### A connection to the server -/

/-- `handle_connection` after the TLS handshake: the client's authentication,
then `Session::new_server` with the hints and the stream callback set, and the
bytes after the authentication for the session to read. -/
def handleConnection (passwordHash : PasswordHash) (padding : PaddingFactory) (global : Option PaddingFactory)
    (serverSettings : Option StringMap) (input : List UInt8) : Except AnyTlsError (Session × List UInt8) :=
  match authenticateClient passwordHash input with
  | .error e => .error e
  | .ok rest => .ok ({ Session.newServer padding true global with serverSettings := serverSettings }, rest)

/-- `Server::new_with_reloadable_tls` on the plan, then `handle_connection`. -/
def ServerPlan.accept {Ip : Type} (sha256 : List UInt8 → PasswordHash) (plan : ServerPlan Ip)
    (input : List UInt8) : Except AnyTlsError (Session × List UInt8) :=
  handleConnection (hashPassword sha256 plan.password) plan.padding plan.paddingGlobal plan.serverSettings input

/-- `Client::create_new_session` after the TLS handshake: the authentication it
writes and the session it starts. The client binary's factory is
`PaddingFactory::default()`, which also sets the process-wide default. -/
def createNewSession (sha256 : List UInt8 → PasswordHash) (random : Nat → Int → Int → Int)
    (password : List Char) : List UInt8 × Session :=
  let (global, padding) := PaddingFactory.default none
  (sendAuthentication random (hashPassword sha256 password) padding, Session.newClient padding global)

/-! ### The client's `main` -/

/-- What the client's `main` sets up before its front ends listen. -/
structure ClientPlan (Ip : Type) where
  password : List Char
  serverAddr : List Char
  serverName : ServerName Ip
  poolConfig : SessionPoolConfig
  /-- The pool's `check_interval`, in seconds. -/
  checkInterval : Nat
  listenAddr : List Char
  httpListenAddr : Option (List Char)

/-- The name the client gives TLS: `--sni` when it is not blank, trimmed, and
otherwise the one derived from the server address. -/
def effectiveSni (args : ClientArgs) : List Char :=
  match args.sni with
  | some value =>
      if !(RustText.trim value).isEmpty then RustText.trim value else deriveSniFromServerAddr args.serverAddr
  | none => deriveSniFromServerAddr args.serverAddr

/-- `SessionPoolConfig::default()` with `-T` and `-M` applied; `idle_timeout`
in milliseconds. -/
def poolConfigOf (args : ClientArgs) : SessionPoolConfig where
  idleTimeout := (args.idleTimeout.map (· * 1000)).getD SessionPoolConfig.default.idleTimeout
  minIdleSessions := args.minIdleSessions.getD SessionPoolConfig.default.minIdleSessions

section ClientMain

variable {Ip : Type} (parseIp : List Char → Option Ip) (isDnsName : List Char → Bool)
  (createClientConfig : Bool)

/-- The client's `main` after the argument loop, up to its front ends;
`createClientConfig` is whether `create_client_config` succeeds. -/
def clientMain (args : ClientArgs) : Except (List Char) (ClientPlan Ip) := do
  let password ← context args.password "Password is required (use -p or --password)".toList
  let serverName ← (buildServerName parseIp isDnsName (effectiveSni args)).mapError fun _ =>
    "Invalid SNI or server hostname '".toList ++ effectiveSni args ++ "'".toList
  ensure createClientConfig "Failed to create TLS client config".toList
  pure ⟨password, args.serverAddr, serverName, poolConfigOf args, args.idleCheckInterval.getD 30,
    args.listenAddr, args.httpListenAddr⟩

/-- What a started client holds: the name TLS is given, and the pool's
configuration. -/
theorem clientMain_ok {args : ClientArgs} {plan : ClientPlan Ip}
    (started : clientMain parseIp isDnsName createClientConfig args = .ok plan) :
    buildServerName parseIp isDnsName (effectiveSni args) = .ok plan.serverName ∧
      plan.poolConfig = poolConfigOf args ∧ plan.checkInterval = args.idleCheckInterval.getD 30 := by
  unfold clientMain at started
  obtain ⟨password, -, started⟩ := except_bind_ok started
  obtain ⟨serverName, named, started⟩ := except_bind_ok started
  obtain ⟨⟨⟩, -, started⟩ := except_bind_ok started
  cases started
  refine ⟨?_, rfl, rfl⟩
  cases built : buildServerName parseIp isDnsName (effectiveSni args) with
  | error e => simp [built, Except.mapError] at named
  | ok name => simpa [built, Except.mapError] using named

end ClientMain

/-- The heartbeat `create_new_session` gives each session, from the pool's
configuration: `check_interval` and `idle_timeout`, in nanoseconds. -/
def ClientPlan.heartbeatConfig {Ip : Type} (plan : ClientPlan Ip) : SessionHeartbeatConfig :=
  ⟨plan.checkInterval * 1000000000, plan.poolConfig.idleTimeout * 1000000⟩

/-- `-I` and `-T` are the heartbeat's period and timeout, in seconds; without
them it is the default heartbeat. -/
theorem heartbeatConfig_of_args {Ip : Type} {plan : ClientPlan Ip} {args : ClientArgs}
    (pooled : plan.poolConfig = poolConfigOf args) (checked : plan.checkInterval = args.idleCheckInterval.getD 30) :
    plan.heartbeatConfig =
      ⟨args.idleCheckInterval.getD 30 * 1000000000, args.idleTimeout.getD 60 * 1000000000⟩ := by
  rw [ClientPlan.heartbeatConfig, pooled, checked, poolConfigOf]
  cases args.idleTimeout with
  | none =>
      simp only [Option.map_none, Option.getD_none, SessionPoolConfig.default]
  | some timeout => simp only [Option.map_some, Option.getD_some, Nat.mul_assoc]

/-- A client started with `-I` longer than `-T` and the time a server takes to
answer a heartbeat: every session it builds is closed by its heartbeat at the
second tick, however promptly the server answers. -/
theorem client_heartbeat_outlasting_timeout_closes (md5Hex : List UInt8 → List Char) {Ip : Type}
    (parseIp : List Char → Option Ip) (isDnsName : List Char → Bool) (createClientConfig : Bool)
    {args : ClientArgs} {plan : ClientPlan Ip}
    (started : clientMain parseIp isDnsName createClientConfig args = .ok plan) {rtt : Nat}
    (slow : args.idleTimeout.getD 60 * 1000000000 + rtt < args.idleCheckInterval.getD 30 * 1000000000)
    (client server : Session) (now : Nat) {events : List HeartbeatEvent} {final : HeartbeatLink}
    (answered : Runs.Avoids (HeartbeatLink.step md5Hex) (HeartbeatLink.LateAnswer rtt)
      (HeartbeatLink.init plan.heartbeatConfig client server now) events)
    (done : Runs.run (HeartbeatLink.step md5Hex) (HeartbeatLink.init plan.heartbeatConfig client server now)
      events = some final)
    (twice : 2 ≤ events.count .tick) :
    final.client.isClosed = true ∧ final.beating = false := by
  obtain ⟨-, pooled, checked⟩ := clientMain_ok parseIp isDnsName createClientConfig started
  have config := heartbeatConfig_of_args pooled checked
  refine HeartbeatLink.heartbeat_slower_than_timeout_closes md5Hex plan.heartbeatConfig client server now ?_
    answered done twice
  rw [config]
  exact slow

/-- The first tick, its answer handled a millisecond later, and the second
tick two minutes after the first. -/
def slowCheckRun : List HeartbeatEvent :=
  [.tick, .elapse 1000000, .serverHandles, .clientHandles, .elapse 119999000000, .tick]

/-- A client started with `-p secret -I 120 -T 60`, whose server answers the
first heartbeat a millisecond after it is sent: the second tick closes the
session. -/
theorem slow_check_closes_session :
    ∃ plan, clientMain (fun _ => (none : Option Unit)) (fun _ => true) true
        { ClientArgs.initial with
          password := some "secret".toList
          idleCheckInterval := some 120
          idleTimeout := some 60 } = .ok plan ∧
      ∃ final, Runs.run (HeartbeatLink.step fun _ => [])
          (HeartbeatLink.init plan.heartbeatConfig
            (Session.newClient PaddingFactory.defaultScheme (some PaddingFactory.defaultScheme))
            (Session.newServer PaddingFactory.defaultScheme true none) 0) slowCheckRun = some final ∧
        final.client.isClosed = true ∧ final.beating = false := by
  obtain ⟨plan, started⟩ : ∃ plan, clientMain (fun _ => (none : Option Unit)) (fun _ => true) true
      { ClientArgs.initial with
        password := some "secret".toList
        idleCheckInterval := some 120
        idleTimeout := some 60 } = .ok plan :=
    ⟨_, rfl⟩
  obtain ⟨-, pooled, checked⟩ := clientMain_ok _ _ _ started
  have config := heartbeatConfig_of_args pooled checked
  have answered : Runs.Avoids (HeartbeatLink.step fun _ => []) (HeartbeatLink.LateAnswer 1000000000)
      (HeartbeatLink.init plan.heartbeatConfig
        (Session.newClient PaddingFactory.defaultScheme (some PaddingFactory.defaultScheme))
        (Session.newServer PaddingFactory.defaultScheme true none) 0) slowCheckRun := by
    rw [config]
    decide +kernel
  obtain ⟨final, done⟩ : ∃ final, Runs.run (HeartbeatLink.step fun _ => [])
      (HeartbeatLink.init plan.heartbeatConfig
        (Session.newClient PaddingFactory.defaultScheme (some PaddingFactory.defaultScheme))
        (Session.newServer PaddingFactory.defaultScheme true none) 0) slowCheckRun = some final := by
    rw [config]
    exact ⟨_, rfl⟩
  exact ⟨plan, started, final, done, client_heartbeat_outlasting_timeout_closes (fun _ => []) _ _ _ started
    (by decide +kernel) _ _ 0 answered done (by decide)⟩

/-! ### The name the client gives TLS -/

/-- A name with no bracket that is its own trim is normalized to itself. -/
theorem normalized_of_plain {name : List Char} (noOpen : '[' ∉ name) (noClose : ']' ∉ name)
    (trimmed : RustText.trim name = name) :
    RustText.trimMatches ']' (RustText.trimMatches '[' (RustText.trim name)) = name := by
  rw [trimmed, RustText.trimMatches_of_not_mem noOpen, RustText.trimMatches_of_not_mem noClose]

/-- Without `--sni` a started client names the server by the host of its
address: `host` for `host:port` and `address` for `[address]:port`, as an IP
address when it reads as one and as a DNS name otherwise. -/
theorem client_names_server_host {Ip : Type} (parseIp : List Char → Option Ip) (isDnsName : List Char → Bool)
    (createClientConfig : Bool) {args : ClientArgs} {plan : ClientPlan Ip}
    (started : clientMain parseIp isDnsName createClientConfig args = .ok plan) (noSni : args.sni = none)
    {host : List Char} (noOpen : '[' ∉ host) (noClose : ']' ∉ host) (trimmed : RustText.trim host = host)
    (port : Nat) (addressed : args.serverAddr = host ++ ':' :: RustText.decimal port ∧ ':' ∉ host ∨
      args.serverAddr = ('[' :: host) ++ ']' :: ':' :: RustText.decimal port) :
    plan.serverName = match parseIp host with
      | some ip => .ipAddress ip
      | none => .dnsName host := by
  have derived : effectiveSni args = host := by
    rw [effectiveSni, noSni]
    rcases addressed with ⟨plain, noColon⟩ | bracketed
    · rw [plain, deriveSniFromServerAddr_hostPort port noColon noOpen noClose trimmed]
    · rw [bracketed, deriveSniFromServerAddr_bracketed port noClose]
  have named := (clientMain_ok parseIp isDnsName createClientConfig started).1
  rw [derived] at named
  unfold buildServerName at named
  simp only [normalized_of_plain noOpen noClose trimmed] at named
  -- the name is not blank, so only the IP and DNS branches can have produced it
  cases parsed : parseIp host <;>
    · simp only [parsed] at named
      split_ifs at named
      exact (Except.ok.inj named).symm

/-- A client started with `-p secret -s example.com:443` and no `--sni`,
where nothing reads as an IP address, names the server `example.com`. -/
theorem client_of_example_names_it :
    ∃ plan, clientMain (fun _ => (none : Option Unit)) (fun _ => true) true
        { ClientArgs.initial with password := some "secret".toList, serverAddr := "example.com:443".toList } =
        .ok plan ∧
      plan.serverName = .dnsName "example.com".toList :=
  ⟨_, rfl, @client_names_server_host Unit (fun _ => none) (fun _ => true) true
    { ClientArgs.initial with password := some "secret".toList, serverAddr := "example.com:443".toList } _ rfl rfl
    "example.com".toList (by decide) (by decide) (by decide +kernel) 443 (.inl ⟨by decide +kernel, by decide⟩)⟩

/-- What `ServerSettings` reads as for a server session with the hints of `args`. -/
theorem serverSettingsMap_advertised {args : ServerArgs} {s : Session}
    (configured : s.serverSettings = serverSettingsOf args) (key : List Char) :
    (StringMap.fromBytes s.serverSettingsMap.toBytes).get key = advertised args key := by
  have fit : s.HintsFit := fun extra hinted => serverSettingsOf_fit args extra (configured ▸ hinted)
  rw [StringMap.get_fromBytes_toBytes _ (Session.serverSettingsMap_serialisable fit),
    Session.serverSettingsMap_get, configured, serverSettingsOf_get, advertised]
  by_cases version : key = "v".toList
  · subst version
    rw [StringMap.get_insert, if_pos rfl]
  · rw [StringMap.get_insert_ne _ _ version, if_neg version]
    rfl

section Connection

/-- How a client session and a server session come out of their first
exchange: the server handles the client's `Settings` without error, records
version 2 and answers; the client, handling the answer, records version 2 and
changes in nothing else; and what it reads in `ServerSettings` is what
`advertised` says of the server's options. -/
structure Agreed (md5Hex : List UInt8 → List Char) (args : ServerArgs) (client server : Session) : Prop where
  answered : server.handleFrame md5Hex (client.clientSettings md5Hex) =
    ({ server with
        peerVersion := 2
        written := server.written ++ server.settingsReplies md5Hex (client.padding.md5 md5Hex) }, .ok ())
  recorded : client.handleFrames md5Hex (server.settingsReplies md5Hex (client.padding.md5 md5Hex)) =
    { client with peerVersion := 2 }
  hints : ∀ key, (StringMap.fromBytes server.serverSettingsMap.toBytes).get key = advertised args key

variable {Ip : Type} (readFile : List Char → Option (List UInt8))
  (loadCertificate : List Char → List Char → Bool) (createServerConfig : Bool)
  (parseSocketAddr : List Char → Option (Ip × Nat)) (parseIp : List Char → Option Ip)

/-- A session of the client binary connecting to a started server binary is
refused exactly when the passwords' digests differ, and otherwise agrees with
the server session on version 2 and reads the server's hints. The client's
process-wide factory is set, so a scheme the server sends it is not applied. -/
theorem started_pair_agrees (sha256 : List UInt8 → PasswordHash) (random : Nat → Int → Int → Int)
    (md5 : List UInt8 → List UInt8) {args : ServerArgs} {plan : ServerPlan Ip}
    (started : serverMain readFile loadCertificate createServerConfig parseSocketAddr parseIp args = .ok plan)
    (password : List Char) (rest : List UInt8) :
    (hashPassword sha256 password ≠ hashPassword sha256 plan.password →
        plan.accept sha256 ((createNewSession sha256 random password).1 ++ rest) = .error .authenticationFailed) ∧
      (hashPassword sha256 password = hashPassword sha256 plan.password →
        ∃ server, plan.accept sha256 ((createNewSession sha256 random password).1 ++ rest) = .ok (server, rest) ∧
          Agreed (hexDigest md5) args (createNewSession sha256 random password).2 server) := by
  obtain ⟨configured, -⟩ := serverMain_ok readFile loadCertificate createServerConfig parseSocketAddr parseIp started
  have authenticated := (authenticateClient_sendAuthentication sha256 random PaddingFactory.defaultScheme
    password plan.password rest).1
  refine ⟨fun differ => ?_, fun same => ?_⟩
  · simp only [ServerPlan.accept, handleConnection, createNewSession, PaddingFactory.default, authenticated,
      if_neg differ]
  -- the server session `handle_connection` builds
  let server : Session :=
    { Session.newServer plan.padding true plan.paddingGlobal with serverSettings := plan.serverSettings }
  have accepted : plan.accept sha256 ((createNewSession sha256 random password).1 ++ rest) = .ok (server, rest) := by
    simp only [ServerPlan.accept, handleConnection, createNewSession, PaddingFactory.default, authenticated,
      if_pos same]
    rfl
  have fit : server.HintsFit := fun extra hinted => serverSettingsOf_fit args extra (configured ▸ hinted)
  obtain ⟨answered, handled⟩ :=
    @settings_handshake md5 (createNewSession sha256 random password).2 server rfl rfl fit
  -- the client's process-wide factory is set: a scheme sent to it changes nothing
  have ignored : (createNewSession sha256 random password).2.handleUpdatePaddingScheme server.padding.rawScheme =
      (createNewSession sha256 random password).2 :=
    Session.handleUpdatePaddingScheme_of_initialised _ rfl _
  refine ⟨server, accepted, answered, ?_, serverSettingsMap_advertised configured⟩
  rw [handled]
  split_ifs <;> simp only [ignored]

/-- A server started with `-p secret -T 90` and nothing else, and a client of
the same password, under a digest function that is constant. -/
theorem timeout_hint_reaches_client :
    ∃ plan, serverMain (fun _ => none) (fun _ _ => false) true (fun _ => (none : Option (Unit × Nat)))
        (fun _ => none) { ServerArgs.initial with password := some "secret".toList, idleSessionTimeout := some 90 } =
        .ok plan ∧
      (hashPassword (fun _ => ⟨List.replicate 32 0, List.length_replicate⟩) "secret".toList ≠
          hashPassword (fun _ => ⟨List.replicate 32 0, List.length_replicate⟩) plan.password →
        plan.accept (fun _ => ⟨List.replicate 32 0, List.length_replicate⟩)
            ((createNewSession (fun _ => ⟨List.replicate 32 0, List.length_replicate⟩) (fun _ _ _ => 0)
              "secret".toList).1 ++ []) =
          .error .authenticationFailed) ∧
      (hashPassword (fun _ => ⟨List.replicate 32 0, List.length_replicate⟩) "secret".toList =
          hashPassword (fun _ => ⟨List.replicate 32 0, List.length_replicate⟩) plan.password →
        ∃ server, plan.accept (fun _ => ⟨List.replicate 32 0, List.length_replicate⟩)
            ((createNewSession (fun _ => ⟨List.replicate 32 0, List.length_replicate⟩) (fun _ _ _ => 0)
              "secret".toList).1 ++ []) = .ok (server, []) ∧
          Agreed (hexDigest fun _ => [])
            { ServerArgs.initial with password := some "secret".toList, idleSessionTimeout := some 90 }
            (createNewSession (fun _ => ⟨List.replicate 32 0, List.length_replicate⟩) (fun _ _ _ => 0)
              "secret".toList).2
            server) :=
  ⟨_, rfl, started_pair_agrees (fun _ => none) (fun _ _ => false) true (fun _ => none) (fun _ => none)
    (fun _ => ⟨List.replicate 32 0, List.length_replicate⟩) (fun _ _ _ => 0) (fun _ => []) rfl "secret".toList []⟩

end Connection

end CommandLine

end AnyTls
