/-
# The command lines of `anytls-server` and `anytls-client`

Both binaries read their options in one pass over the arguments, in the same
loop: each argument is matched against the flags; a flag that takes a value
takes the next argument, whatever it is, and fails with its own message when
there is none; numbers go through `parse_u64` (positive) or `parse_usize`;
`-V` and `-h` print and return at once; anything else is refused. `parseArgs`
is that loop with the `match` as a parameter, and `serverFlag` and `clientFlag`
are the two `match`es.

The client derives its TLS server name from the server address when `--sni`
is not given: the host of `host:port`, or the address of `[v6]:port`
(`deriveSniFromServerAddr_hostPort`, `deriveSniFromServerAddr_bracketed`).
-/

import AnyTls.Library.RustText

namespace AnyTls

namespace CommandLine

/-- What one arm of the argument `match` does. -/
inductive Flag (σ : Type)
  /-- Takes the next argument, failing with `expected` when there is none. -/
  | value (expected : List Char) (set : σ → List Char → Except (List Char) σ)
  /-- Sets an option and takes nothing. -/
  | switch (set : σ → σ)
  /-- `-V`: prints the version and returns. -/
  | version
  /-- `-h`: prints the usage and returns. -/
  | help

/-- How `main` leaves the argument loop when the loop does not fail. -/
inductive Command (σ : Type)
  | run (options : σ)
  | version
  | help

/-- The argument loop of `main`, with `table` its `match` on each argument. -/
def parseArgs {σ : Type} (table : List Char → Option (Flag σ)) : σ → List (List Char) → Except (List Char) (Command σ)
  | options, [] => .ok (.run options)
  | options, arg :: rest =>
      match table arg with
      | none => .error ("Unknown argument: ".toList ++ arg)
      | some .version => .ok .version
      | some .help => .ok .help
      | some (.switch set) => parseArgs table (set options) rest
      | some (.value expected set) =>
          match rest with
          | [] => .error expected
          | value :: rest =>
              match set options value with
              | .error e => .error e
              | .ok options => parseArgs table options rest

section Loop

variable {σ : Type} (table : List Char → Option (Flag σ))

/-- A command line the loop runs to its end can be followed by any other: the
loop goes on from the options it reached. -/
theorem parseArgs_append {options reached : σ} {front : List (List Char)}
    (ran : parseArgs table options front = .ok (.run reached)) (back : List (List Char)) :
    parseArgs table options (front ++ back) = parseArgs table reached back := by
  revert ran
  -- by the loop's own recursion: a flag and its value are taken together
  fun_induction parseArgs table options front with
  | case1 options =>
      intro ran
      cases ran
      rfl
  | case2 | case3 | case4 | case6 | case7 => intro ran; cases ran
  | case5 options arg rest set found ih =>
      intro ran
      rw [List.cons_append, parseArgs, found]
      exact ih ran
  | case8 options arg expected set found value rest reached' set' ih =>
      intro ran
      rw [List.cons_append, List.cons_append, parseArgs, found]
      simp only [set']
      exact ih ran

/-- A flag that takes a value, last on a command line the loop otherwise runs
to its end, fails with its own message. -/
theorem parseArgs_value_missing {options reached : σ} {front : List (List Char)}
    (ran : parseArgs table options front = .ok (.run reached)) {arg expected : List Char}
    {set : σ → List Char → Except (List Char) σ} (found : table arg = some (.value expected set)) :
    parseArgs table options (front ++ [arg]) = .error expected := by
  rw [parseArgs_append table ran, parseArgs, found]

/-- An argument that is no flag fails the loop with its own text. -/
theorem parseArgs_unknown {options reached : σ} {front : List (List Char)}
    (ran : parseArgs table options front = .ok (.run reached)) {arg : List Char}
    (unknown : table arg = none) (back : List (List Char)) :
    parseArgs table options (front ++ arg :: back) = .error ("Unknown argument: ".toList ++ arg) := by
  rw [parseArgs_append table ran, parseArgs, unknown]

end Loop

/-! ### Numbers -/

/-- `parse_u64`: a `u64` that is not `0`. -/
def parseU64 (value flag : List Char) : Except (List Char) Nat :=
  match RustText.parseUnsignedResult (2 ^ 64 - 1) value with
  | .error e => .error (flag ++ " expects a positive integer: ".toList ++ e.description)
  | .ok parsed =>
      if parsed = 0 then .error (flag ++ " expects a value greater than 0".toList) else .ok parsed

/-- `parse_usize`, on a 64-bit target. -/
def parseUsize (value flag : List Char) : Except (List Char) Nat :=
  match RustText.parseUnsignedResult (2 ^ 64 - 1) value with
  | .error e => .error (flag ++ " expects a non-negative integer: ".toList ++ e.description)
  | .ok parsed => .ok parsed

theorem parseUnsignedResult_decimal {value : Nat} (fits : value < 2 ^ 64) :
    RustText.parseUnsignedResult (2 ^ 64 - 1) (RustText.decimal value) = .ok value := by
  have read := RustText.parseUnsignedResult_toOption (2 ^ 64 - 1) (RustText.decimal value)
  rw [RustText.parseUnsigned_decimal (by omega)] at read
  cases parsed : RustText.parseUnsignedResult (2 ^ 64 - 1) (RustText.decimal value) with
  | error e =>
      rw [parsed] at read
      cases read
  | ok n =>
      rw [parsed] at read
      cases read
      rfl

/-- `parse_u64` reads back the decimal text of every positive `u64`. -/
theorem parseU64_decimal {value : Nat} (positive : 0 < value) (fits : value < 2 ^ 64) (flag : List Char) :
    parseU64 (RustText.decimal value) flag = .ok value := by
  simp only [parseU64, parseUnsignedResult_decimal fits]
  rw [if_neg (by omega)]

theorem parseU64_ok {value flag : List Char} {parsed : Nat} (ok : parseU64 value flag = .ok parsed) :
    0 < parsed ∧ RustText.parseUnsigned (2 ^ 64 - 1) value = some parsed := by
  rw [← RustText.parseUnsignedResult_toOption]
  unfold parseU64 at ok
  split at ok
  · cases ok
  · rename_i n read
    split_ifs at ok with zero
    cases ok
    exact ⟨by omega, by rw [read]; rfl⟩

theorem parseUsize_decimal {value : Nat} (fits : value < 2 ^ 64) (flag : List Char) :
    parseUsize (RustText.decimal value) flag = .ok value := by
  rw [parseUsize, parseUnsignedResult_decimal fits]

/-- Every error of `parse_u64` and `parse_usize` starts with the flag it parsed for. -/
theorem parseU64_error_names_flag {value flag e : List Char} (failed : parseU64 value flag = .error e) :
    flag <+: e := by
  unfold parseU64 at failed
  split at failed
  · cases failed
    exact (List.prefix_append flag _).trans (List.prefix_append _ _)
  · split_ifs at failed
    cases failed
    exact List.prefix_append _ _

theorem parseUsize_error_names_flag {value flag e : List Char} (failed : parseUsize value flag = .error e) :
    flag <+: e := by
  unfold parseUsize at failed
  split at failed
  · cases failed
    exact (List.prefix_append flag _).trans (List.prefix_append _ _)
  · cases failed

/-! ### DNS servers -/

/-- `parse_dns_entries`: the value split at every `,` and `;`, each piece
trimmed, the empty ones dropped. -/
def parseDnsEntries (value : List Char) : List (List Char) :=
  ((value.splitOnP fun c => c == ',' || c == ';').map RustText.trim).filter fun entry => !entry.isEmpty

/-- Every entry is non-empty, trimmed, and holds no separator. -/
theorem mem_parseDnsEntries {value entry : List Char} (mem : entry ∈ parseDnsEntries value) :
    entry ≠ [] ∧ RustText.trim entry = entry ∧ ',' ∉ entry ∧ ';' ∉ entry := by
  obtain ⟨inPieces, nonempty⟩ := List.mem_filter.mp mem
  obtain ⟨piece, inSplit, rfl⟩ := List.mem_map.mp inPieces
  have clear := RustText.not_of_mem_splitOnP inSplit
  have inside := fun c (mem : c ∈ RustText.trim piece) => (RustText.trim_sublist piece).subset mem
  refine ⟨by simpa using nonempty, RustText.trim_trim piece, fun comma => ?_, fun semicolon => ?_⟩
  · simpa using clear ',' (inside _ comma)
  · simpa using clear ';' (inside _ semicolon)

/-! ### `anytls-server` -/

/-- The options of `anytls-server`. -/
structure ServerArgs where
  listenAddr : List Char
  password : Option (List Char)
  paddingSchemeFile : Option (List Char)
  certPath : Option (List Char)
  keyPath : Option (List Char)
  idleSessionCheckInterval : Option Nat
  idleSessionTimeout : Option Nat
  minIdleSession : Option Nat
  logLevel : List Char
  watchCert : Bool
  showCertInfo : Bool
  expiryWarningDays : Nat
  dnsServers : List (List Char)

/-- The options before the loop. -/
def ServerArgs.initial : ServerArgs where
  listenAddr := "0.0.0.0:8443".toList
  password := none
  paddingSchemeFile := none
  certPath := none
  keyPath := none
  idleSessionCheckInterval := none
  idleSessionTimeout := none
  minIdleSession := none
  logLevel := "info".toList
  watchCert := false
  showCertInfo := false
  expiryWarningDays := 30
  dnsServers := []

/-- The argument `match` of the server's `main`. -/
def serverFlag (arg : List Char) : Option (Flag ServerArgs) :=
  if arg = "-l".toList ∨ arg = "--listen".toList then
    some (.value "Expected listen address after -l".toList fun args value =>
      .ok { args with listenAddr := value })
  else if arg = "-p".toList ∨ arg = "--password".toList then
    some (.value "Expected password after -p".toList fun args value =>
      .ok { args with password := some value })
  else if arg = "--padding-scheme".toList then
    some (.value "Expected padding scheme file after --padding-scheme".toList fun args value =>
      .ok { args with paddingSchemeFile := some value })
  else if arg = "--cert".toList then
    some (.value "Expected certificate path after --cert".toList fun args value =>
      .ok { args with certPath := some value })
  else if arg = "--key".toList then
    some (.value "Expected private key path after --key".toList fun args value =>
      .ok { args with keyPath := some value })
  else if arg = "-I".toList ∨ arg = "--idle-session-check-interval".toList then
    some (.value "Expected seconds after --idle-session-check-interval".toList fun args value =>
      (parseU64 value "--idle-session-check-interval".toList).map fun interval =>
        { args with idleSessionCheckInterval := some interval })
  else if arg = "-T".toList ∨ arg = "--idle-session-timeout".toList then
    some (.value "Expected seconds after --idle-session-timeout".toList fun args value =>
      (parseU64 value "--idle-session-timeout".toList).map fun timeout =>
        { args with idleSessionTimeout := some timeout })
  else if arg = "-M".toList ∨ arg = "--min-idle-session".toList then
    some (.value "Expected value after --min-idle-session".toList fun args value =>
      (parseUsize value "--min-idle-session".toList).map fun count =>
        { args with minIdleSession := some count })
  else if arg = "-L".toList ∨ arg = "--log-level".toList then
    some (.value "Expected log level after --log-level".toList fun args value =>
      .ok { args with logLevel := value })
  else if arg = "--watch-cert".toList then
    some (.switch fun args => { args with watchCert := true })
  else if arg = "--show-cert-info".toList then
    some (.switch fun args => { args with showCertInfo := true })
  else if arg = "--expiry-warning-days".toList then
    some (.value "Expected days after --expiry-warning-days".toList fun args value =>
      (parseU64 value "--expiry-warning-days".toList).map fun days =>
        { args with expiryWarningDays := days })
  else if arg = "--dns".toList then
    some (.value "Expected DNS server after --dns".toList fun args value =>
      .ok { args with dnsServers := args.dnsServers ++ parseDnsEntries value })
  else if arg = "-V".toList ∨ arg = "--version".toList then some .version
  else if arg = "-h".toList ∨ arg = "--help".toList then some .help
  else none

/-- The server's argument loop. -/
def parseServerArgs (argv : List (List Char)) : Except (List Char) (Command ServerArgs) :=
  parseArgs serverFlag ServerArgs.initial argv

/-! ### `anytls-client` -/

/-- The options of `anytls-client`. -/
structure ClientArgs where
  listenAddr : List Char
  httpListenAddr : Option (List Char)
  serverAddr : List Char
  sni : Option (List Char)
  password : Option (List Char)
  idleCheckInterval : Option Nat
  idleTimeout : Option Nat
  minIdleSessions : Option Nat
  logLevel : List Char

/-- The options before the loop. -/
def ClientArgs.initial : ClientArgs where
  listenAddr := "127.0.0.1:1080".toList
  httpListenAddr := none
  serverAddr := "127.0.0.1:8443".toList
  sni := none
  password := none
  idleCheckInterval := none
  idleTimeout := none
  minIdleSessions := none
  logLevel := "info".toList

/-- The argument `match` of the client's `main`. -/
def clientFlag (arg : List Char) : Option (Flag ClientArgs) :=
  if arg = "-l".toList ∨ arg = "--listen".toList then
    some (.value "Expected listen address after -l".toList fun args value =>
      .ok { args with listenAddr := value })
  else if arg = "-s".toList ∨ arg = "--server".toList then
    some (.value "Expected server address after -s".toList fun args value =>
      .ok { args with serverAddr := value })
  else if arg = "--sni".toList then
    some (.value "Expected SNI after --sni".toList fun args value =>
      .ok { args with sni := some value })
  else if arg = "-p".toList ∨ arg = "--password".toList then
    some (.value "Expected password after -p".toList fun args value =>
      .ok { args with password := some value })
  else if arg = "-H".toList ∨ arg = "--http-listen".toList then
    some (.value "Expected listen address after --http-listen".toList fun args value =>
      .ok { args with httpListenAddr := some value })
  else if arg = "-I".toList ∨ arg = "--idle-session-check-interval".toList then
    some (.value "Expected seconds after --idle-session-check-interval".toList fun args value =>
      (parseU64 value "--idle-session-check-interval".toList).map fun interval =>
        { args with idleCheckInterval := some interval })
  else if arg = "-T".toList ∨ arg = "--idle-session-timeout".toList then
    some (.value "Expected seconds after --idle-session-timeout".toList fun args value =>
      (parseU64 value "--idle-session-timeout".toList).map fun timeout =>
        { args with idleTimeout := some timeout })
  else if arg = "-M".toList ∨ arg = "--min-idle-session".toList then
    some (.value "Expected value after --min-idle-session".toList fun args value =>
      (parseUsize value "--min-idle-session".toList).map fun count =>
        { args with minIdleSessions := some count })
  else if arg = "-L".toList ∨ arg = "--log-level".toList then
    some (.value "Expected log level after --log-level".toList fun args value =>
      .ok { args with logLevel := value })
  else if arg = "-V".toList ∨ arg = "--version".toList then some .version
  else if arg = "-h".toList ∨ arg = "--help".toList then some .help
  else none

/-- The client's argument loop. -/
def parseClientArgs (argv : List (List Char)) : Except (List Char) (Command ClientArgs) :=
  parseArgs clientFlag ClientArgs.initial argv

/-! ### The server name -/

/-- `derive_sni_from_server_addr`: the address of `[v6]...`; otherwise the
text before the last `:`, unless that text has a `:` itself and the address no
`]` (a bare IPv6 address, kept whole); brackets trimmed from what is kept.
Positions count characters where Rust counts bytes; `[`, `]` and `:` are ASCII,
so both cut the text at the same place. -/
def deriveSniFromServerAddr (addr : List Char) : List Char :=
  let trimmed := RustText.trim addr
  let bracketed := if trimmed.head? = some '[' then trimmed.idxOf? ']' else none
  match bracketed with
  | some close => (trimmed.take close).drop 1
  | none =>
      match RustText.rfind ':' trimmed with
      | some idx =>
          let hostPart := trimmed.take idx
          if hostPart.contains ':' && !trimmed.contains ']' then
            RustText.trimMatches ']' (RustText.trimMatches '[' trimmed)
          else RustText.trimMatches ']' (RustText.trimMatches '[' (RustText.trim hostPart))
      | none => RustText.trimMatches ']' (RustText.trimMatches '[' trimmed)

/-- The server name rustls is given. -/
inductive ServerName (Ip : Type)
  | ipAddress (ip : Ip)
  | dnsName (name : List Char)

/-- `build_server_name`, with `parseIp` the `IpAddr` parser and `isDnsName`
the DNS-name check of `ServerName::try_from`. -/
def buildServerName {Ip : Type} (parseIp : List Char → Option Ip) (isDnsName : List Char → Bool)
    (value : List Char) : Except (List Char) (ServerName Ip) :=
  let normalized := RustText.trimMatches ']' (RustText.trimMatches '[' (RustText.trim value))
  if normalized.isEmpty then .error "Server name cannot be empty".toList
  else
    match parseIp normalized with
    | some ip => .ok (.ipAddress ip)
    | none =>
        if isDnsName normalized then .ok (.dnsName normalized)
        else .error ("Invalid DNS name for SNI: ".toList ++ normalized)

/-- A text that ends in a decimal and starts with no whitespace is its own trim. -/
theorem trim_of_decimal_end (front : List Char) (port : Nat) {text : List Char}
    (first : ∀ c ∈ text.head?, RustText.isWhitespace c = false) (ends : text = front ++ RustText.decimal port) :
    RustText.trim text = text := by
  apply RustText.trim_eq_self first
  intro c last
  rw [ends, List.getLast?_append_of_ne_nil _ (RustText.decimal_ne_nil port)] at last
  exact RustText.isWhitespace_of_isDigit (RustText.isDigit_of_mem_decimal (List.mem_of_getLast? last))

theorem colon_not_mem_decimal (port : Nat) : ':' ∉ RustText.decimal port := fun mem =>
  absurd (RustText.isDigit_of_mem_decimal mem) (by decide)

/-- The host of `host:port`, for a host with no `:` and no bracket that is its
own trim: a DNS name or an IPv4 address. -/
theorem deriveSniFromServerAddr_hostPort {host : List Char} (port : Nat) (noColon : ':' ∉ host)
    (noOpen : '[' ∉ host) (noClose : ']' ∉ host) (trimmed : RustText.trim host = host) :
    deriveSniFromServerAddr (host ++ ':' :: RustText.decimal port) = host := by
  -- the address starts with the host's first character, or with `:`: neither is whitespace nor `[`
  have first : ∀ c ∈ (host ++ ':' :: RustText.decimal port).head?,
      RustText.isWhitespace c = false ∧ c ≠ '[' := by
    intro c head
    rw [List.head?_append] at head
    cases starts : host.head? with
    | none =>
        rw [starts, Option.none_or, List.head?_cons, Option.mem_some_iff] at head
        subst head
        decide
    | some d =>
        rw [starts, Option.some_or, Option.mem_some_iff] at head
        subst head
        exact ⟨RustText.trim_head? host _ (by simp [trimmed, starts]),
          fun same => noOpen (same ▸ List.mem_of_mem_head? starts)⟩
  have whole : RustText.trim (host ++ ':' :: RustText.decimal port) = host ++ ':' :: RustText.decimal port :=
    trim_of_decimal_end (host ++ [':']) port (fun c head => (first c head).1) (by simp)
  have notBracketed : (host ++ ':' :: RustText.decimal port).head? ≠ some '[' := fun starts =>
    (first '[' starts).2 rfl
  have hostClear : host.contains ':' = false := by simpa using noColon
  unfold deriveSniFromServerAddr
  simp only [whole, if_neg notBracketed, RustText.rfind_append host (colon_not_mem_decimal port),
    List.take_left', hostClear, Bool.false_and, Bool.false_eq_true, if_false, trimmed,
    RustText.trimMatches_of_not_mem noOpen, RustText.trimMatches_of_not_mem noClose]

/-- The address of `[address]:port`, for an address with no `]`. -/
theorem deriveSniFromServerAddr_bracketed {address : List Char} (port : Nat) (noClose : ']' ∉ address) :
    deriveSniFromServerAddr (('[' :: address) ++ ']' :: ':' :: RustText.decimal port) = address := by
  have starts : (('[' :: address) ++ ']' :: ':' :: RustText.decimal port).head? = some '[' := rfl
  have whole : RustText.trim (('[' :: address) ++ ']' :: ':' :: RustText.decimal port) =
      ('[' :: address) ++ ']' :: ':' :: RustText.decimal port :=
    trim_of_decimal_end (('[' :: address) ++ [']', ':']) port
      (fun c head => by rw [starts] at head; cases head; decide) (by simp)
  -- the first `]` is the one after the address
  have close : (('[' :: address) ++ ']' :: ':' :: RustText.decimal port).idxOf? ']' =
      some (address.length + 1) := by
    have inside : (('[' :: address).findIdx? fun c => c == ']') = none := by
      rw [List.findIdx?_eq_none_iff]
      intro c mem
      rcases List.mem_cons.mp mem with rfl | mem
      · decide
      · exact beq_false_of_ne fun same => noClose (same ▸ mem)
    rw [List.idxOf?, List.findIdx?_append, inside, Option.none_or, List.findIdx?_cons]
    simp only [beq_self_eq_true, if_true, Option.map_some, List.length_cons, Nat.zero_add]
  unfold deriveSniFromServerAddr
  simp only [whole, starts, close, ↓reduceIte]
  rw [List.take_left' (List.length_cons ..)]
  rfl

end CommandLine

end AnyTls
