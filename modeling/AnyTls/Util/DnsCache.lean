/-
# The DNS cache

`resolve_host_with_cache` reads the cache under its read lock and, on a hit,
takes the write lock again to advance the entry's index. On a miss it looks the
name up with no lock held, inserts the sorted addresses with the index at `0`
under the write lock, and advances the index under it once more. Each
lock-protected section is one step here, and the steps of concurrent calls
interleave in any order.

Run one at a time, the calls hand the addresses out round-robin
(`sequential_round_robin`): each call reads the index once and advances it
once. Reading and advancing are two steps, though, so two calls that both
read before either advances get the same address (`run_overlappingReads`):
two concurrent hits after a miss both get the second address, and the next
call gets it a third time (`concurrent_hits_repeat_address`).

The resolver itself (the system's `lookup_host`, or the `TokioAsyncResolver`
of `set_custom_dns_servers`), `str::parse::<IpAddr>` and the order of the sort
key `(family, octets)` come from outside the repository and are parameters.
`set_custom_dns_servers` parses every entry before it changes anything, so a
list with one bad entry leaves the resolver and the cache as they were
(`setCustomDnsServers_spec`).
-/

import AnyTls.Util.Error
import AnyTls.Library.Runs
import AnyTls.Library.RustText

namespace AnyTls

/-- `DEFAULT_TTL`, in nanoseconds. -/
def defaultTtl : Nat := 60 * 1000000000

/-- `DNS_TIMEOUT.as_secs()`. -/
def dnsTimeoutSecs : Nat := 10

/-- `CacheEntry`: the socket addresses, the `Instant` they expire at, in
nanoseconds, and the `usize` index of the next one, on a 64-bit target. -/
structure CacheEntry (Ip : Type) where
  addresses : List (Ip × Nat)
  expiresAt : Nat
  nextIndex : UInt64

/-- `DnsCache`: its map from host names to entries. -/
structure DnsCache (Ip : Type) where
  inner : List Char → Option (CacheEntry Ip)

namespace DnsCache

variable {Ip : Type}

/-- `DnsCache::new`. -/
def new : DnsCache Ip := ⟨fun _ => none⟩

/-- `DnsCache::get`, at the `Instant` `now`. -/
def get (cache : DnsCache Ip) (host : List Char) (now : Nat) : Option (Ip × Nat) :=
  match cache.inner host with
  | some entry =>
      if now ≤ entry.expiresAt ∧ entry.addresses ≠ [] then
        entry.addresses[entry.nextIndex.toNat % entry.addresses.length]?
      else none
  | none => none

/-- `DnsCache::insert`, at the `Instant` `now`. -/
def insert (cache : DnsCache Ip) (host : List Char) (addresses : List (Ip × Nat)) (now : Nat) :
    DnsCache Ip :=
  ⟨Function.update cache.inner host (some ⟨addresses, now + defaultTtl, 0⟩)⟩

/-- `DnsCache::advance`: `wrapping_add(1)` on the index. -/
def advance (cache : DnsCache Ip) (host : List Char) : DnsCache Ip :=
  match cache.inner host with
  | some entry =>
      ⟨Function.update cache.inner host (some { entry with nextIndex := entry.nextIndex + 1 })⟩
  | none => cache

/-- A fresh entry is read at its index, modulo the number of its addresses. -/
theorem get_of_entry {cache : DnsCache Ip} {host : List Char} {now : Nat} {first : Ip × Nat}
    {rest : List (Ip × Nat)} {expiresAt : Nat} {index : UInt64}
    (found : cache.inner host = some ⟨first :: rest, expiresAt, index⟩) (fresh : now ≤ expiresAt) :
    cache.get host now = some ((first :: rest).getD (index.toNat % (rest.length + 1)) first) := by
  have inRange : index.toNat % (rest.length + 1) < (first :: rest).length := by
    simpa using Nat.mod_lt index.toNat (Nat.succ_pos rest.length)
  simp only [get, found, fresh, ne_eq, reduceCtorEq, not_false_eq_true, and_self, if_true,
    List.length_cons]
  rw [List.getElem?_eq_getElem inRange, List.getD_eq_getElem _ _ inRange]

@[simp]
theorem get_new (host : List Char) (now : Nat) : (new : DnsCache Ip).get host now = none := rfl

@[simp]
theorem insert_inner_self (cache : DnsCache Ip) (host : List Char) (addresses : List (Ip × Nat))
    (now : Nat) : (cache.insert host addresses now).inner host = some ⟨addresses, now + defaultTtl, 0⟩ := by
  simp [insert]

theorem advance_inner_self {cache : DnsCache Ip} {host : List Char} {entry : CacheEntry Ip}
    (found : cache.inner host = some entry) :
    (cache.advance host).inner host = some { entry with nextIndex := entry.nextIndex + 1 } := by
  simp [advance, found]

end DnsCache

/-- How the lookup of a name ends within `DNS_TIMEOUT`: the IP addresses it
found, in the resolver's order. -/
inductive LookupOutcome (Ip : Type)
  | timedOut
  | failed (error : List Char)
  | found (ips : List Ip)

/-- Where one `resolve_host_with_cache` call is. -/
inductive CallPhase (Ip : Type)
  /-- Called for `host` and `port`. -/
  | invoked (host : List Char) (port : Nat)
  /-- `DNS_CACHE.get` returned `addr`; `advance` is next. -/
  | hit (host : List Char) (addr : Ip × Nat)
  /-- The cache had nothing fresh; the lookup is under way, with no lock held. -/
  | missed (host : List Char) (port : Nat)
  /-- Resolved and sorted, `first` first; `insert` is next. -/
  | resolved (host : List Char) (first : Ip × Nat) (rest : List (Ip × Nat))
  /-- Inserted; `advance` is next, and then it returns `first`. -/
  | inserted (host : List Char) (first : Ip × Nat)
  /-- Returned. -/
  | returned (result : Except AnyTlsError (Ip × Nat))

/-- The cache shared by all calls, the clock, and every call so far in the
order of invocation. -/
structure Resolver (Ip : Type) where
  now : Nat
  cache : DnsCache Ip
  calls : List (CallPhase Ip)

/-- One step of one call, or of the world around the calls. -/
inductive ResolveEvent (Ip : Type)
  /-- Time passes. -/
  | elapse (nanos : Nat)
  /-- `set_custom_dns_servers` clears the cache. -/
  | clear
  /-- A task calls `resolve_host_with_cache`. -/
  | invoke (host : List Char) (port : Nat)
  /-- The call parses the host and, for a name, reads the cache. -/
  | check (call : Nat)
  /-- The call's lookup ends. -/
  | lookup (call : Nat) (outcome : LookupOutcome Ip)
  /-- The call inserts what it resolved. -/
  | insert (call : Nat)
  /-- The call advances the index and returns. -/
  | advance (call : Nat)

namespace Resolver

variable {Ip : Type} (parseIp : List Char → Option Ip) (keyLe : Ip → Ip → Bool)

/-- Before the first call: an empty cache. -/
def init : Resolver Ip := ⟨0, DnsCache.new, []⟩

/-- The lookup's outcome as the call sees it: the error it returns, or the
addresses with `port`, sorted by their key, the first apart. -/
def lookupAddresses (host : List Char) (port : Nat) :
    LookupOutcome Ip → Except AnyTlsError ((Ip × Nat) × List (Ip × Nat))
  | .timedOut =>
      .error (.protocol ("DNS resolution timeout (".toList ++ RustText.decimal dnsTimeoutSecs ++
        "s) for ".toList ++ host))
  | .failed error => .error (.io ("DNS resolution failed for ".toList ++ host ++ ": ".toList ++ error))
  | .found ips =>
      -- sorting keeps the length, so the empty case is the `is_empty` check
      match (ips.map (·, port)).mergeSort (fun a b => keyLe a.1 b.1) with
      | [] => .error (.protocol ("No address found for ".toList ++ host))
      | first :: rest => .ok (first, rest)

def setCall (r : Resolver Ip) (call : Nat) (phase : CallPhase Ip) : Resolver Ip :=
  { r with calls := r.calls.set call phase }

/-- One step; `none` when the call is not at that step. -/
def step (r : Resolver Ip) : ResolveEvent Ip → Option (Resolver Ip)
  | .elapse nanos => some { r with now := r.now + nanos }
  | .clear => some { r with cache := DnsCache.new }
  | .invoke host port => some { r with calls := r.calls ++ [.invoked host port] }
  | .check call =>
      match r.calls[call]? with
      | some (.invoked host port) =>
          match parseIp host with
          | some ip => some (r.setCall call (.returned (.ok (ip, port))))
          | none =>
              match r.cache.get host r.now with
              | some addr => some (r.setCall call (.hit host addr))
              | none => some (r.setCall call (.missed host port))
      | _ => none
  | .lookup call outcome =>
      match r.calls[call]? with
      | some (.missed host port) =>
          match lookupAddresses keyLe host port outcome with
          | .ok (first, rest) => some (r.setCall call (.resolved host first rest))
          | .error e => some (r.setCall call (.returned (.error e)))
      | _ => none
  | .insert call =>
      match r.calls[call]? with
      | some (.resolved host first rest) =>
          some { r.setCall call (.inserted host first) with
            cache := r.cache.insert host (first :: rest) r.now }
      | _ => none
  | .advance call =>
      match r.calls[call]? with
      | some (.hit host addr) =>
          some { r.setCall call (.returned (.ok addr)) with cache := r.cache.advance host }
      | some (.inserted host first) =>
          some { r.setCall call (.returned (.ok first)) with cache := r.cache.advance host }
      | _ => none

/-! ### One step of each kind -/

section Steps

variable (r : Resolver Ip) (call : Nat) {host : List Char} {port : Nat}

theorem step_invoke (host : List Char) (port : Nat) :
    step parseIp keyLe r (.invoke host port) =
      some { r with calls := r.calls ++ [.invoked host port] } := rfl

theorem step_check_hit {addr : Ip × Nat} (invoked : r.calls[call]? = some (.invoked host port))
    (notIp : parseIp host = none) (hit : r.cache.get host r.now = some addr) :
    step parseIp keyLe r (.check call) = some (r.setCall call (.hit host addr)) := by
  simp only [step, invoked, notIp, hit]

theorem step_check_miss (invoked : r.calls[call]? = some (.invoked host port))
    (notIp : parseIp host = none) (miss : r.cache.get host r.now = none) :
    step parseIp keyLe r (.check call) = some (r.setCall call (.missed host port)) := by
  simp only [step, invoked, notIp, miss]

theorem step_lookup_found {outcome : LookupOutcome Ip} {first : Ip × Nat}
    {rest : List (Ip × Nat)} (missed : r.calls[call]? = some (.missed host port))
    (looked : lookupAddresses keyLe host port outcome = .ok (first, rest)) :
    step parseIp keyLe r (.lookup call outcome) = some (r.setCall call (.resolved host first rest)) := by
  simp only [step, missed, looked]

theorem step_insert {first : Ip × Nat} {rest : List (Ip × Nat)}
    (resolved : r.calls[call]? = some (.resolved host first rest)) :
    step parseIp keyLe r (.insert call) =
      some { r.setCall call (.inserted host first) with
        cache := r.cache.insert host (first :: rest) r.now } := by
  simp only [step, resolved]

theorem step_advance_hit {addr : Ip × Nat} (hit : r.calls[call]? = some (.hit host addr)) :
    step parseIp keyLe r (.advance call) =
      some { r.setCall call (.returned (.ok addr)) with cache := r.cache.advance host } := by
  simp only [step, hit]

theorem step_advance_inserted {first : Ip × Nat}
    (inserted : r.calls[call]? = some (.inserted host first)) :
    step parseIp keyLe r (.advance call) =
      some { r.setCall call (.returned (.ok first)) with cache := r.cache.advance host } := by
  simp only [step, inserted]

end Steps

/-- The newest call moves on to its next phase. -/
@[simp]
theorem setCall_last (now : Nat) (cache : DnsCache Ip) (calls : List (CallPhase Ip))
    (phase next : CallPhase Ip) :
    (⟨now, cache, calls ++ [phase]⟩ : Resolver Ip).setCall calls.length next =
      ⟨now, cache, calls ++ [next]⟩ := by
  simp [setCall]

/-! ### Calls one at a time -/

/-- The steps of call `call`, run alone, when it finds the cache fresh. -/
def hitEvents (host : List Char) (port call : Nat) : List (ResolveEvent Ip) :=
  [.invoke host port, .check call, .advance call]

/-- The steps of call `call`, run alone, when it misses the cache. -/
def missEvents (host : List Char) (port call : Nat) (outcome : LookupOutcome Ip) :
    List (ResolveEvent Ip) :=
  [.invoke host port, .check call, .lookup call outcome, .insert call, .advance call]

/-- `count` calls from call `call` on, one after another, each finding the cache fresh. -/
def hitsEvents (host : List Char) (port : Nat) : Nat → Nat → List (ResolveEvent Ip)
  | _, 0 => []
  | call, count + 1 => hitEvents host port call ++ hitsEvents host port (call + 1) count

/-- A call that finds `addr` returns it and advances the index. -/
theorem run_hitEvents (r : Resolver Ip) {host : List Char} (port : Nat) {addr : Ip × Nat}
    (notIp : parseIp host = none) (hit : r.cache.get host r.now = some addr) :
    Runs.run (step parseIp keyLe) r (hitEvents host port r.calls.length) =
      some { r with cache := r.cache.advance host, calls := r.calls ++ [.returned (.ok addr)] } := by
  have checked := step_check_hit parseIp keyLe { r with calls := r.calls ++ [.invoked host port] }
    r.calls.length (List.getElem?_concat_length ..) notIp hit
  have advanced := step_advance_hit parseIp keyLe { r with calls := r.calls ++ [.hit host addr] }
    r.calls.length (List.getElem?_concat_length ..)
  rw [setCall_last] at checked advanced
  rw [hitEvents, Runs.run_cons, step_invoke, Option.bind_some, Runs.run_cons, checked,
    Option.bind_some, Runs.run_cons, advanced, Option.bind_some, Runs.run_nil]

/-- A call that misses inserts the sorted addresses, advances the index past
the first and returns the first. -/
theorem run_missEvents (r : Resolver Ip) {host : List Char} {port : Nat}
    {outcome : LookupOutcome Ip} {first : Ip × Nat} {rest : List (Ip × Nat)}
    (notIp : parseIp host = none) (miss : r.cache.get host r.now = none)
    (looked : lookupAddresses keyLe host port outcome = .ok (first, rest)) :
    Runs.run (step parseIp keyLe) r (missEvents host port r.calls.length outcome) =
      some { r with
        cache := (r.cache.insert host (first :: rest) r.now).advance host
        calls := r.calls ++ [.returned (.ok first)] } := by
  have checked := step_check_miss parseIp keyLe { r with calls := r.calls ++ [.invoked host port] }
    r.calls.length (List.getElem?_concat_length ..) notIp miss
  have resolved := step_lookup_found parseIp keyLe { r with calls := r.calls ++ [.missed host port] }
    r.calls.length (List.getElem?_concat_length ..) looked
  have inserted := step_insert parseIp keyLe { r with calls := r.calls ++ [.resolved host first rest] }
    r.calls.length (List.getElem?_concat_length ..)
  have advanced := step_advance_inserted parseIp keyLe
    { r with
      cache := r.cache.insert host (first :: rest) r.now
      calls := r.calls ++ [.inserted host first] }
    r.calls.length (List.getElem?_concat_length ..)
  rw [setCall_last] at checked resolved inserted advanced
  rw [missEvents, Runs.run_cons, step_invoke, Option.bind_some, Runs.run_cons, checked,
    Option.bind_some, Runs.run_cons, resolved, Option.bind_some, Runs.run_cons, inserted,
    Option.bind_some, Runs.run_cons, advanced, Option.bind_some, Runs.run_nil]

/-- Calls that find the entry fresh, one after another, get its addresses in
turn from its index on, as long as the index does not wrap. -/
theorem run_hitsEvents {host : List Char} (port : Nat) (notIp : parseIp host = none)
    {first : Ip × Nat} {rest : List (Ip × Nat)} {expiresAt : Nat} (count : Nat) :
    ∀ (r : Resolver Ip) (index : UInt64),
      r.cache.inner host = some ⟨first :: rest, expiresAt, index⟩ → r.now ≤ expiresAt →
      index.toNat + count < 2 ^ 64 →
      ∃ final, Runs.run (step parseIp keyLe) r (hitsEvents host port r.calls.length count) =
          some final ∧
        final.calls = r.calls ++ (List.range count).map fun t =>
          CallPhase.returned (.ok ((first :: rest).getD ((index.toNat + t) % (rest.length + 1)) first)) := by
  induction count with
  | zero =>
      intro r _ _ _ _
      exact ⟨r, rfl, by simp⟩
  | succ count ih =>
      intro r index found fresh noWrap
      -- the first call reads the entry at `index` and leaves it at `index + 1`
      have firstCall := run_hitEvents parseIp keyLe r port notIp (DnsCache.get_of_entry found fresh)
      have advanced := DnsCache.advance_inner_self found
      have nextIndex : (index + 1).toNat = index.toNat + 1 := by
        rw [UInt64.toNat_add]
        simp only [UInt64.toNat_one]
        omega
      obtain ⟨final, done, calls⟩ := ih { r with
          cache := r.cache.advance host
          calls := r.calls ++ [.returned (.ok ((first :: rest).getD
            (index.toNat % (rest.length + 1)) first))] }
        (index + 1) advanced fresh (by omega)
      refine ⟨final, ?_, ?_⟩
      · rw [hitsEvents, Runs.run_append, firstCall]
        simpa using done
      · rw [calls, nextIndex, List.range_succ_eq_map]
        simp [Function.comp_def, Nat.add_assoc, Nat.add_comm 1]

/-- Calls for one name, one after another and within the entry's time to live,
after a call that missed: the `k`-th of them, the missing one being the `0`-th,
returns the `k`-th sorted address round-robin, until the index wraps. -/
theorem sequential_round_robin (r : Resolver Ip) {host : List Char} {port : Nat}
    {outcome : LookupOutcome Ip} {first : Ip × Nat} {rest : List (Ip × Nat)} (count : Nat)
    (notIp : parseIp host = none) (miss : r.cache.get host r.now = none)
    (looked : lookupAddresses keyLe host port outcome = .ok (first, rest))
    (noWrap : count + 1 < 2 ^ 64) :
    ∃ final, Runs.run (step parseIp keyLe) r
        (missEvents host port r.calls.length outcome ++
          hitsEvents host port (r.calls.length + 1) count) = some final ∧
      final.calls = r.calls ++ (List.range (count + 1)).map fun k =>
        CallPhase.returned (.ok ((first :: rest).getD (k % (rest.length + 1)) first)) := by
  have missed := run_missEvents parseIp keyLe r notIp miss looked
  have inserted : ((r.cache.insert host (first :: rest) r.now).advance host).inner host =
      some ⟨first :: rest, r.now + defaultTtl, 0 + 1⟩ :=
    DnsCache.advance_inner_self (DnsCache.insert_inner_self _ _ _ _)
  obtain ⟨final, done, calls⟩ := run_hitsEvents parseIp keyLe port notIp count
    { r with
      cache := (r.cache.insert host (first :: rest) r.now).advance host
      calls := r.calls ++ [.returned (.ok first)] }
    (0 + 1) inserted (Nat.le_add_right _ _) (by simpa [Nat.add_comm] using noWrap)
  refine ⟨final, ?_, ?_⟩
  · rw [Runs.run_append, missed]
    simpa using done
  · rw [calls, List.range_succ_eq_map]
    simp [Function.comp_def, Nat.add_comm 1]

/-- Three calls for `example.com` one after another on a fresh cache, whose
lookup finds `192.0.2.2` and `192.0.2.1`: they return `192.0.2.1`,
`192.0.2.2` and `192.0.2.1`. -/
theorem sequential_calls_alternate :
    lookupAddresses (fun a b : UInt32 => decide (a ≤ b)) "example.com".toList 443
        (.found [0xC0000202, 0xC0000201]) = .ok ((0xC0000201, 443), [(0xC0000202, 443)]) ∧
    ∃ final, Runs.run (step (fun _ => none) fun a b : UInt32 => decide (a ≤ b)) init
        (missEvents "example.com".toList 443 0 (.found [0xC0000202, 0xC0000201]) ++
          hitsEvents "example.com".toList 443 1 2) = some final ∧
      final.calls = [.returned (.ok (0xC0000201, 443)), .returned (.ok (0xC0000202, 443)),
        .returned (.ok (0xC0000201, 443))] := by
  have looked : lookupAddresses (fun a b : UInt32 => decide (a ≤ b)) "example.com".toList 443
      (.found [0xC0000202, 0xC0000201]) = .ok ((0xC0000201, 443), [(0xC0000202, 443)]) := by
    simp [lookupAddresses, List.mergeSort]
  obtain ⟨final, done, calls⟩ := sequential_round_robin (fun _ => none)
    (fun a b : UInt32 => decide (a ≤ b)) init 2 rfl (DnsCache.get_new _ _) looked (by decide)
  refine ⟨looked, final, done, ?_⟩
  rw [calls]
  rfl

/-! ### Calls that overlap -/

/-- Two calls for a name that both read the cache before either advances it
get the same address, and the index moves on by two. -/
theorem run_overlappingReads (cache : DnsCache Ip) {host : List Char} (port : Nat)
    (done : CallPhase Ip) {addr : Ip × Nat} (notIp : parseIp host = none)
    (reads : cache.get host 0 = some addr) :
    Runs.run (step parseIp keyLe) ⟨0, cache, [done]⟩
      [.invoke host port, .invoke host port, .check 1, .check 2, .advance 1, .advance 2] =
      some ⟨0, (cache.advance host).advance host,
        [done, .returned (.ok addr), .returned (.ok addr)]⟩ := by
  have checkOne := step_check_hit parseIp keyLe
    ⟨0, cache, [done, .invoked host port, .invoked host port]⟩ 1 rfl notIp reads
  have checkTwo := step_check_hit parseIp keyLe
    ⟨0, cache, [done, .hit host addr, .invoked host port]⟩ 2 rfl notIp reads
  have advanceOne := step_advance_hit parseIp keyLe
    ⟨0, cache, [done, .hit host addr, .hit host addr]⟩ 1 rfl
  have advanceTwo := step_advance_hit parseIp keyLe
    ⟨0, cache.advance host, [done, .returned (.ok addr), .hit host addr]⟩ 2 rfl
  rw [Runs.run_cons, step_invoke, Option.bind_some, Runs.run_cons, step_invoke, Option.bind_some]
  simp only [List.cons_append, List.nil_append]
  -- both reads find the index where the earlier calls left it
  rw [Runs.run_cons, checkOne, Option.bind_some]
  simp only [setCall, List.set_cons_succ, List.set_cons_zero]
  rw [Runs.run_cons, checkTwo, Option.bind_some]
  simp only [setCall, List.set_cons_succ, List.set_cons_zero]
  rw [Runs.run_cons, advanceOne, Option.bind_some]
  simp only [setCall, List.set_cons_succ, List.set_cons_zero]
  rw [Runs.run_cons, advanceTwo, Option.bind_some]
  simp only [setCall, List.set_cons_succ, List.set_cons_zero, Runs.run_nil]

/-- Call `0` misses and returns; calls `1` and `2` both read the cache before
either advances it; call `3` runs after both. -/
def overlappingHits (host : List Char) (port : Nat) (outcome : LookupOutcome Ip) :
    List (ResolveEvent Ip) :=
  missEvents host port 0 outcome ++
    ([.invoke host port, .invoke host port, .check 1, .check 2, .advance 1, .advance 2] :
      List (ResolveEvent Ip)) ++
    hitEvents host port 3

/-- After a miss that resolved two addresses, two overlapping calls both get
the second, and so does the call after them. -/
theorem run_overlappingHits {host : List Char} {port : Nat} {outcome : LookupOutcome Ip}
    {first second : Ip × Nat} (notIp : parseIp host = none)
    (looked : lookupAddresses keyLe host port outcome = .ok (first, [second])) :
    (Runs.run (step parseIp keyLe) init (overlappingHits host port outcome)).map (·.calls) =
      some [.returned (.ok first), .returned (.ok second), .returned (.ok second),
        .returned (.ok second)] := by
  -- the miss leaves the entry at index `1`, where both overlapping calls read it
  have missed : Runs.run (step parseIp keyLe) init (missEvents host port 0 outcome) =
      some ⟨0, (DnsCache.new.insert host [first, second] 0).advance host,
        [.returned (.ok first)]⟩ :=
    run_missEvents parseIp keyLe init notIp (DnsCache.get_new _ _) looked
  have atOne := DnsCache.advance_inner_self (DnsCache.insert_inner_self DnsCache.new host
    [first, second] 0)
  have readOne : ((DnsCache.new.insert host [first, second] 0).advance host).get host 0 =
      some second := by
    rw [DnsCache.get_of_entry atOne (Nat.zero_le _)]
    rfl
  have overlapping := run_overlappingReads parseIp keyLe
    ((DnsCache.new.insert host [first, second] 0).advance host) port (.returned (.ok first))
    notIp readOne
  -- two advances later the index is `3`, which reads the second address again
  have atThree := DnsCache.advance_inner_self (DnsCache.advance_inner_self atOne)
  have readThree : ((((DnsCache.new.insert host [first, second] 0).advance host).advance
      host).advance host).get host 0 = some second := by
    rw [DnsCache.get_of_entry atThree (Nat.zero_le _)]
    simp
  have last := run_hitEvents parseIp keyLe
    ⟨0, (((DnsCache.new.insert host [first, second] 0).advance host).advance host).advance host,
      [.returned (.ok first), .returned (.ok second), .returned (.ok second)]⟩ port notIp readThree
  rw [overlappingHits, Runs.run_append, Runs.run_append, missed, Option.bind_some, overlapping,
    Option.bind_some]
  exact congrArg (Option.map (·.calls)) last

/-- Four calls for `example.com` on a fresh cache, whose lookup finds
`192.0.2.2` and `192.0.2.1`: the first misses and returns `192.0.2.1`, the next
two overlap and both return `192.0.2.2`, and the fourth returns it again. -/
theorem concurrent_hits_repeat_address :
    (Runs.run (step (fun _ => none) fun a b : UInt32 => decide (a ≤ b)) init
        (overlappingHits "example.com".toList 443 (.found [0xC0000202, 0xC0000201]))).map
        (·.calls) =
      some [.returned (.ok (0xC0000201, 443)), .returned (.ok (0xC0000202, 443)),
        .returned (.ok (0xC0000202, 443)), .returned (.ok (0xC0000202, 443))] :=
  run_overlappingHits _ _ rfl (by simp [lookupAddresses, List.mergeSort])

end Resolver

/-! ### Custom name servers

`set_custom_dns_servers` parses every entry before it touches anything: the
first entry that does not parse ends it with an error naming that entry, and
the resolver and the cache stay as they were. Otherwise it installs the system
resolver for an empty list, or a resolver over the parsed servers, and clears
the cache. std's parsers of `SocketAddr` and `IpAddr` are parameters. -/

section DnsServers

variable {Ip : Type} (parseSocketAddr : List Char → Option (Ip × Nat)) (parseIp : List Char → Option Ip)

/-- `parse_dns_server`: a socket address, or an IP address, bare or in
brackets, on port `53`. The entry is trimmed first, but the error names it as
given. -/
def parseDnsServer (entry : List Char) : Except (List Char) (Ip × Nat) :=
  let trimmed := RustText.trim entry
  if trimmed.isEmpty then .error "DNS server address is empty".toList
  else
    match parseSocketAddr trimmed with
    | some socket => .ok socket
    | none =>
        match parseIp trimmed with
        | some ip => .ok (ip, 53)
        | none =>
            let invalid := "invalid DNS server '".toList ++ entry ++ "'".toList
            -- `trimmed[1..trimmed.len() - 1]`: both brackets are one byte
            if trimmed.head? = some '[' ∧ trimmed.getLast? = some ']' then
              match parseIp (trimmed.drop 1).dropLast with
              | some ip => .ok (ip, 53)
              | none => .error invalid
            else .error invalid

/-- The loop of `set_custom_dns_servers`: the entries parsed in order, the
first that fails ending it. -/
def parseDnsServers : List (List Char) → Except AnyTlsError (List (Ip × Nat))
  | [] => .ok []
  | raw :: rest =>
      match parseDnsServer parseSocketAddr parseIp raw with
      | .error err => .error (.config ("Invalid DNS server '".toList ++ raw ++ "': ".toList ++ err))
      | .ok socket => (parseDnsServers rest).map (socket :: ·)

/-- `set_custom_dns_servers` on `DNS_RESOLVER` (`none` for the system resolver)
and `DNS_CACHE`: the two afterwards, and the result. -/
def setCustomDnsServers (resolver : Option (List (Ip × Nat))) (cache : DnsCache Ip)
    (servers : List (List Char)) : (Option (List (Ip × Nat)) × DnsCache Ip) × Except AnyTlsError Unit :=
  match parseDnsServers parseSocketAddr parseIp servers with
  | .error e => ((resolver, cache), .error e)
  | .ok [] => ((none, DnsCache.new), .ok ())
  | .ok parsed => ((some parsed, DnsCache.new), .ok ())

/-- Trimming an entry first changes what it parses to in nothing. -/
theorem parseDnsServer_trim (entry : List Char) :
    (parseDnsServer parseSocketAddr parseIp (RustText.trim entry)).toOption =
      (parseDnsServer parseSocketAddr parseIp entry).toOption := by
  unfold parseDnsServer
  dsimp only
  rw [RustText.trim_trim]
  -- the two sides differ only in the text of the last error
  split
  · rfl
  · split
    · rfl
    · split
      · rfl
      · split
        · split <;> rfl
        · rfl

/-- The entries are accepted exactly when each parses, and then in order. -/
theorem parseDnsServers_ok {servers : List (List Char)} {parsed : List (Ip × Nat)}
    (accepted : parseDnsServers parseSocketAddr parseIp servers = .ok parsed) :
    List.Forall₂ (fun raw socket => parseDnsServer parseSocketAddr parseIp raw = .ok socket) servers parsed := by
  induction servers generalizing parsed with
  | nil =>
      cases accepted
      exact .nil
  | cons raw rest ih =>
      simp only [parseDnsServers] at accepted
      split at accepted
      · cases accepted
      · rename_i socket parsedRaw
        cases later : parseDnsServers parseSocketAddr parseIp rest with
        | error e => rw [later] at accepted; cases accepted
        | ok tail =>
            rw [later] at accepted
            cases accepted
            exact .cons parsedRaw (ih later)

/-- A list is refused at its first entry that does not parse, and the error
names that entry and says why. -/
theorem parseDnsServers_error {servers : List (List Char)} {e : AnyTlsError}
    (refused : parseDnsServers parseSocketAddr parseIp servers = .error e) :
    ∃ accepted raw rest err, servers = accepted ++ raw :: rest ∧
      (∀ entry ∈ accepted, ∃ socket, parseDnsServer parseSocketAddr parseIp entry = .ok socket) ∧
      parseDnsServer parseSocketAddr parseIp raw = .error err ∧
      e = .config ("Invalid DNS server '".toList ++ raw ++ "': ".toList ++ err) := by
  induction servers with
  | nil => cases refused
  | cons first rest ih =>
      simp only [parseDnsServers] at refused
      split at refused
      · rename_i err failed
        cases refused
        refine ⟨[], first, rest, err, rfl, ?_, failed, rfl⟩
        intro entry mem
        cases mem
      · rename_i socket parsedFirst
        cases later : parseDnsServers parseSocketAddr parseIp rest with
        | ok tail => rw [later] at refused; cases refused
        | error e' =>
            rw [later] at refused
            cases refused
            obtain ⟨accepted, raw, rest', err, split, parsed, failed, named⟩ := ih later
            refine ⟨first :: accepted, raw, rest', err, by rw [split]; rfl, ?_, failed, named⟩
            intro entry mem
            rcases List.mem_cons.mp mem with rfl | inAccepted
            · exact ⟨socket, parsedFirst⟩
            · exact parsed entry inAccepted

/-- `set_custom_dns_servers` is all or nothing: a list with an entry that does
not parse changes neither the resolver nor the cache, and its error names the
first such entry; a list that parses installs the system resolver when it is
empty, and otherwise a resolver over its servers in order, and either way
clears the cache. -/
theorem setCustomDnsServers_spec (resolver : Option (List (Ip × Nat))) (cache : DnsCache Ip)
    (servers : List (List Char)) :
    (∃ e, (setCustomDnsServers parseSocketAddr parseIp resolver cache servers) = ((resolver, cache), .error e) ∧
        ∃ accepted raw rest err, servers = accepted ++ raw :: rest ∧
          (∀ entry ∈ accepted, ∃ socket, parseDnsServer parseSocketAddr parseIp entry = .ok socket) ∧
          parseDnsServer parseSocketAddr parseIp raw = .error err ∧
          e = .config ("Invalid DNS server '".toList ++ raw ++ "': ".toList ++ err)) ∨
      ∃ parsed, List.Forall₂ (fun raw socket => parseDnsServer parseSocketAddr parseIp raw = .ok socket)
          servers parsed ∧
        setCustomDnsServers parseSocketAddr parseIp resolver cache servers =
          ((if parsed = [] then none else some parsed, DnsCache.new), .ok ()) := by
  unfold setCustomDnsServers
  cases parsing : parseDnsServers parseSocketAddr parseIp servers with
  | error e => exact .inl ⟨e, rfl, parseDnsServers_error parseSocketAddr parseIp parsing⟩
  | ok parsed =>
      refine .inr ⟨parsed, parseDnsServers_ok parseSocketAddr parseIp parsing, ?_⟩
      cases parsed <;> rfl

end DnsServers

end AnyTls
