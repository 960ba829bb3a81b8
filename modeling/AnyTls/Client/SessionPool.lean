/-
# The client's pool of idle sessions

`SessionPool` keeps idle sessions in a `BTreeMap` keyed by `seq`.
`get_idle_session` takes the entry of the largest `seq`, skipping closed
sessions; `add_idle_session` inserts a session that is not closed; and the
cleanup, whether `cleanup_expired` or a tick of the task `start_cleanup_task`
spawns, scans the entries oldest first and removes and closes the closed
sessions and those idle past `idle_timeout` beyond the first `min_idle_sessions`
still counted.

A session is a reference into the table `Sessions`, and the pool reads of it
only `seq()` and `is_closed()`; closing it sets the flag. Each lock-protected
body is one step. Times and durations are milliseconds.
-/

import AnyTls.Library.SortedMap

namespace AnyTls

/-- What the pool and the client use of a `Session`. -/
structure SessionRecord where
  /-- Set by `set_seq` in `create_new_session`. -/
  seq : Nat
  /-- `is_closed()`. -/
  closed : Bool
  deriving DecidableEq, Repr

/-- The sessions, by reference: an `Arc<Session>` is an index into this list. -/
abbrev Sessions := List SessionRecord

namespace Sessions

/-- `is_closed()`. A reference always names a session; one that does not counts as
closed, so that no lemma below needs a bound on references. -/
def isClosed (sessions : Sessions) (ref : Nat) : Bool :=
  match sessions[ref]? with
  | some session => session.closed
  | none => true

/-- `Session::close` as the pool sees it: the flag is set. -/
def close (sessions : Sessions) (ref : Nat) : Sessions :=
  sessions.modify ref fun session => { session with closed := true }

@[simp]
theorem isClosed_close_self (sessions : Sessions) (ref : Nat) :
    (sessions.close ref).isClosed ref = true := by
  unfold isClosed close
  rw [List.getElem?_modify]
  cases sessions[ref]? <;> simp

theorem lt_length_of_isClosed_eq_false {sessions : Sessions} {ref : Nat}
    (open_ : sessions.isClosed ref = false) : ref < sessions.length := by
  unfold isClosed at open_
  cases found : sessions[ref]? with
  | none => rw [found] at open_; cases open_
  | some session => exact (List.getElem?_eq_some_iff.mp found).1

theorem isClosed_append_of_lt {sessions : Sessions} {ref : Nat} (record : SessionRecord)
    (within : ref < sessions.length) : (sessions ++ [record]).isClosed ref = sessions.isClosed ref := by
  simp only [isClosed, List.getElem?_append_left within]

@[simp]
theorem isClosed_append_length (sessions : Sessions) (record : SessionRecord) :
    (sessions ++ [record]).isClosed sessions.length = record.closed := by
  simp [isClosed]

/-- One session table becomes another by closing sessions only. -/
structure Closes (before after : Sessions) : Prop where
  length : after.length = before.length
  seq : ∀ ref : Nat, after[ref]?.map SessionRecord.seq = before[ref]?.map SessionRecord.seq
  stays : ∀ ref : Nat, before.isClosed ref = true → after.isClosed ref = true

theorem Closes.refl (sessions : Sessions) : Closes sessions sessions :=
  ⟨rfl, fun _ => rfl, fun _ closed => closed⟩

theorem Closes.trans {first second third : Sessions} (early : Closes first second)
    (late : Closes second third) : Closes first third :=
  ⟨late.length.trans early.length, fun ref => (late.seq ref).trans (early.seq ref),
    fun ref closed => late.stays ref (early.stays ref closed)⟩

theorem close_closes (sessions : Sessions) (ref : Nat) : Closes sessions (sessions.close ref) where
  length := List.length_modify ..
  seq other := by
    unfold close
    rw [List.getElem?_modify]
    cases sessions[other]? with
    | none => rfl
    | some session => by_cases same : ref = other <;> simp [same]
  stays other closed := by
    unfold isClosed close at *
    rw [List.getElem?_modify]
    cases found : sessions[other]? with
    | none => rfl
    | some session =>
        rw [found] at closed
        by_cases same : ref = other <;> simp [same, closed]

theorem isClosed_close (sessions : Sessions) (closed ref : Nat) :
    (sessions.close closed).isClosed ref = true ↔ sessions.isClosed ref = true ∨ ref = closed := by
  by_cases same : ref = closed
  · subst same
    simp
  · unfold isClosed close
    rw [List.getElem?_modify]
    cases sessions[ref]? <;> simp [Ne.symm same, same]

end Sessions

/-- `PooledSession`. -/
structure PooledSession where
  seq : Nat
  session : Nat
  idleSince : Nat
  deriving DecidableEq, Repr

/-- The parts of `SessionPoolConfig` the pool reads. -/
structure SessionPoolConfig where
  idleTimeout : Nat
  minIdleSessions : Nat
  deriving DecidableEq, Repr

/-- `SessionPoolConfig::default`: 60 s, and at least one idle session kept. -/
def SessionPoolConfig.default : SessionPoolConfig := ⟨60000, 1⟩

/-- `SessionPool`: the idle sessions by `seq`, and the configuration. -/
structure SessionPool where
  idleSessions : SortedMap Nat PooledSession
  config : SessionPoolConfig

namespace SessionPool

/-- `SessionPool::with_config`. -/
def withConfig (config : SessionPoolConfig) : SessionPool := ⟨SortedMap.empty, config⟩

/-- `SessionPool::new`. -/
def new : SessionPool := withConfig SessionPoolConfig.default

/-- The pool holds the session: some entry refers to it. -/
def Holds (pool : SessionPool) (ref : Nat) : Prop :=
  ∃ entry ∈ pool.idleSessions.entries, entry.2.session = ref

instance (pool : SessionPool) (ref : Nat) : Decidable (pool.Holds ref) :=
  inferInstanceAs (Decidable (∃ entry ∈ pool.idleSessions.entries, entry.2.session = ref))

/-! ### `get_idle_session` -/

/-- The loop of `get_idle_session`: remove the entry of the largest `seq`, and
go round again when its session is closed. Each round removes an entry, so as
many rounds as entries always suffice. -/
def takeIdle (sessions : Sessions) :
    Nat → SortedMap Nat PooledSession → SortedMap Nat PooledSession × Option Nat
  | 0, idle => (idle, none)
  | fuel + 1, idle =>
      match idle.lastKeyValue with
      | none => (idle, none)
      | some (seq, pooled) =>
          if sessions.isClosed pooled.session then takeIdle sessions fuel (idle.erase seq)
          else (idle.erase seq, some pooled.session)

/-- `get_idle_session`: the most recent session that is not closed. -/
def getIdleSession (pool : SessionPool) (sessions : Sessions) : SessionPool × Option Nat :=
  let (idle, found) := takeIdle sessions pool.idleSessions.size pool.idleSessions
  ({ pool with idleSessions := idle }, found)

/-- What one call of `takeIdle` does: it only removes entries; each removed one
is closed or is the one returned, and the one returned is open and no longer
has an entry of its key. -/
structure TookIdle (sessions : Sessions) (idle : SortedMap Nat PooledSession)
    (result : SortedMap Nat PooledSession × Option Nat) : Prop where
  kept : ∀ entry ∈ result.1.entries, entry ∈ idle.entries
  removed : ∀ entry ∈ idle.entries, entry ∉ result.1.entries →
    sessions.isClosed entry.2.session = true ∨ result.2 = some entry.2.session
  found : ∀ ref, result.2 = some ref → ∃ entry ∈ idle.entries, entry.2.session = ref ∧
    sessions.isClosed ref = false ∧ ∀ other ∈ result.1.entries, other.1 ≠ entry.1

theorem TookIdle.unchanged (sessions : Sessions) (idle : SortedMap Nat PooledSession) :
    TookIdle sessions idle (idle, none) where
  kept _ mem := mem
  removed _ mem gone := absurd mem gone
  found _ none_ := by cases none_

theorem takeIdle_spec (sessions : Sessions) (fuel : Nat) (idle : SortedMap Nat PooledSession) :
    TookIdle sessions idle (takeIdle sessions fuel idle) := by
  induction fuel generalizing idle with
  | zero => exact TookIdle.unchanged sessions idle
  | succ fuel ih =>
      rw [takeIdle]
      cases last : idle.lastKeyValue with
      | none => exact TookIdle.unchanged sessions idle
      | some top =>
          obtain ⟨seq, pooled⟩ := top
          have present : (seq, pooled) ∈ idle.entries := SortedMap.lastKeyValue_mem last
          -- an entry that erasing `seq` removes is the top entry itself
          have isTop : ∀ entry ∈ idle.entries, entry ∉ (idle.erase seq).entries →
              entry = (seq, pooled) := fun entry mem gone =>
            SortedMap.eq_of_key_eq mem present (by simpa [mem] using gone)
          dsimp only
          split_ifs with closed
          · have rest := ih (idle.erase seq)
            refine ⟨fun entry mem => (SortedMap.mem_erase.mp (rest.kept entry mem)).1,
              fun entry mem gone => ?_, fun ref found => ?_⟩
            · by_cases erased : entry ∈ (idle.erase seq).entries
              · exact rest.removed entry erased gone
              · exact .inl (isTop entry mem erased ▸ closed)
            · obtain ⟨entry, mem, refers, open_, apart⟩ := rest.found ref found
              exact ⟨entry, (SortedMap.mem_erase.mp mem).1, refers, open_, apart⟩
          · refine ⟨fun entry mem => (SortedMap.mem_erase.mp mem).1,
              fun entry mem gone => .inr (by rw [isTop entry mem gone]), fun ref found => ?_⟩
            cases found
            exact ⟨(seq, pooled), present, rfl, Bool.eq_false_iff.mpr closed,
              fun other mem => (SortedMap.mem_erase.mp mem).2⟩

/-- An open session with an entry before `takeIdle` still has one after,
unless it is the one returned. -/
theorem TookIdle.stillHeld {sessions : Sessions} {idle : SortedMap Nat PooledSession}
    {result : SortedMap Nat PooledSession × Option Nat} (took : TookIdle sessions idle result)
    {ref : Nat} (held : ∃ entry ∈ idle.entries, entry.2.session = ref)
    (open_ : sessions.isClosed ref = false) (notFound : result.2 ≠ some ref) :
    ∃ entry ∈ result.1.entries, entry.2.session = ref := by
  obtain ⟨entry, mem, refers⟩ := held
  by_cases kept : entry ∈ result.1.entries
  · exact ⟨entry, kept, refers⟩
  · rcases took.removed entry mem kept with closed | found
    · rw [refers, open_] at closed
      cases closed
    · exact absurd (refers ▸ found) notFound

/-! ### `add_idle_session` -/

/-- `add_idle_session` at time `now`: a session that is not closed goes in
under its `seq`. -/
def addIdleSession (pool : SessionPool) (sessions : Sessions) (ref now : Nat) : SessionPool :=
  match sessions[ref]? with
  | some session =>
      if session.closed then pool
      else { pool with idleSessions := pool.idleSessions.insert session.seq ⟨session.seq, ref, now⟩ }
  | none => pool

theorem addIdleSession_of_open {pool : SessionPool} {sessions : Sessions} {ref : Nat}
    {session : SessionRecord} (now : Nat) (found : sessions[ref]? = some session)
    (open_ : session.closed = false) :
    (pool.addIdleSession sessions ref now).idleSessions =
      pool.idleSessions.insert session.seq ⟨session.seq, ref, now⟩ := by
  simp only [addIdleSession, found, open_, Bool.false_eq_true, if_false]

/-! ### Cleanup -/

/-- The scan of the cleanup, oldest first, with the seqs to remove and the
count of sessions kept so far as its accumulator. -/
def markExpired (sessions : Sessions) (idleTimeout minIdle now : Nat) :
    List (Nat × PooledSession) → List Nat × Nat → List Nat × Nat
  | [], acc => acc
  | (seq, pooled) :: rest, (toRemove, activeCount) =>
      if sessions.isClosed pooled.session then
        markExpired sessions idleTimeout minIdle now rest (toRemove ++ [seq], activeCount)
      -- `duration_since` saturates at zero, as `Nat` subtraction does
      else if now - pooled.idleSince < idleTimeout then
        markExpired sessions idleTimeout minIdle now rest (toRemove, activeCount + 1)
      else if activeCount < minIdle then
        markExpired sessions idleTimeout minIdle now rest (toRemove, activeCount + 1)
      else markExpired sessions idleTimeout minIdle now rest (toRemove ++ [seq], activeCount)

/-- `for seq in &to_remove`: remove the entry, and close its session when there was one. -/
def removeMarked :
    List Nat → SortedMap Nat PooledSession × Sessions → SortedMap Nat PooledSession × Sessions
  | [], acc => acc
  | seq :: rest, (idle, sessions) =>
      match idle.lookup seq with
      | some pooled => removeMarked rest (idle.erase seq, sessions.close pooled.session)
      | none => removeMarked rest (idle.erase seq, sessions)

/-- The body both cleanups share, with the timeout and the minimum they read. -/
def sweep (idleTimeout minIdle now : Nat) (idle : SortedMap Nat PooledSession) (sessions : Sessions) :
    SortedMap Nat PooledSession × Sessions :=
  if idle.isEmpty then (idle, sessions)
  else
    let (toRemove, _) := markExpired sessions idleTimeout minIdle now idle.entries ([], 0)
    removeMarked toRemove (idle, sessions)

/-- `cleanup_expired` at time `now`. -/
def cleanupExpired (pool : SessionPool) (sessions : Sessions) (now : Nat) : SessionPool × Sessions :=
  let (idle, sessions) :=
    sweep pool.config.idleTimeout pool.config.minIdleSessions now pool.idleSessions sessions
  ({ pool with idleSessions := idle }, sessions)

/-- One tick of the task `start_cleanup_task` spawns, at time `now`, with the
timeout and minimum it copied from the configuration. -/
def cleanupTick (pool : SessionPool) (sessions : Sessions) (now : Nat) : SessionPool × Sessions :=
  let (idle, sessions) :=
    sweep pool.config.idleTimeout pool.config.minIdleSessions now pool.idleSessions sessions
  ({ pool with idleSessions := idle }, sessions)

/-- What the removal loop does: it only removes entries, closes the session of
each entry it removes, and otherwise only closes sessions. -/
structure Swept (idle : SortedMap Nat PooledSession) (sessions : Sessions)
    (result : SortedMap Nat PooledSession × Sessions) : Prop where
  kept : ∀ entry ∈ result.1.entries, entry ∈ idle.entries
  closedRemoved : ∀ entry ∈ idle.entries, entry ∉ result.1.entries →
    result.2.isClosed entry.2.session = true
  closes : sessions.Closes result.2


/-- One removal followed by a sweep of the rest is a sweep. -/
theorem Swept.erase {idle : SortedMap Nat PooledSession} {sessions next : Sessions} {seq : Nat}
    {result : SortedMap Nat PooledSession × Sessions} (first : sessions.Closes next)
    (closedTop : ∀ entry ∈ idle.entries, entry.1 = seq → next.isClosed entry.2.session = true)
    (rest : Swept (idle.erase seq) next result) : Swept idle sessions result where
  kept entry mem := (SortedMap.mem_erase.mp (rest.kept entry mem)).1
  closedRemoved entry mem gone := by
    by_cases erased : entry ∈ (idle.erase seq).entries
    · exact rest.closedRemoved entry erased gone
    · have keyed : entry.1 = seq := by simpa [mem] using erased
      exact rest.closes.stays _ (closedTop entry mem keyed)
  closes := first.trans rest.closes

/-- A `takeIdle` that hands out nothing removes only entries of closed sessions. -/
theorem TookIdle.swept {sessions : Sessions} {idle after : SortedMap Nat PooledSession}
    (took : TookIdle sessions idle (after, none)) : Swept idle sessions (after, sessions) where
  kept := took.kept
  closedRemoved entry mem gone := (took.removed entry mem gone).resolve_right nofun
  closes := Sessions.Closes.refl sessions

theorem Swept.of_closes {idle : SortedMap Nat PooledSession} {sessions after : Sessions}
    (closes : sessions.Closes after) : Swept idle sessions (idle, after) :=
  ⟨fun _ mem => mem, fun _ mem gone => absurd mem gone, closes⟩

theorem removeMarked_spec (toRemove : List Nat) (idle : SortedMap Nat PooledSession)
    (sessions : Sessions) : Swept idle sessions (removeMarked toRemove (idle, sessions)) := by
  induction toRemove generalizing idle sessions with
  | nil => exact Swept.of_closes (Sessions.Closes.refl sessions)
  | cons seq rest ih =>
      rw [removeMarked]
      cases looked : idle.lookup seq with
      | none =>
          -- no entry has the key, so erasing it removes nothing
          refine Swept.erase (Sessions.Closes.refl sessions) (fun entry mem keyed => ?_) (ih _ _)
          have found := SortedMap.lookup_of_mem mem
          rw [keyed, looked] at found
          cases found
      | some pooled =>
          refine Swept.erase (Sessions.close_closes sessions pooled.session)
            (fun entry mem keyed => ?_) (ih _ _)
          have found := SortedMap.lookup_of_mem mem
          rw [keyed, looked] at found
          cases found
          exact Sessions.isClosed_close_self sessions _

theorem sweep_spec (idleTimeout minIdle now : Nat) (idle : SortedMap Nat PooledSession)
    (sessions : Sessions) : Swept idle sessions (sweep idleTimeout minIdle now idle sessions) := by
  unfold sweep
  split
  · exact Swept.of_closes (Sessions.Closes.refl sessions)
  · exact removeMarked_spec _ idle sessions

/-! ### Exactly what `get_idle_session` takes -/

/-- What `get_idle_session` leaves and returns, exactly: the open session of
the largest `seq`, with the entries above it, all closed, removed with its own;
or, when every session is closed, nothing, and an empty pool. -/
def TookExactly (sessions : Sessions) (idle : SortedMap Nat PooledSession) :
    SortedMap Nat PooledSession × Option Nat → Prop
  | (after, some ref) => ∃ entry ∈ idle.entries, entry.2.session = ref ∧
      sessions.isClosed ref = false ∧
      (∀ other ∈ idle.entries, entry.1 < other.1 → sessions.isClosed other.2.session = true) ∧
      after.entries = idle.entries.filter fun other => other.1 < entry.1
  | (after, none) =>
      (∀ entry ∈ idle.entries, sessions.isClosed entry.2.session = true) ∧ after.entries = []

theorem TookExactly.empty (sessions : Sessions) {idle : SortedMap Nat PooledSession}
    (noEntries : idle.entries = []) : TookExactly sessions idle (idle, none) :=
  ⟨fun entry mem => by simp [noEntries] at mem, noEntries⟩

section LargestKey

variable {sessions : Sessions} {idle : SortedMap Nat PooledSession} {seq : Nat}
  {pooled : PooledSession}

/-- Erasing the largest key keeps exactly the entries below it. -/
theorem erase_entries_of_lastKeyValue (last : idle.lastKeyValue = some (seq, pooled)) :
    (idle.erase seq).entries = idle.entries.filter fun entry => entry.1 < seq := by
  refine List.filter_congr fun entry mem => ?_
  by_cases top : entry = (seq, pooled)
  · simp [top]
  · have below := SortedMap.lt_of_lastKeyValue last mem top
    simp [below, below.ne]

/-- Every other entry survives the erasure of the largest key. -/
theorem mem_erase_of_lastKeyValue (last : idle.lastKeyValue = some (seq, pooled))
    {entry : Nat × PooledSession} (mem : entry ∈ idle.entries) (top : entry ≠ (seq, pooled)) :
    entry ∈ (idle.erase seq).entries :=
  SortedMap.mem_erase.mpr ⟨mem, (SortedMap.lt_of_lastKeyValue last mem top).ne⟩

/-- An open session of the largest key is the one to take. -/
theorem TookExactly.of_open (last : idle.lastKeyValue = some (seq, pooled))
    (open_ : sessions.isClosed pooled.session = false) :
    TookExactly sessions idle (idle.erase seq, some pooled.session) := by
  refine ⟨(seq, pooled), SortedMap.lastKeyValue_mem last, rfl, open_,
    fun other mem larger => ?_, erase_entries_of_lastKeyValue last⟩
  -- nothing lies above the largest key
  by_cases top : other = (seq, pooled)
  · rw [top] at larger
    exact absurd larger (lt_irrefl _)
  · exact absurd (SortedMap.lt_of_lastKeyValue last mem top) (not_lt.mpr larger.le)

/-- When the session of the largest key is closed, what is taken from the
other entries is what is taken from all of them. -/
theorem TookExactly.of_closed (last : idle.lastKeyValue = some (seq, pooled))
    (closed : sessions.isClosed pooled.session = true)
    {result : SortedMap Nat PooledSession × Option Nat}
    (rest : TookExactly sessions (idle.erase seq) result) : TookExactly sessions idle result := by
  obtain ⟨after, found⟩ := result
  cases found with
  | none =>
      obtain ⟨allClosed, emptied⟩ := rest
      refine ⟨fun entry mem => ?_, emptied⟩
      by_cases top : entry = (seq, pooled)
      · rw [top]
        exact closed
      · exact allClosed entry (mem_erase_of_lastKeyValue last mem top)
  | some ref =>
      obtain ⟨entry, mem, refers, open_, aboveClosed, taken⟩ := rest
      obtain ⟨inIdle, keyed⟩ := SortedMap.mem_erase.mp mem
      have underTop : entry.1 < seq :=
        SortedMap.lt_of_lastKeyValue last inIdle fun top => keyed (by rw [top])
      refine ⟨entry, inIdle, refers, open_, fun other otherMem larger => ?_, ?_⟩
      · by_cases top : other = (seq, pooled)
        · rw [top]
          exact closed
        · exact aboveClosed other (mem_erase_of_lastKeyValue last otherMem top) larger
      · -- below the entry taken is below the largest key
        rw [taken, erase_entries_of_lastKeyValue last, List.filter_filter]
        refine List.filter_congr fun other _ => ?_
        by_cases lower : other.1 < entry.1
        · simp [lower, lower.trans underTop]
        · simp [lower]

end LargestKey

/-- With as many rounds as entries, the loop of `get_idle_session` takes
exactly what `TookExactly` says. -/
theorem takeIdle_exactly (sessions : Sessions) (fuel : Nat) :
    ∀ (idle : SortedMap Nat PooledSession), idle.size ≤ fuel →
      TookExactly sessions idle (takeIdle sessions fuel idle) := by
  induction fuel with
  | zero =>
      intro idle empty
      exact TookExactly.empty sessions (List.eq_nil_of_length_eq_zero (Nat.le_zero.mp empty))
  | succ fuel ih =>
      intro idle fits
      rw [takeIdle]
      cases last : idle.lastKeyValue with
      | none => exact TookExactly.empty sessions (List.getLast?_eq_none_iff.mp last)
      | some top =>
          obtain ⟨seq, pooled⟩ := top
          dsimp only
          split_ifs with closed
          · -- each round erases an entry, so the rest fits in the rounds left
            have shrinks : (idle.erase seq).size < idle.size :=
              SortedMap.size_erase_lt (SortedMap.lastKeyValue_mem last)
            exact TookExactly.of_closed last closed (ih (idle.erase seq) (by omega))
          · exact TookExactly.of_open last (Bool.eq_false_iff.mpr closed)

theorem getIdleSession_exactly (pool : SessionPool) (sessions : Sessions) :
    TookExactly sessions pool.idleSessions
      ((pool.getIdleSession sessions).1.idleSessions, (pool.getIdleSession sessions).2) :=
  takeIdle_exactly sessions _ pool.idleSessions le_rfl

/-! ### Exactly what the cleanup removes -/

section Marking

variable (sessions : Sessions) (idleTimeout minIdle now : Nat)

/-- What the scan of the cleanup decides about `entries`, its count started at
`start`: it marks keys of entries only, every closed session and no open one
idle for less than the timeout; its count adds the open sessions it keeps; and
it marks an open session only once the count has reached the minimum. -/
structure Marked (entries : List (Nat × PooledSession)) (start : Nat) (marked : List Nat)
    (count : Nat) : Prop where
  keys : ∀ seq ∈ marked, ∃ entry ∈ entries, entry.1 = seq
  closed : ∀ entry ∈ entries, sessions.isClosed entry.2.session = true → entry.1 ∈ marked
  fresh : ∀ entry ∈ entries, sessions.isClosed entry.2.session = false →
    now - entry.2.idleSince < idleTimeout → entry.1 ∉ marked
  counted : count = start + (entries.filter fun entry =>
    !sessions.isClosed entry.2.session && entry.1 ∉ marked).length
  full : (∃ entry ∈ entries, sessions.isClosed entry.2.session = false ∧ entry.1 ∈ marked) →
    minIdle ≤ count

variable {sessions idleTimeout minIdle now}

theorem Marked.nil (start : Nat) : Marked sessions idleTimeout minIdle now [] start [] start :=
  ⟨nofun, nofun, nofun, rfl, fun ⟨_, mem, _⟩ => nomatch mem⟩

/-- The scan keeps an open session and counts it. -/
theorem Marked.keep {seq : Nat} {pooled : PooledSession} {rest : List (Nat × PooledSession)}
    {start count : Nat} {marked : List Nat} (above : ∀ entry ∈ rest, seq < entry.1)
    (open_ : sessions.isClosed pooled.session = false)
    (later : Marked sessions idleTimeout minIdle now rest (start + 1) marked count) :
    Marked sessions idleTimeout minIdle now ((seq, pooled) :: rest) start marked count := by
  -- every key marked later is above this one
  have unmarked : seq ∉ marked := fun mem => by
    obtain ⟨entry, inRest, keyed⟩ := later.keys seq mem
    have := above entry inRest
    omega
  refine ⟨fun key mem => ?_, fun entry mem closed => ?_, fun entry mem open' recent => ?_, ?_,
    fun ⟨entry, mem, open', inMarked⟩ => ?_⟩
  · obtain ⟨entry, inRest, keyed⟩ := later.keys key mem
    exact ⟨entry, List.mem_cons_of_mem _ inRest, keyed⟩
  · rcases List.mem_cons.mp mem with rfl | inRest
    · rw [open_] at closed
      cases closed
    · exact later.closed entry inRest closed
  · rcases List.mem_cons.mp mem with rfl | inRest
    · exact unmarked
    · exact later.fresh entry inRest open' recent
  · rw [later.counted, List.filter_cons_of_pos (by simp [open_, unmarked]), List.length_cons]
    omega
  · rcases List.mem_cons.mp mem with rfl | inRest
    · exact absurd inMarked unmarked
    · exact later.full ⟨entry, inRest, open', inMarked⟩

/-- The scan marks a closed session, or an expired one once the count has
reached the minimum. -/
theorem Marked.mark {seq : Nat} {pooled : PooledSession} {rest : List (Nat × PooledSession)}
    {start count : Nat} {marked : List Nat} (above : ∀ entry ∈ rest, seq < entry.1)
    (why : sessions.isClosed pooled.session = true ∨
      (¬ now - pooled.idleSince < idleTimeout ∧ minIdle ≤ start))
    (later : Marked sessions idleTimeout minIdle now rest start marked count) :
    Marked sessions idleTimeout minIdle now ((seq, pooled) :: rest) start (seq :: marked) count := by
  -- the later entries' keys differ from this one
  have other : ∀ entry ∈ rest, entry.1 ∈ seq :: marked ↔ entry.1 ∈ marked := fun entry mem => by
    have := above entry mem
    simp only [List.mem_cons, or_iff_right_iff_imp]
    omega
  have counted : start ≤ count := by
    rw [later.counted]
    exact Nat.le_add_right _ _
  refine ⟨fun key mem => ?_, fun entry mem closed => ?_, fun entry mem open' recent => ?_, ?_,
    fun ⟨entry, mem, open', inMarked⟩ => ?_⟩
  · rcases List.mem_cons.mp mem with rfl | inMarked
    · exact ⟨(key, pooled), List.mem_cons_self, rfl⟩
    · obtain ⟨entry, inRest, keyed⟩ := later.keys key inMarked
      exact ⟨entry, List.mem_cons_of_mem _ inRest, keyed⟩
  · rcases List.mem_cons.mp mem with rfl | inRest
    · exact List.mem_cons_self
    · exact List.mem_cons_of_mem _ (later.closed entry inRest closed)
  · rcases List.mem_cons.mp mem with rfl | inRest
    · rcases why with closed | ⟨expired, _⟩
      · rw [open'] at closed
        cases closed
      · exact absurd recent expired
    · exact (other entry inRest).not.mpr (later.fresh entry inRest open' recent)
  · rw [later.counted, List.filter_cons_of_neg (by simp)]
    congr 2
    exact List.filter_congr fun entry mem => by simp [other entry mem]
  · rcases List.mem_cons.mp mem with rfl | inRest
    · rcases why with closed | ⟨_, enough⟩
      · rw [open'] at closed
        cases closed
      · exact enough.trans counted
    · exact later.full ⟨entry, inRest, open', (other entry inRest).mp inMarked⟩

/-- The scan of the cleanup over entries in ascending order of key. -/
theorem markExpired_spec : ∀ {entries : List (Nat × PooledSession)},
    entries.Pairwise (fun a b => a.1 < b.1) → ∀ (toRemove : List Nat) (start : Nat), ∃ marked,
      (markExpired sessions idleTimeout minIdle now entries (toRemove, start)).1 = toRemove ++ marked ∧
      Marked sessions idleTimeout minIdle now entries start marked
        (markExpired sessions idleTimeout minIdle now entries (toRemove, start)).2
  | [], _, toRemove, start => ⟨[], by simp [markExpired], Marked.nil start⟩
  | (seq, pooled) :: rest, sorted, toRemove, start => by
      obtain ⟨above, restSorted⟩ := List.pairwise_cons.mp sorted
      simp only [markExpired]
      split_ifs with closed recent enough
      · obtain ⟨marked, removed, later⟩ := markExpired_spec restSorted (toRemove ++ [seq]) start
        exact ⟨seq :: marked, by simp [removed], later.mark above (.inl closed)⟩
      · obtain ⟨marked, removed, later⟩ := markExpired_spec restSorted toRemove (start + 1)
        exact ⟨marked, removed, later.keep above (Bool.eq_false_iff.mpr closed)⟩
      · obtain ⟨marked, removed, later⟩ := markExpired_spec restSorted toRemove (start + 1)
        exact ⟨marked, removed, later.keep above (Bool.eq_false_iff.mpr closed)⟩
      · obtain ⟨marked, removed, later⟩ := markExpired_spec restSorted (toRemove ++ [seq]) start
        exact ⟨seq :: marked, by simp [removed], later.mark above (.inr ⟨recent, by omega⟩)⟩

end Marking

/-- The removal loop removes exactly the entries of the keys it is given. -/
theorem removeMarked_entries : ∀ (toRemove : List Nat) (idle : SortedMap Nat PooledSession)
    (sessions : Sessions),
    (removeMarked toRemove (idle, sessions)).1.entries =
      idle.entries.filter fun entry => entry.1 ∉ toRemove
  | [], idle, sessions => by simp [removeMarked]
  | seq :: rest, idle, sessions => by
      rw [removeMarked]
      split <;>
        simp [removeMarked_entries rest, SortedMap.erase, List.filter_filter, Bool.and_comm]

section EraseMarked

variable {idle : SortedMap Nat PooledSession} {seq ref : Nat} {rest : List Nat}

/-- An entry left after erasing `seq` and marked by the rest of the list is an
entry marked by the whole list. -/
theorem exists_marked_of_erase :
    (∃ entry ∈ (idle.erase seq).entries, entry.1 ∈ rest ∧ entry.2.session = ref) →
      ∃ entry ∈ idle.entries, entry.1 ∈ seq :: rest ∧ entry.2.session = ref
  | ⟨entry, mem, inRest, refers⟩ =>
      ⟨entry, (SortedMap.mem_erase.mp mem).1, List.mem_cons_of_mem _ inRest, refers⟩

/-- An entry marked by the whole list under another key than `seq` is left
after erasing `seq`, marked by the rest. -/
theorem exists_marked_erase_of_ne {entry : Nat × PooledSession} (mem : entry ∈ idle.entries)
    (keyed : entry.1 ≠ seq) (inList : entry.1 ∈ seq :: rest) (refers : entry.2.session = ref) :
    ∃ entry ∈ (idle.erase seq).entries, entry.1 ∈ rest ∧ entry.2.session = ref :=
  ⟨entry, SortedMap.mem_erase.mpr ⟨mem, keyed⟩, (List.mem_cons.mp inList).resolve_left keyed, refers⟩

end EraseMarked

/-- The removal loop closes exactly the sessions of the entries it removes. -/
theorem removeMarked_isClosed : ∀ (toRemove : List Nat) (idle : SortedMap Nat PooledSession)
    (sessions : Sessions) (ref : Nat),
    (removeMarked toRemove (idle, sessions)).2.isClosed ref = true ↔
      sessions.isClosed ref = true ∨
        ∃ entry ∈ idle.entries, entry.1 ∈ toRemove ∧ entry.2.session = ref
  | [], idle, sessions, ref => by simp [removeMarked]
  | seq :: rest, idle, sessions, ref => by
      rw [removeMarked]
      split
      · next pooled looked =>
          rw [removeMarked_isClosed rest, Sessions.isClosed_close]
          -- the one entry of key `seq` is `(seq, pooled)`
          have present := SortedMap.mem_of_lookup looked
          constructor
          · rintro ((closed | rfl) | later)
            · exact .inl closed
            · exact .inr ⟨(seq, pooled), present, List.mem_cons_self, rfl⟩
            · exact .inr (exists_marked_of_erase later)
          · rintro (closed | ⟨entry, mem, inList, refers⟩)
            · exact .inl (.inl closed)
            · by_cases keyed : entry.1 = seq
              · obtain rfl := SortedMap.eq_of_key_eq mem present keyed
                exact .inl (.inr refers.symm)
              · exact .inr (exists_marked_erase_of_ne mem keyed inList refers)
      · next looked =>
          rw [removeMarked_isClosed rest]
          refine or_congr_right ⟨exists_marked_of_erase, fun ⟨entry, mem, inList, refers⟩ => ?_⟩
          -- no entry has the key `seq`
          have keyed : entry.1 ≠ seq := fun same => by
            have found := SortedMap.lookup_of_mem mem
            rw [same, looked] at found
            cases found
          exact exists_marked_erase_of_ne mem keyed inList refers

/-- The cleanup removes the entries of the keys its scan marks, and closes
exactly their sessions. -/
theorem sweep_exactly (idleTimeout minIdle now : Nat) (idle : SortedMap Nat PooledSession)
    (sessions : Sessions) : ∃ marked count,
      Marked sessions idleTimeout minIdle now idle.entries 0 marked count ∧
      (sweep idleTimeout minIdle now idle sessions).1.entries =
        idle.entries.filter (fun entry => entry.1 ∉ marked) ∧
      ∀ ref, (sweep idleTimeout minIdle now idle sessions).2.isClosed ref = true ↔
        sessions.isClosed ref = true ∨
          ∃ entry ∈ idle.entries, entry.1 ∈ marked ∧ entry.2.session = ref := by
  unfold sweep
  split
  · next empty =>
      have noEntries : idle.entries = [] := List.isEmpty_iff.mp empty
      refine ⟨[], 0, noEntries ▸ Marked.nil 0, by simp, fun ref => ?_⟩
      simp
  · obtain ⟨marked, removed, scanned⟩ :=
      @markExpired_spec sessions idleTimeout minIdle now idle.entries idle.sorted [] 0
    refine ⟨marked, _, scanned, ?_, fun ref => ?_⟩
    · rw [removeMarked_entries, removed, List.nil_append]
    · rw [removeMarked_isClosed, removed, List.nil_append]

/-- What a cleanup of `pool` at `now` must leave, as `after`, of the pool and
the sessions. -/
structure Cleaned (pool : SessionPool) (sessions : Sessions) (now : Nat)
    (after : SessionPool × Sessions) : Prop where
  /-- Every closed session is removed. -/
  closedRemoved : ∀ entry ∈ pool.idleSessions.entries, sessions.isClosed entry.2.session = true →
    entry ∉ after.1.idleSessions.entries
  /-- No open session idle for less than `idle_timeout` is removed. -/
  freshKept : ∀ entry ∈ pool.idleSessions.entries, sessions.isClosed entry.2.session = false →
    now - entry.2.idleSince < pool.config.idleTimeout → entry ∈ after.1.idleSessions.entries
  /-- At least `min_idle_sessions` open sessions are left, or all the open ones. -/
  minimumKept : min pool.config.minIdleSessions
      (pool.idleSessions.entries.filter fun entry => !sessions.isClosed entry.2.session).length ≤
    (after.1.idleSessions.entries.filter fun entry => !after.2.isClosed entry.2.session).length
  /-- The sessions closed after are those closed before and those of the entries removed. -/
  closesRemoved : ∀ ref, after.2.isClosed ref = true ↔ sessions.isClosed ref = true ∨
    ∃ entry ∈ pool.idleSessions.entries, entry ∉ after.1.idleSessions.entries ∧ entry.2.session = ref

/-- Over a pool of distinct sessions, `cleanup_expired` does what `Cleaned` says. -/
theorem cleanupExpired_cleaned (pool : SessionPool) (sessions : Sessions) (now : Nat)
    (distinct : (pool.idleSessions.entries.map fun entry => entry.2.session).Nodup) :
    Cleaned pool sessions now (pool.cleanupExpired sessions now) := by
  obtain ⟨marked, count, scanned, kept, closes⟩ := sweep_exactly pool.config.idleTimeout
    pool.config.minIdleSessions now pool.idleSessions sessions
  change (pool.cleanupExpired sessions now).1.idleSessions.entries = _ at kept
  change ∀ ref, (pool.cleanupExpired sessions now).2.isClosed ref = true ↔ _ at closes
  generalize pool.cleanupExpired sessions now = after at kept closes ⊢
  -- an entry stays exactly when the scan did not mark its key
  have stays : ∀ entry ∈ pool.idleSessions.entries,
      entry ∈ after.1.idleSessions.entries ↔ entry.1 ∉ marked := fun entry mem => by
    simp [kept, mem]
  refine ⟨fun entry mem closed => ?_, fun entry mem open_ recent => ?_, ?_, fun ref => ?_⟩
  · rw [stays entry mem, not_not]
    exact scanned.closed entry mem closed
  · exact (stays entry mem).mpr (scanned.fresh entry mem open_ recent)
  · -- the sessions kept are not closed by the removal, since each is in one entry only
    have stillOpen : ∀ entry ∈ pool.idleSessions.entries.filter (fun entry => entry.1 ∉ marked),
        after.2.isClosed entry.2.session = sessions.isClosed entry.2.session := by
      intro entry mem
      obtain ⟨inPool, unmarked⟩ := List.mem_filter.mp mem
      refine Bool.eq_iff_iff.mpr ⟨fun closed => ?_, fun closed => (closes _).mpr (.inl closed)⟩
      rcases (closes _).mp closed with before | ⟨other, otherMem, otherMarked, same⟩
      · exact before
      · obtain rfl := List.inj_on_of_nodup_map distinct otherMem inPool same
        simp at unmarked
        exact absurd otherMarked unmarked
    have counted : (after.1.idleSessions.entries.filter fun entry =>
        !after.2.isClosed entry.2.session).length = count := by
      rw [scanned.counted, kept, List.filter_congr fun entry mem => by rw [stillOpen entry mem],
        List.filter_filter, Nat.zero_add]
    rw [counted]
    by_cases openMarked : ∃ entry ∈ pool.idleSessions.entries,
        sessions.isClosed entry.2.session = false ∧ entry.1 ∈ marked
    · exact (min_le_left _ _).trans (scanned.full openMarked)
    · -- no open session was marked, so the count is of all the open ones
      refine (min_le_right _ _).trans (le_of_eq ?_)
      rw [scanned.counted, Nat.zero_add]
      refine congrArg List.length (List.filter_congr fun entry mem => ?_)
      cases closed : sessions.isClosed entry.2.session
      · have unmarked : entry.1 ∉ marked := fun inMarked => openMarked ⟨entry, mem, closed, inMarked⟩
        simp [unmarked]
      · rfl
  · rw [closes]
    refine or_congr_right ⟨fun ⟨entry, mem, inMarked, refers⟩ => ?_, fun ⟨entry, mem, gone, refers⟩ => ?_⟩
    · exact ⟨entry, mem, fun stayed => (stays entry mem).mp stayed inMarked, refers⟩
    · exact ⟨entry, mem, not_not.mp fun unmarked => gone ((stays entry mem).mpr unmarked), refers⟩

/-- The cleanup, its task's tick and `get_idle_session` over any pool of
distinct sessions at any time. -/
theorem cleanup_and_reuse_exactly (pool : SessionPool) (sessions : Sessions) (now : Nat)
    (distinct : (pool.idleSessions.entries.map fun entry => entry.2.session).Nodup) :
    Cleaned pool sessions now (pool.cleanupExpired sessions now) ∧
    pool.cleanupTick sessions now = pool.cleanupExpired sessions now ∧
    TookExactly sessions pool.idleSessions
      ((pool.getIdleSession sessions).1.idleSessions, (pool.getIdleSession sessions).2) :=
  ⟨cleanupExpired_cleaned pool sessions now distinct, rfl, getIdleSession_exactly pool sessions⟩

/-- Two sessions pooled at time `0`; by the time of the cleanup the first has closed. -/
def twoPooled : SessionPool :=
  (new.addIdleSession [⟨0, false⟩, ⟨1, false⟩] 0 0).addIdleSession [⟨0, false⟩, ⟨1, false⟩] 1 0

theorem cleanup_and_reuse_two_pooled :
    (twoPooled.idleSessions.entries.map fun entry => entry.2.session).Nodup ∧
    Cleaned twoPooled [⟨0, true⟩, ⟨1, false⟩] 90000
      (twoPooled.cleanupExpired [⟨0, true⟩, ⟨1, false⟩] 90000) ∧
    twoPooled.cleanupTick [⟨0, true⟩, ⟨1, false⟩] 90000 =
      twoPooled.cleanupExpired [⟨0, true⟩, ⟨1, false⟩] 90000 ∧
    TookExactly [⟨0, true⟩, ⟨1, false⟩] twoPooled.idleSessions
      ((twoPooled.getIdleSession [⟨0, true⟩, ⟨1, false⟩]).1.idleSessions,
        (twoPooled.getIdleSession [⟨0, true⟩, ⟨1, false⟩]).2) :=
  have distinct : (twoPooled.idleSessions.entries.map fun entry => entry.2.session).Nodup := by
    decide
  ⟨distinct, cleanup_and_reuse_exactly twoPooled [⟨0, true⟩, ⟨1, false⟩] 90000 distinct⟩

end SessionPool

end AnyTls
