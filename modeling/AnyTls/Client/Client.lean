/-
# Who holds a client session

`Client::create_stream` takes an idle session from the pool, or, when there is
none, `create_new_session` connects, puts the new session into the pool and
returns it as well; `create_proxy_stream` then opens a stream on it. Nothing
puts a session back: `add_idle_session` has one caller, `create_new_session`,
and the SOCKS5, HTTP and UDP front ends end a stream without touching the pool.

The model is the client as a state machine: the sessions it has created, the
pool, the calls in flight and the streams handed out, with the pool's cleanup
ticks and the sessions' own ends as further events. A ghost list records the
sessions `get_idle_session` has handed out. In every reachable state a session
that is open and was never handed out is in the pool, and one that was handed
out is not (`reachable_pooled_until_handed_out`). So a session leaves the pool
for good at its first reuse and stays open outside it after its streams finish
(`reused_session_orphaned`).
-/

import AnyTls.Client.SessionPool
import AnyTls.Library.Runs

namespace AnyTls

/-- A `create_proxy_stream` call. -/
inductive ProxyCall
  /-- `create_stream` has given it this session. -/
  | holding (session : Nat)
  /-- It has returned, with its stream or with an error. -/
  | returned
  deriving DecidableEq, Repr

/-- A stream that `create_proxy_stream` returned. -/
structure ProxyStream where
  session : Nat
  /-- The tasks that use it have ended. -/
  finished : Bool
  deriving DecidableEq, Repr

/-- The state of a `Client` that matters for its sessions. -/
structure Client where
  /-- Every session the client has created. -/
  sessions : Sessions
  pool : SessionPool
  /-- The static `SEQ_COUNTER` of `create_new_session`. -/
  seqCounter : Nat
  calls : List ProxyCall
  streams : List ProxyStream
  /-- Ghost: the sessions `get_idle_session` has returned, in order. -/
  handedOut : List Nat

/-- What can happen to a client, one lock-protected step at a time. -/
inductive ClientEvent
  /-- A `create_proxy_stream` call, or a bare `create_stream`, starts at time
  `now`; `connected` says whether `create_new_session`'s TCP connection, TLS
  handshake and authentication succeed if it is needed. -/
  | createStream (now : Nat) (connected : Bool)
  /-- The call opens its stream; `synack` says whether the address write and
  the SYNACK wait succeed. -/
  | openStream (call : Nat) (synack : Bool)
  /-- The tasks that use the stream end. -/
  | finishStream (stream : Nat)
  /-- A tick of the pool's cleanup task at time `now`. -/
  | cleanupTick (now : Nat)
  /-- The session closes itself: its `recv_loop` ends or its heartbeat fails. -/
  | sessionEnded (ref : Nat)
  deriving DecidableEq, Repr

namespace Client

/-- `Client::new`, with `SEQ_COUNTER` at its start. -/
def new : Client := ⟨[], SessionPool.new, 0, [], [], []⟩

/-- `create_new_session` after it has connected: the session gets the next
`seq`, `start_client` runs, and `add_idle_session` puts it into the pool. -/
def createNewSession (c : Client) (now : Nat) : Client × Nat :=
  let ref := c.sessions.length
  let sessions := c.sessions ++ [⟨c.seqCounter, false⟩]
  ({ c with
      sessions := sessions
      seqCounter := c.seqCounter + 1
      pool := c.pool.addIdleSession sessions ref now }, ref)

/-- One step; `none` when the call or stream is not at that point. -/
def step (c : Client) : ClientEvent → Option Client
  | .createStream now connected =>
      let (pool, found) := c.pool.getIdleSession c.sessions
      match found with
      | some ref =>
          some { c with
            pool := pool
            calls := c.calls ++ [.holding ref]
            handedOut := c.handedOut ++ [ref] }
      | none =>
          if connected then
            let (next, ref) := { c with pool := pool }.createNewSession now
            some { next with calls := next.calls ++ [.holding ref] }
          else some { c with pool := pool, calls := c.calls ++ [.returned] }
  | .openStream call synack =>
      match c.calls[call]? with
      | some (.holding ref) =>
          let calls := c.calls.set call .returned
          -- `open_stream` fails on a closed session; a failed write or SYNACK
          -- wait closes the stream and returns the error
          if !c.sessions.isClosed ref && synack then
            some { c with calls := calls, streams := c.streams ++ [⟨ref, false⟩] }
          else some { c with calls := calls }
      | _ => none
  | .finishStream stream =>
      match c.streams[stream]? with
      | some used =>
          if used.finished then none
          else some { c with streams := c.streams.set stream { used with finished := true } }
      | none => none
  | .cleanupTick now =>
      let (pool, sessions) := c.pool.cleanupTick c.sessions now
      some { c with pool := pool, sessions := sessions }
  | .sessionEnded ref => some { c with sessions := c.sessions.close ref }

/-! ### What a step does to the sessions and the pool -/

/-- The four things a step can do to the sessions, the pool and the ghost. -/
inductive Effect (c next : Client) : Prop
  /-- `get_idle_session` hands out `ref`. -/
  | take (ref : Nat) :
      SessionPool.TookIdle c.sessions c.pool.idleSessions (next.pool.idleSessions, some ref) →
      next.sessions = c.sessions → next.seqCounter = c.seqCounter →
      next.handedOut = c.handedOut ++ [ref] → Effect c next
  /-- `get_idle_session` finds none, and `create_new_session` adds a session. -/
  | create (now : Nat) {idle : SortedMap Nat PooledSession} :
      SessionPool.TookIdle c.sessions c.pool.idleSessions (idle, none) →
      next.sessions = c.sessions ++ [⟨c.seqCounter, false⟩] →
      next.seqCounter = c.seqCounter + 1 → next.handedOut = c.handedOut →
      next.pool.idleSessions =
        idle.insert c.seqCounter ⟨c.seqCounter, c.sessions.length, now⟩ → Effect c next
  /-- `get_idle_session` finds none, or the pool is not touched. -/
  | drop :
      SessionPool.TookIdle c.sessions c.pool.idleSessions (next.pool.idleSessions, none) →
      next.sessions = c.sessions → next.seqCounter = c.seqCounter →
      next.handedOut = c.handedOut → Effect c next
  /-- Sessions close, and the pool drops only entries of closed sessions. -/
  | close :
      SessionPool.Swept c.pool.idleSessions c.sessions (next.pool.idleSessions, next.sessions) →
      next.seqCounter = c.seqCounter → next.handedOut = c.handedOut → Effect c next

theorem Effect.untouched {c next : Client} (pool : next.pool = c.pool)
    (sessions : next.sessions = c.sessions) (counter : next.seqCounter = c.seqCounter)
    (handed : next.handedOut = c.handedOut) : Effect c next :=
  .drop (pool ▸ SessionPool.TookIdle.unchanged _ _) sessions counter handed

theorem step_effect {c next : Client} {event : ClientEvent} (stepped : c.step event = some next) :
    Effect c next := by
  have took := SessionPool.takeIdle_spec c.sessions c.pool.idleSessions.size c.pool.idleSessions
  cases event with
  | createStream now connected =>
      simp only [step, SessionPool.getIdleSession] at stepped
      generalize SessionPool.takeIdle c.sessions c.pool.idleSessions.size c.pool.idleSessions =
        result at stepped took
      obtain ⟨idle, found⟩ := result
      cases found with
      | some ref =>
          cases stepped
          exact .take ref took rfl rfl rfl
      | none =>
          dsimp only at stepped
          split at stepped
          · cases stepped
            -- the new session is open, so `add_idle_session` inserts it
            have added : (SessionPool.addIdleSession { c.pool with idleSessions := idle }
                (c.sessions ++ [(⟨c.seqCounter, false⟩ : SessionRecord)]) c.sessions.length
                now).idleSessions =
                idle.insert c.seqCounter ⟨c.seqCounter, c.sessions.length, now⟩ :=
              SessionPool.addIdleSession_of_open now
                List.getElem?_concat_length rfl
            exact .create now took rfl rfl rfl added
          · cases stepped
            exact .drop took rfl rfl rfl
  | openStream call synack =>
      simp only [step] at stepped
      split at stepped
      · split at stepped <;> cases stepped <;> exact Effect.untouched rfl rfl rfl rfl
      · cases stepped
  | finishStream stream =>
      simp only [step] at stepped
      split at stepped
      · split at stepped
        · cases stepped
        · cases stepped
          exact Effect.untouched rfl rfl rfl rfl
      · cases stepped
  | cleanupTick now =>
      cases stepped
      exact .close (SessionPool.sweep_spec _ _ _ _ _) rfl rfl
  | sessionEnded ref =>
      cases stepped
      exact .close (SessionPool.Swept.of_closes (Sessions.close_closes _ _)) rfl rfl

/-! ### The invariant -/

/-- How the pool and the sessions stand in every reachable state. -/
structure Pooled (c : Client) : Prop where
  /-- Each entry is keyed by its session's `seq`. -/
  keyed : ∀ entry ∈ c.pool.idleSessions.entries,
    c.sessions[entry.2.session]?.map SessionRecord.seq = some entry.1
  /-- `SEQ_COUNTER` is past every key. -/
  fresh : ∀ entry ∈ c.pool.idleSessions.entries, entry.1 < c.seqCounter
  /-- An open session never handed out is in the pool. -/
  unused : ∀ ref, ref ∉ c.handedOut → c.sessions.isClosed ref = false → c.pool.Holds ref
  /-- A session handed out is not in the pool. -/
  outside : ∀ ref ∈ c.handedOut, ¬ c.pool.Holds ref
  /-- Only sessions that exist are handed out. -/
  created : ∀ ref ∈ c.handedOut, ref < c.sessions.length

theorem Pooled.init : new.Pooled where
  keyed _ mem := by cases mem
  fresh _ mem := by cases mem
  unused _ _ open_ := by cases open_
  outside _ mem := by cases mem
  created _ mem := by cases mem

/-- An entry's session exists. -/
theorem Pooled.lt_length {c : Client} (holds : c.Pooled) {entry : Nat × PooledSession}
    (mem : entry ∈ c.pool.idleSessions.entries) : entry.2.session < c.sessions.length := by
  have keyed := holds.keyed entry mem
  cases found : c.sessions[entry.2.session]? with
  | none => rw [found] at keyed; cases keyed
  | some _ => exact (List.getElem?_eq_some_iff.mp found).1

theorem Effect.take_pooled {c next : Client} {ref : Nat}
    (took : SessionPool.TookIdle c.sessions c.pool.idleSessions (next.pool.idleSessions, some ref))
    (sessions : next.sessions = c.sessions) (counter : next.seqCounter = c.seqCounter)
    (handed : next.handedOut = c.handedOut ++ [ref]) (holds : c.Pooled) : next.Pooled := by
  obtain ⟨top, topMem, topRefers, -, apart⟩ := took.found ref rfl
  refine ⟨fun entry mem => ?_, fun entry mem => ?_, fun other notHanded open_ => ?_,
    fun other handedOther => ?_, fun other handedOther => ?_⟩
  · rw [sessions]
    exact holds.keyed entry (took.kept entry mem)
  · rw [counter]
    exact holds.fresh entry (took.kept entry mem)
  · rw [handed, List.mem_append, not_or, List.mem_singleton] at notHanded
    rw [sessions] at open_
    exact took.stillHeld (holds.unused other notHanded.1 open_) open_
      (fun same => notHanded.2 (Option.some.inj same).symm)
  · rw [handed, List.mem_append, List.mem_singleton] at handedOther
    rintro ⟨entry, mem, refers⟩
    rcases handedOther with old | rfl
    · exact holds.outside other old ⟨entry, took.kept entry mem, refers⟩
    · -- the entry left would have the key of the one handed out
      have sameKey : entry.1 = top.1 := by
        have keyedEntry := holds.keyed entry (took.kept entry mem)
        have keyedTop := holds.keyed top topMem
        rw [refers] at keyedEntry
        rw [topRefers] at keyedTop
        exact Option.some.inj (keyedEntry.symm.trans keyedTop)
      exact apart entry mem sameKey
  · rw [handed, List.mem_append, List.mem_singleton] at handedOther
    rw [sessions]
    rcases handedOther with old | rfl
    · exact holds.created other old
    · exact topRefers ▸ holds.lt_length topMem

theorem Effect.create_pooled {c next : Client} (now : Nat) {idle : SortedMap Nat PooledSession}
    (took : SessionPool.TookIdle c.sessions c.pool.idleSessions (idle, none))
    (sessions : next.sessions = c.sessions ++ [⟨c.seqCounter, false⟩])
    (counter : next.seqCounter = c.seqCounter + 1) (handed : next.handedOut = c.handedOut)
    (pool : next.pool.idleSessions =
      idle.insert c.seqCounter ⟨c.seqCounter, c.sessions.length, now⟩)
    (holds : c.Pooled) : next.Pooled := by
  -- an entry left by `get_idle_session` keeps its key, which is below the new one
  have survives : ∀ entry ∈ idle.entries, entry ∈ next.pool.idleSessions.entries := by
    intro entry mem
    rw [pool]
    exact mem_insertEntry_of_ne mem (holds.fresh entry (took.kept entry mem)).ne
  have fromOld : ∀ entry ∈ next.pool.idleSessions.entries,
      entry = (c.seqCounter, ⟨c.seqCounter, c.sessions.length, now⟩) ∨
        entry ∈ c.pool.idleSessions.entries := by
    intro entry mem
    rw [pool] at mem
    exact (mem_insertEntry mem).imp_right (took.kept entry)
  refine ⟨fun entry mem => ?_, fun entry mem => ?_, fun other notHanded open_ => ?_,
    fun other handedOther => ?_, fun other handedOther => ?_⟩
  · rw [sessions]
    rcases fromOld entry mem with rfl | old
    · simp
    · rw [List.getElem?_append_left (holds.lt_length old)]
      exact holds.keyed entry old
  · rw [counter]
    rcases fromOld entry mem with rfl | old
    · exact Nat.lt_succ_self _
    · exact Nat.lt_succ_of_lt (holds.fresh entry old)
  · rw [handed] at notHanded
    rw [sessions] at open_
    have within := Sessions.lt_length_of_isClosed_eq_false open_
    rw [List.length_append, List.length_singleton] at within
    rcases Nat.lt_succ_iff_lt_or_eq.mp within with old | rfl
    · rw [Sessions.isClosed_append_of_lt _ old] at open_
      obtain ⟨entry, mem, refers⟩ := took.stillHeld (holds.unused other notHanded open_) open_
        (fun found => by cases found)
      exact ⟨entry, survives entry mem, refers⟩
    · exact ⟨_, by rw [pool]; exact mem_insertEntry_self _, rfl⟩
  · rw [handed] at handedOther
    rintro ⟨entry, mem, refers⟩
    rcases fromOld entry mem with rfl | old
    · exact absurd (holds.created other handedOther) (by simp [← refers])
    · exact holds.outside other handedOther ⟨entry, old, refers⟩
  · rw [handed] at handedOther
    rw [sessions, List.length_append]
    exact Nat.lt_add_right 1 (holds.created other handedOther)

theorem Effect.close_pooled {c next : Client}
    (swept : SessionPool.Swept c.pool.idleSessions c.sessions (next.pool.idleSessions, next.sessions))
    (counter : next.seqCounter = c.seqCounter) (handed : next.handedOut = c.handedOut)
    (holds : c.Pooled) : next.Pooled := by
  refine ⟨fun entry mem => ?_, fun entry mem => ?_, fun other notHanded open_ => ?_,
    fun other handedOther => ?_, fun other handedOther => ?_⟩
  · rw [swept.closes.seq]
    exact holds.keyed entry (swept.kept entry mem)
  · rw [counter]
    exact holds.fresh entry (swept.kept entry mem)
  · rw [handed] at notHanded
    -- a session open now was open before, and the sweep removed only closed ones
    have wasOpen : c.sessions.isClosed other = false :=
      Bool.eq_false_iff.mpr fun closed => by
        rw [swept.closes.stays other closed] at open_
        cases open_
    obtain ⟨entry, mem, refers⟩ := holds.unused other notHanded wasOpen
    by_cases kept : entry ∈ next.pool.idleSessions.entries
    · exact ⟨entry, kept, refers⟩
    · have closed := swept.closedRemoved entry mem kept
      rw [refers, open_] at closed
      cases closed
  · rw [handed] at handedOther
    rintro ⟨entry, mem, refers⟩
    exact holds.outside other handedOther ⟨entry, swept.kept entry mem, refers⟩
  · rw [handed] at handedOther
    rw [swept.closes.length]
    exact holds.created other handedOther

theorem Effect.drop_pooled {c next : Client}
    (took : SessionPool.TookIdle c.sessions c.pool.idleSessions (next.pool.idleSessions, none))
    (sessions : next.sessions = c.sessions) (counter : next.seqCounter = c.seqCounter)
    (handed : next.handedOut = c.handedOut) (holds : c.Pooled) : next.Pooled := by
  -- handing out nothing is a sweep that closes nothing
  have swept : SessionPool.Swept c.pool.idleSessions c.sessions
      (next.pool.idleSessions, next.sessions) := sessions ▸ took.swept
  exact Effect.close_pooled swept counter handed holds

theorem Effect.pooled {c next : Client} (effect : Effect c next) (holds : c.Pooled) :
    next.Pooled := by
  cases effect with
  | take ref took sessions counter handed => exact Effect.take_pooled took sessions counter handed holds
  | create now took sessions counter handed pool =>
      exact Effect.create_pooled now took sessions counter handed pool holds
  | drop took sessions counter handed => exact Effect.drop_pooled took sessions counter handed holds
  | close swept counter handed => exact Effect.close_pooled swept counter handed holds

theorem reachable_pooled {c : Client} (reached : Runs.Reachable step new c) : c.Pooled :=
  Runs.Reachable.invariant step Pooled Pooled.init
    (fun _ _ _ holds stepped => (step_effect stepped).pooled holds) reached

/-- In every reachable state of a client, a session that is open and that
`get_idle_session` never handed out is in the pool, and a session it handed
out is not, whatever the later steps. -/
theorem reachable_pooled_until_handed_out {c : Client} (reached : Runs.Reachable step new c)
    (ref : Nat) :
    (ref ∉ c.handedOut → c.sessions.isClosed ref = false → c.pool.Holds ref) ∧
      (ref ∈ c.handedOut → ¬ c.pool.Holds ref) :=
  ⟨(reachable_pooled reached).unused ref, (reachable_pooled reached).outside ref⟩

/-- Two proxy streams, one after the other, each finished: the second reuses
the session and nothing hands it back. -/
theorem reused_session_stays_out :
    ∃ c, Runs.run step new
        [.createStream 0 true, .openStream 0 true, .finishStream 0,
          .createStream 1000 true, .openStream 1 true, .finishStream 1] = some c ∧
      ((0 ∉ c.handedOut → c.sessions.isClosed 0 = false → c.pool.Holds 0) ∧
        (0 ∈ c.handedOut → ¬ c.pool.Holds 0)) :=
  ⟨_, rfl, reachable_pooled_until_handed_out
    ⟨[.createStream 0 true, .openStream 0 true, .finishStream 0,
      .createStream 1000 true, .openStream 1 true, .finishStream 1], rfl⟩ 0⟩

/-- After the same two streams, the session is open, out of the pool, and every
stream on it has finished. -/
theorem reused_session_orphaned :
    (Runs.run step new
        [.createStream 0 true, .openStream 0 true, .finishStream 0,
          .createStream 1000 true, .openStream 1 true, .finishStream 1]).map
      (fun c => (c.sessions, c.pool.idleSessions.entries, c.streams)) =
      some ([⟨0, false⟩], [], [⟨0, true⟩, ⟨0, true⟩]) := by
  decide

end Client

end AnyTls
