/-
# The heartbeat

A client session that `create_new_session` builds carries a heartbeat: its
configuration (the pool's `check_interval` and `idle_timeout`) and
`last_received`, the time of the last `HeartResponse`. `start_client` spawns a
task that waits on a `tokio::time::interval` ticker; after each tick it stops
if the session is closed, closes the session if more than `timeout` has passed
since `last_received`, and otherwise writes a `HeartRequest`. The server's
`handle_frame` answers a `HeartRequest` with a `HeartResponse` of the same
stream id, and the client's sets `last_received` to the time it handles one.

`HeartbeatLink` is the client session with its heartbeat task, the server
session, the heartbeats in flight between them and the clock. What the code
assumes of its environment is two kinds of step a run must avoid: the clock
passing the ticker's deadline by more than `lateness` while the task runs
(`LateTick`), and the clock passing `rtt` after a tick whose heartbeat is
still unanswered (`LateAnswer`). A zero period makes `time::interval` panic
in the spawned task, so the link starts with no task running, and no tick ever
comes (`zero_period_never_ticks`).

* `heartbeat_keeps_session`: when every heartbeat is answered within `rtt` and
  `rtt + interval + lateness ≤ timeout`, the heartbeat never closes the
  session, so a session that nothing else closes stays open.
* `heartbeat_detects_silence`: with a period that is not zero and the ticker
  on time, whatever the server does, a session is never open more than
  `timeout + interval + lateness` after the last `HeartResponse` it handled.
* `heartbeat_slower_than_timeout_closes`: a period longer than `timeout` and
  the time an answer takes closes the session at the second tick, however
  promptly the server answers.
-/

import AnyTls.Session.HandleFrame

namespace AnyTls

/-- `SessionHeartbeatConfig`, in nanoseconds. -/
structure SessionHeartbeatConfig where
  interval : Nat
  timeout : Nat
  deriving DecidableEq, Repr

/-- The heartbeat `create_new_session` configures from
`SessionPoolConfig::default()`: `check_interval` of 30 s and `idle_timeout`
of 60 s. -/
def SessionHeartbeatConfig.default : SessionHeartbeatConfig := ⟨30000000000, 60000000000⟩

/-- `HeartbeatState`: the configuration and `last_received`, in nanoseconds. -/
structure HeartbeatState where
  interval : Nat
  timeout : Nat
  lastReceived : Nat
  deriving DecidableEq, Repr

/-- What the heartbeat loop does once its ticker has fired. -/
inductive Beat
  | stop
  | expire
  | request
  deriving DecidableEq, Repr

namespace HeartbeatState

/-- The heartbeat `Session::new_client` builds at `now`. -/
def new (config : SessionHeartbeatConfig) (now : Nat) : HeartbeatState :=
  ⟨config.interval, config.timeout, now⟩

/-- The body of the heartbeat loop after `ticker.tick()` at `now`: stop on a
closed session, close it after more than `timeout` without a `HeartResponse`
(`saturating_duration_since` is the subtraction of naturals), and otherwise
write a `HeartRequest`. -/
def beat (heartbeat : HeartbeatState) (closed : Bool) (now : Nat) : Beat :=
  if closed then .stop
  else if now - heartbeat.lastReceived > heartbeat.timeout then .expire
  else .request

/-- `handle_frame`'s `HeartResponse` branch: `last_received` becomes `now`. -/
def received (heartbeat : HeartbeatState) (now : Nat) : HeartbeatState :=
  { heartbeat with lastReceived := now }

/-- An open session is sent a `HeartRequest` while `timeout` has not passed
since the last `HeartResponse`. -/
theorem beat_of_within {heartbeat : HeartbeatState} {now : Nat}
    (within : now ≤ heartbeat.lastReceived + heartbeat.timeout) :
    heartbeat.beat false now = .request := by
  have notExpired : ¬ now - heartbeat.lastReceived > heartbeat.timeout := by omega
  simp [beat, notExpired]

/-- A tick that does not stop the task either closes the session or finds it
within `timeout` of the last `HeartResponse`. -/
theorem within_of_beat {heartbeat : HeartbeatState} {closed : Bool} {now : Nat}
    (sent : heartbeat.beat closed now = .request) : now ≤ heartbeat.lastReceived + heartbeat.timeout := by
  unfold beat at sent
  split_ifs at sent with _ expired
  omega

/-- The task stops only on a session already closed. -/
theorem closed_of_beat_stop {heartbeat : HeartbeatState} {closed : Bool} {now : Nat}
    (stop : heartbeat.beat closed now = .stop) : closed = true := by
  unfold beat at stop
  split_ifs at stop with isClosed
  exact isClosed

end HeartbeatState

namespace Session

@[simp]
theorem close_isClosed (s : Session) : s.close.isClosed = true := by
  cases closed : s.isClosed
  · rw [close_eq s closed]
  · simp [close, closed]

@[simp]
theorem writeFrame_isClosed (s : Session) (frame : Frame) : (s.writeFrame frame).isClosed = s.isClosed :=
  rfl

/-- The server answers a `HeartRequest` with a `HeartResponse` of the same
stream id, and the client's handling of a `HeartResponse` leaves its session
as it was: `last_received` is the heartbeat's own state. -/
theorem handleFrame_heartRequest (md5Hex : List UInt8 → List Char) (s : Session) (streamId : UInt32) :
    s.handleFrame md5Hex (Frame.control .heartRequest streamId) =
      (s.writeFrame (Frame.control .heartResponse streamId), .ok ()) :=
  rfl

@[simp]
theorem handleFrame_heartResponse (md5Hex : List UInt8 → List Char) (s : Session) (streamId : UInt32) :
    s.handleFrame md5Hex (Frame.control .heartResponse streamId) = (s, .ok ()) :=
  rfl

end Session

/-- A client session with its heartbeat task, the server session it is
connected to, and the clock. `nextTick` is the ticker's deadline. The code
keeps no record of the heartbeats in flight: `requests` holds, for each
`HeartRequest` the server has not handled yet, the time of the tick that wrote
it, and `responses` the same for each `HeartResponse` the client has not
handled yet, oldest first. -/
structure HeartbeatLink where
  now : Nat
  client : Session
  heartbeat : HeartbeatState
  beating : Bool
  nextTick : Nat
  server : Session
  requests : List Nat
  responses : List Nat

/-- One step: time passing, the heartbeat task's pass after a tick, the
server's `recv_loop` handling the oldest `HeartRequest`, the client's handling
the oldest `HeartResponse`, or another task closing the client session. -/
inductive HeartbeatEvent
  | elapse (duration : Nat)
  | tick
  | serverHandles
  | clientHandles
  | close
  deriving DecidableEq, Repr

namespace HeartbeatLink

/-- The heartbeats not answered yet, oldest first. -/
def inFlight (link : HeartbeatLink) : List Nat := link.responses ++ link.requests

/-- The link once `create_new_session` has built the client session at `now`
and called `start_client`: the ticker's first deadline is `now`.
`time::interval` panics on a zero period, which ends the spawned task before
its first tick and leaves the session without a heartbeat. -/
def init (config : SessionHeartbeatConfig) (client server : Session) (now : Nat) : HeartbeatLink :=
  ⟨now, client, HeartbeatState.new config now, decide (0 < config.interval), now, server, [], []⟩

variable (md5Hex : List UInt8 → List Char)

/-- One step of the link; `none` when the step cannot be taken now. -/
def step (link : HeartbeatLink) : HeartbeatEvent → Option HeartbeatLink
  | .elapse duration => some { link with now := link.now + duration }
  | .tick =>
      if !link.beating || link.now < link.nextTick then none
      else
        -- `MissedTickBehavior::Delay`: the next deadline is a period after this tick
        let link := { link with nextTick := link.now + link.heartbeat.interval }
        match link.heartbeat.beat link.client.isClosed link.now with
        | .stop => some { link with beating := false }
        | .expire => some { link with client := link.client.close, beating := false }
        | .request =>
            some { link with
              client := link.client.writeFrame (Frame.control .heartRequest 0)
              requests := link.requests ++ [link.now] }
  | .serverHandles =>
      match link.requests with
      | [] => none
      | sent :: rest =>
          some { link with
            server := (link.server.handleFrame md5Hex (Frame.control .heartRequest 0)).1
            requests := rest
            responses := link.responses ++ [sent] }
  | .clientHandles =>
      match link.responses with
      | [] => none
      | _ :: rest =>
          some { link with
            client := (link.client.handleFrame md5Hex (Frame.control .heartResponse 0)).1
            heartbeat := link.heartbeat.received link.now
            responses := rest }
  | .close => some { link with client := link.client.close }

/-! ### What each step does -/

theorem step_elapse (link : HeartbeatLink) (duration : Nat) :
    step md5Hex link (.elapse duration) = some { link with now := link.now + duration } :=
  rfl

/-- A tick that does not stop the task: the session is closed, or sent a
`HeartRequest` recorded at the time of the tick. -/
theorem step_tick {link next : HeartbeatLink} (stepped : step md5Hex link .tick = some next) :
    link.beating = true ∧ link.nextTick ≤ link.now ∧ next.nextTick = link.now + link.heartbeat.interval ∧
      next.now = link.now ∧ next.heartbeat = link.heartbeat ∧ next.responses = link.responses ∧
      (link.heartbeat.beat link.client.isClosed link.now = .stop ∧ next.beating = false ∧
          next.client = link.client ∧ next.requests = link.requests ∨
        link.heartbeat.beat link.client.isClosed link.now = .expire ∧ next.beating = false ∧
          next.client = link.client.close ∧ next.requests = link.requests ∨
        link.heartbeat.beat link.client.isClosed link.now = .request ∧ next.beating = true ∧
          next.client = link.client.writeFrame (Frame.control .heartRequest 0) ∧
          next.requests = link.requests ++ [link.now]) := by
  simp only [step] at stepped
  split_ifs at stepped with notDue
  simp only [Bool.not_eq_true', Bool.or_eq_true, not_or, Bool.not_eq_false, decide_eq_true_eq,
    not_lt] at notDue
  obtain ⟨beating, due⟩ := notDue
  refine ⟨beating, due, ?_⟩
  split at stepped <;> (cases stepped; simp_all)

theorem step_serverHandles {link next : HeartbeatLink}
    (stepped : step md5Hex link .serverHandles = some next) :
    next.inFlight = link.inFlight ∧ next.now = link.now ∧ next.client = link.client ∧
      next.heartbeat = link.heartbeat ∧ next.beating = link.beating ∧ next.nextTick = link.nextTick := by
  simp only [step] at stepped
  split at stepped
  · cases stepped
  · next sent rest requests =>
      cases stepped
      simp [inFlight, requests]

/-- The client handles the oldest `HeartResponse` at the current time. -/
theorem step_clientHandles {link next : HeartbeatLink}
    (stepped : step md5Hex link .clientHandles = some next) :
    ∃ oldest, link.inFlight = oldest :: next.inFlight ∧ next.now = link.now ∧
      next.client = link.client ∧ next.heartbeat = link.heartbeat.received link.now ∧
      next.beating = link.beating ∧ next.nextTick = link.nextTick := by
  simp only [step] at stepped
  split at stepped
  · cases stepped
  · next oldest rest responses =>
      cases stepped
      exact ⟨oldest, by simp [inFlight, responses], rfl, by simp, rfl, rfl, rfl⟩

/-! ### What the code assumes of its environment -/

section Timing

variable (rtt lateness : Nat)

/-- The clock passes the ticker's deadline by more than `lateness` while the
heartbeat task still runs. -/
def LateTick (link : HeartbeatLink) : HeartbeatEvent → Prop
  | .elapse duration => link.beating = true ∧ link.nextTick + lateness < link.now + duration
  | _ => False

/-- The clock passes `rtt` after a tick whose heartbeat is still unanswered. -/
def LateAnswer (link : HeartbeatLink) : HeartbeatEvent → Prop
  | .elapse duration => ∃ sent ∈ link.inFlight, sent + rtt < link.now + duration
  | _ => False

/-- A step that breaks either timing assumption. -/
def Untimely (link : HeartbeatLink) (event : HeartbeatEvent) : Prop :=
  LateTick lateness link event ∨ LateAnswer rtt link event

instance (link : HeartbeatLink) : ∀ event, Decidable (LateTick lateness link event)
  | .elapse duration =>
      inferInstanceAs (Decidable (link.beating = true ∧ link.nextTick + lateness < link.now + duration))
  | .tick | .serverHandles | .clientHandles | .close => inferInstanceAs (Decidable False)

instance (link : HeartbeatLink) : ∀ event, Decidable (LateAnswer rtt link event)
  | .elapse duration =>
      inferInstanceAs (Decidable (∃ sent ∈ link.inFlight, sent + rtt < link.now + duration))
  | .tick | .serverHandles | .clientHandles | .close => inferInstanceAs (Decidable False)

instance (link : HeartbeatLink) (event : HeartbeatEvent) : Decidable (Untimely rtt lateness link event) :=
  inferInstanceAs (Decidable (LateTick lateness link event ∨ LateAnswer rtt link event))

end Timing

/-- No step changes the heartbeat's configuration. -/
theorem step_config {link next : HeartbeatLink} {event : HeartbeatEvent}
    (stepped : step md5Hex link event = some next) :
    next.heartbeat.interval = link.heartbeat.interval ∧ next.heartbeat.timeout = link.heartbeat.timeout := by
  cases event with
  | elapse duration =>
      cases stepped
      exact ⟨rfl, rfl⟩
  | tick =>
      obtain ⟨-, -, -, -, same, -⟩ := step_tick md5Hex stepped
      rw [same]
      exact ⟨rfl, rfl⟩
  | serverHandles =>
      obtain ⟨-, -, -, same, -⟩ := step_serverHandles md5Hex stepped
      rw [same]
      exact ⟨rfl, rfl⟩
  | clientHandles =>
      obtain ⟨_, -, -, -, received, -⟩ := step_clientHandles md5Hex stepped
      rw [received]
      exact ⟨rfl, rfl⟩
  | close =>
      cases stepped
      exact ⟨rfl, rfl⟩

theorem run_config {events : List HeartbeatEvent} {start final : HeartbeatLink}
    (done : Runs.run (step md5Hex) start events = some final) :
    final.heartbeat.interval = start.heartbeat.interval ∧
      final.heartbeat.timeout = start.heartbeat.timeout :=
  Runs.run_relation (step md5Hex)
    (fun start final => final.heartbeat.interval = start.heartbeat.interval ∧
      final.heartbeat.timeout = start.heartbeat.timeout)
    (fun _ => ⟨rfl, rfl⟩)
    (fun _ _ _ _ related stepped => by
      rw [(step_config md5Hex stepped).1, (step_config md5Hex stepped).2]
      exact related)
    done

/-! ### A session whose heartbeats are answered in time -/

section Answered

variable {rtt lateness : Nat}

/-- What holds along a run in which every heartbeat is answered within `rtt`
and nothing else closes the session. The session is open and the task runs.
The heartbeats in flight were sent no later than now, are due within `rtt`,
and follow each other by at most a period and `lateness`. The ticker's
deadline is at most a period after the last tick. The oldest heartbeat in
flight, or when there is none the ticker's deadline, is at most a period and
`lateness` after the last `HeartResponse`. -/
structure Answered (rtt lateness : Nat) (link : HeartbeatLink) : Prop where
  fits : rtt + link.heartbeat.interval + lateness ≤ link.heartbeat.timeout
  open_ : link.client.isClosed = false
  beating : link.beating = true
  sentBefore : ∀ sent ∈ link.inFlight, sent ≤ link.now
  answerDue : ∀ sent ∈ link.inFlight, link.now ≤ sent + rtt
  spaced : link.inFlight.IsChain fun earlier later => later ≤ earlier + link.heartbeat.interval + lateness
  tickDue : link.now ≤ link.nextTick + lateness
  lastTick : ∀ last ∈ link.inFlight.getLast?, link.nextTick ≤ last + link.heartbeat.interval
  idle : link.inFlight = [] → link.nextTick ≤ link.heartbeat.lastReceived + link.heartbeat.interval
  oldest : ∀ first ∈ link.inFlight.head?,
    first ≤ link.heartbeat.lastReceived + link.heartbeat.interval + lateness

theorem Answered.init (config : SessionHeartbeatConfig) {client : Session} (server : Session)
    (now : Nat) (positive : 0 < config.interval) (fits : rtt + config.interval + lateness ≤ config.timeout)
    (open_ : client.isClosed = false) : Answered rtt lateness (init config client server now) where
  fits := fits
  open_ := open_
  beating := decide_eq_true positive
  sentBefore := nofun
  answerDue := nofun
  spaced := List.IsChain.nil
  tickDue := Nat.le_add_right _ _
  lastTick := nofun
  idle := fun _ => Nat.le_add_right _ _
  oldest := nofun

/-- While the heartbeats are answered in time, the clock is within `timeout`
of the last `HeartResponse`. -/
theorem Answered.within {link : HeartbeatLink} (holds : Answered rtt lateness link) :
    link.now ≤ link.heartbeat.lastReceived + link.heartbeat.timeout := by
  have fits := holds.fits
  cases flight : link.inFlight with
  | nil =>
      -- nothing in flight: the clock is within `lateness` of a deadline one period after
      -- the last answer
      have idle := holds.idle flight
      have due := holds.tickDue
      omega
  | cons first rest =>
      -- the oldest heartbeat was sent at most a period after the last answer and is due
      -- within `rtt`
      have early := holds.oldest first (by simp [flight])
      have due := holds.answerDue first (by simp [flight])
      omega

theorem Answered.elapse {link : HeartbeatLink} (holds : Answered rtt lateness link) {duration : Nat}
    (onTime : ¬ Untimely rtt lateness link (.elapse duration)) :
    Answered rtt lateness { link with now := link.now + duration } := by
  simp only [Untimely, LateTick, LateAnswer, not_or, not_and, not_exists, not_lt] at onTime
  obtain ⟨tickOnTime, answered⟩ := onTime
  exact ⟨holds.fits, holds.open_, holds.beating,
    fun sent mem => (holds.sentBefore sent mem).trans (Nat.le_add_right _ _),
    fun sent mem => answered sent mem, holds.spaced, tickOnTime holds.beating, holds.lastTick,
    holds.idle, holds.oldest⟩

/-- A tick in time sends a `HeartRequest`, one period and `lateness` at most
after the heartbeat before it. -/
theorem Answered.tick {link next : HeartbeatLink} (holds : Answered rtt lateness link)
    (stepped : step md5Hex link .tick = some next) : Answered rtt lateness next := by
  obtain ⟨-, -, deadline, now, heartbeat, responses, branch⟩ := step_tick md5Hex stepped
  have sent : link.heartbeat.beat false link.now = .request :=
    HeartbeatState.beat_of_within holds.within
  rw [holds.open_] at branch
  rcases branch with ⟨stop, -⟩ | ⟨expire, -⟩ | ⟨-, beating, client, requests⟩
  · rw [sent] at stop
    cases stop
  · rw [sent] at expire
    cases expire
  -- the request joins the heartbeats in flight at the time of the tick
  have flight : next.inFlight = link.inFlight ++ [link.now] := by
    simp [inFlight, responses, requests]
  have lastTick := holds.lastTick
  have tickDue := holds.tickDue
  refine ⟨?_, ?_, beating, ?_, ?_, ?_, ?_, ?_, ?_, ?_⟩
  · rw [heartbeat]
    exact holds.fits
  · rw [client, Session.writeFrame_isClosed]
    exact holds.open_
  · intro sent mem
    rw [flight, List.mem_append, List.mem_singleton] at mem
    rw [now]
    rcases mem with old | rfl
    · exact holds.sentBefore sent old
    · exact le_rfl
  · intro sent mem
    rw [flight, List.mem_append, List.mem_singleton] at mem
    rw [now]
    rcases mem with old | rfl
    · exact holds.answerDue sent old
    · exact Nat.le_add_right _ _
  · rw [flight, heartbeat, List.isChain_append]
    refine ⟨holds.spaced, List.isChain_singleton _, fun last lastMem first firstMem => ?_⟩
    rw [List.head?_singleton, Option.mem_some_iff] at firstMem
    have := lastTick last lastMem
    omega
  · rw [now, deadline]
    omega
  · intro last lastMem
    rw [flight, List.getLast?_append, List.getLast?_singleton, Option.some_or,
      Option.mem_some_iff] at lastMem
    rw [deadline, heartbeat, ← lastMem]
  · intro empty
    rw [flight] at empty
    simp at empty
  · intro first firstMem
    rw [flight, List.head?_append] at firstMem
    rw [heartbeat]
    cases head : link.inFlight.head? with
    | some oldest =>
        rw [head, Option.some_or, Option.mem_some_iff] at firstMem
        rw [← firstMem]
        exact holds.oldest oldest head
    | none =>
        -- the request is the only heartbeat in flight
        rw [head, Option.none_or, List.head?_singleton, Option.mem_some_iff] at firstMem
        have idle := holds.idle (List.head?_eq_none_iff.mp head)
        omega

/-- `Answered` reads only the heartbeat, whether the session is closed, the
task, the heartbeats in flight, the clock and the deadline. -/
theorem Answered.of_eq {link next : HeartbeatLink} (holds : Answered rtt lateness link)
    (heartbeat : next.heartbeat = link.heartbeat) (closed : next.client.isClosed = link.client.isClosed)
    (beating : next.beating = link.beating) (flight : next.inFlight = link.inFlight)
    (now : next.now = link.now) (deadline : next.nextTick = link.nextTick) :
    Answered rtt lateness next := by
  obtain ⟨fits, open_, beats, sentBefore, answerDue, spaced, tickDue, lastTick, idle, oldest⟩ := holds
  refine ⟨?_, ?_, ?_, ?_, ?_, ?_, ?_, ?_, ?_, ?_⟩ <;>
    simp only [heartbeat, closed, beating, flight, now, deadline] <;> assumption

theorem Answered.serverHandles {link next : HeartbeatLink} (holds : Answered rtt lateness link)
    (stepped : step md5Hex link .serverHandles = some next) : Answered rtt lateness next := by
  obtain ⟨flight, now, client, heartbeat, beating, deadline⟩ := step_serverHandles md5Hex stepped
  exact holds.of_eq heartbeat (by rw [client]) beating flight now deadline

/-- The client handles the oldest `HeartResponse` now: the next heartbeat in
flight was sent at most a period and `lateness` after the one answered. -/
theorem Answered.clientHandles {link next : HeartbeatLink} (holds : Answered rtt lateness link)
    (stepped : step md5Hex link .clientHandles = some next) : Answered rtt lateness next := by
  obtain ⟨oldest, flight, now, client, received, beating, deadline⟩ :=
    step_clientHandles md5Hex stepped
  have answered : oldest ≤ link.now := holds.sentBefore oldest (by simp [flight])
  have spaced := holds.spaced
  rw [flight] at spaced
  refine ⟨?_, ?_, ?_, fun sent mem => ?_, fun sent mem => ?_, ?_, ?_, fun last lastMem => ?_,
    fun empty => ?_, fun first firstMem => ?_⟩
  · rw [received]
    exact holds.fits
  · rw [client]
    exact holds.open_
  · rw [beating]
    exact holds.beating
  · rw [now]
    exact holds.sentBefore sent (by simp [flight, mem])
  · rw [now]
    exact holds.answerDue sent (by simp [flight, mem])
  · rw [received]
    exact spaced.tail
  · rw [now, deadline]
    exact holds.tickDue
  · rw [deadline, received]
    refine holds.lastTick last ?_
    rw [flight, List.getLast?_cons, Option.mem_def.mp lastMem]
    rfl
  · -- the answer was to the last heartbeat sent, one period before the deadline
    rw [deadline, received]
    have last := holds.lastTick oldest (by simp [flight, empty])
    simp only [HeartbeatState.received]
    omega
  · rw [received]
    simp only [HeartbeatState.received]
    obtain ⟨rest, split⟩ : ∃ rest, next.inFlight = first :: rest := by
      cases rest : next.inFlight with
      | nil => simp [rest] at firstMem
      | cons head tail =>
          rw [rest, List.head?_cons, Option.mem_some_iff] at firstMem
          exact ⟨tail, by rw [firstMem]⟩
    rw [split, List.isChain_cons_cons] at spaced
    omega

/-- Every step of a run that keeps the timing assumptions and does not close
the session keeps `Answered`. -/
theorem Answered.step {link next : HeartbeatLink} {event : HeartbeatEvent}
    (holds : Answered rtt lateness link)
    (allowed : ¬ (Untimely rtt lateness link event ∨ ¬ event ≠ .close))
    (stepped : step md5Hex link event = some next) : Answered rtt lateness next := by
  rw [not_or, not_not] at allowed
  obtain ⟨onTime, notClose⟩ := allowed
  cases event with
  | elapse duration =>
      cases stepped
      exact holds.elapse onTime
  | tick => exact holds.tick md5Hex stepped
  | serverHandles => exact holds.serverHandles md5Hex stepped
  | clientHandles => exact holds.clientHandles md5Hex stepped
  | close => exact absurd rfl notClose

end Answered

/-- When the period is not zero, every heartbeat is answered within `rtt`, the
ticker is never more than `lateness` late, and
`rtt + interval + lateness ≤ timeout`, the heartbeat never closes the session:
over every run from a fresh link in which nothing else closes it, the client
session stays open and its heartbeat task keeps running. -/
theorem heartbeat_keeps_session (config : SessionHeartbeatConfig) {client : Session}
    (server : Session) (now : Nat) {rtt lateness : Nat} (positive : 0 < config.interval)
    (fits : rtt + config.interval + lateness ≤ config.timeout) (open_ : client.isClosed = false)
    {events : List HeartbeatEvent} {final : HeartbeatLink}
    (timely : Runs.Avoids (step md5Hex) (Untimely rtt lateness) (init config client server now) events)
    (noClose : ∀ event ∈ events, event ≠ .close)
    (done : Runs.run (step md5Hex) (init config client server now) events = some final) :
    final.client.isClosed = false ∧ final.beating = true := by
  have holds := Runs.run_invariant_of_avoids (step md5Hex) _ (Answered rtt lateness)
    (fun _ _ _ holds allowed stepped => holds.step md5Hex allowed stepped)
    (timely.of_forall (step md5Hex) noClose) (Answered.init config server now positive fits open_) done
  exact ⟨holds.open_, holds.beating⟩

/-- The first tick, an answer handled a millisecond later, and the second tick
on time. -/
def answeredRun : List HeartbeatEvent :=
  [.tick, .elapse 1000000, .serverHandles, .clientHandles, .elapse 29999000000, .tick]

/-- The client as the client binary starts it, with the default heartbeat and a
server answering within a second: the first request is answered after a
millisecond, and the session is still open after the second tick. -/
theorem default_heartbeat_answered :
    0 < SessionHeartbeatConfig.default.interval ∧
    1000000000 + SessionHeartbeatConfig.default.interval + 1000000000 ≤
      SessionHeartbeatConfig.default.timeout ∧
    (Session.newClient PaddingFactory.defaultScheme (some PaddingFactory.defaultScheme)).isClosed = false ∧
    Runs.Avoids (step fun _ => []) (Untimely 1000000000 1000000000)
      (init .default (Session.newClient PaddingFactory.defaultScheme (some PaddingFactory.defaultScheme))
        (Session.newServer PaddingFactory.defaultScheme true none) 0) answeredRun ∧
    (∀ event ∈ answeredRun, event ≠ .close) ∧
    ∃ final, Runs.run (step fun _ => [])
        (init .default (Session.newClient PaddingFactory.defaultScheme (some PaddingFactory.defaultScheme))
          (Session.newServer PaddingFactory.defaultScheme true none) 0) answeredRun = some final ∧
      final.client.isClosed = false ∧ final.beating = true := by
  have timely : Runs.Avoids (step fun _ => []) (Untimely 1000000000 1000000000)
      (init .default (Session.newClient PaddingFactory.defaultScheme (some PaddingFactory.defaultScheme))
        (Session.newServer PaddingFactory.defaultScheme true none) 0) answeredRun := by
    decide +kernel
  have noClose : ∀ event ∈ answeredRun, event ≠ .close := by decide
  obtain ⟨final, done⟩ : ∃ final, Runs.run (step fun _ => [])
      (init .default (Session.newClient PaddingFactory.defaultScheme (some PaddingFactory.defaultScheme))
        (Session.newServer PaddingFactory.defaultScheme true none) 0) answeredRun = some final :=
    ⟨_, rfl⟩
  exact ⟨by decide, by decide, rfl, timely, noClose, final, done,
    heartbeat_keeps_session (fun _ => []) .default _ 0 (by decide) (by decide) rfl timely noClose done⟩

/-! ### A session whose server falls silent -/

section Watched

variable {lateness : Nat}

/-- What holds along a run in which the ticker is never more than `lateness`
late, whatever the server does: the task stops only once the session is
closed; while it runs, the clock is within `lateness` of the ticker's
deadline, and the deadline within `timeout` and a period of the last
`HeartResponse`, which lies in the past. -/
structure Watched (lateness : Nat) (link : HeartbeatLink) : Prop where
  stopped : link.beating = false → link.client.isClosed = true
  tickDue : link.beating = true → link.now ≤ link.nextTick + lateness
  deadline : link.beating = true →
    link.nextTick ≤ link.heartbeat.lastReceived + link.heartbeat.timeout + link.heartbeat.interval
  receivedBefore : link.heartbeat.lastReceived ≤ link.now

theorem Watched.init (config : SessionHeartbeatConfig) (client server : Session) (now : Nat)
    (positive : 0 < config.interval) : Watched lateness (init config client server now) where
  stopped := fun stopped => absurd (decide_eq_true positive) (Bool.eq_false_iff.mp stopped)
  tickDue := fun _ => Nat.le_add_right _ _
  deadline := fun _ => by
    simp only [HeartbeatLink.init, HeartbeatState.new]
    omega
  receivedBefore := le_rfl

/-- A tick either stops the task on a closed session, closes the session, or
finds it within `timeout` of the last answer and sets the next deadline a
period later. -/
theorem Watched.tick {link next : HeartbeatLink} (holds : Watched lateness link)
    (stepped : step md5Hex link .tick = some next) : Watched lateness next := by
  obtain ⟨-, -, deadline, now, heartbeat, -, branch⟩ := step_tick md5Hex stepped
  have receivedBefore : next.heartbeat.lastReceived ≤ next.now := by
    rw [heartbeat, now]
    exact holds.receivedBefore
  rcases branch with ⟨stop, beating, client, -⟩ | ⟨-, beating, client, -⟩ | ⟨sent, beating, -, -⟩
  · -- the task stops on a session that was already closed
    refine ⟨fun _ => ?_, fun running => ?_, fun running => ?_, receivedBefore⟩
    · rw [client]
      exact HeartbeatState.closed_of_beat_stop stop
    all_goals simp [beating] at running
  · refine ⟨fun _ => ?_, fun running => ?_, fun running => ?_, receivedBefore⟩
    · rw [client, Session.close_isClosed]
    all_goals simp [beating] at running
  · -- a request is sent only within `timeout` of the last answer
    have within := HeartbeatState.within_of_beat sent
    refine ⟨fun stopped => ?_, fun _ => ?_, fun _ => ?_, receivedBefore⟩
    · simp [beating] at stopped
    · rw [now, deadline]
      omega
    · rw [deadline, heartbeat]
      omega

theorem Watched.step {link next : HeartbeatLink} {event : HeartbeatEvent}
    (holds : Watched lateness link) (onTime : ¬ LateTick lateness link event)
    (stepped : step md5Hex link event = some next) : Watched lateness next := by
  cases event with
  | elapse duration =>
      cases stepped
      simp only [LateTick, not_and, not_lt] at onTime
      exact ⟨holds.stopped, onTime, holds.deadline, holds.receivedBefore.trans (Nat.le_add_right _ _)⟩
  | tick => exact holds.tick md5Hex stepped
  | serverHandles =>
      obtain ⟨-, now, client, heartbeat, beating, deadline⟩ := step_serverHandles md5Hex stepped
      refine ⟨fun stopped => ?_, fun running => ?_, fun running => ?_, ?_⟩
      · rw [client]
        exact holds.stopped (beating ▸ stopped)
      · rw [now, deadline]
        exact holds.tickDue (beating ▸ running)
      · rw [deadline, heartbeat]
        exact holds.deadline (beating ▸ running)
      · rw [heartbeat, now]
        exact holds.receivedBefore
  | clientHandles =>
      -- the answer is handled now, so the deadline is within `timeout` and a period of it
      obtain ⟨-, -, now, client, received, beating, deadline⟩ := step_clientHandles md5Hex stepped
      refine ⟨fun stopped => ?_, fun running => ?_, fun running => ?_, ?_⟩
      · rw [client]
        exact holds.stopped (beating ▸ stopped)
      · rw [now, deadline]
        exact holds.tickDue (beating ▸ running)
      · have := holds.deadline (beating ▸ running)
        have := holds.receivedBefore
        rw [deadline, received]
        simp only [HeartbeatState.received]
        omega
      · rw [received, now]
        exact le_rfl
  | close =>
      cases stepped
      exact ⟨fun _ => Session.close_isClosed _, holds.tickDue, holds.deadline, holds.receivedBefore⟩

end Watched

/-- Whatever the server does, as long as the period is not zero and the ticker
is never more than `lateness` late, the client session is never open more
than `timeout + interval + lateness` after the last `HeartResponse` it
handled, or after it was built when it has handled none. -/
theorem heartbeat_detects_silence (config : SessionHeartbeatConfig) (client server : Session)
    (now : Nat) {lateness : Nat} (positive : 0 < config.interval) {events : List HeartbeatEvent}
    {final : HeartbeatLink}
    (onTime : Runs.Avoids (step md5Hex) (LateTick lateness) (init config client server now) events)
    (done : Runs.run (step md5Hex) (init config client server now) events = some final)
    (open_ : final.client.isClosed = false) :
    final.now ≤ final.heartbeat.lastReceived + config.timeout + config.interval + lateness := by
  have holds := Runs.run_invariant_of_avoids (step md5Hex) _ (Watched lateness)
    (fun _ _ _ holds onTime stepped => holds.step md5Hex onTime stepped) onTime
    (Watched.init config client server now positive) done
  obtain ⟨interval, timeout⟩ := run_config md5Hex done
  -- an open session still has its heartbeat task running
  have beating : final.beating = true := by
    cases running : final.beating
    · rw [holds.stopped running] at open_
      cases open_
    · rfl
  have due := holds.tickDue beating
  have deadline := holds.deadline beating
  rw [interval, timeout] at deadline
  simp only [HeartbeatLink.init, HeartbeatState.new] at deadline
  omega

/-- Two ticks on time to a server that never answers: 60 s after the session
was built it is still open, and within the bound. -/
theorem silent_server_within_bound :
    0 < SessionHeartbeatConfig.default.interval ∧
    Runs.Avoids (step fun _ => []) (LateTick 1000000000)
      (init .default (Session.newClient PaddingFactory.defaultScheme (some PaddingFactory.defaultScheme))
        (Session.newServer PaddingFactory.defaultScheme true none) 0)
      [.tick, .elapse 30000000000, .tick, .elapse 30000000000] ∧
    ∃ final, Runs.run (step fun _ => [])
        (init .default (Session.newClient PaddingFactory.defaultScheme (some PaddingFactory.defaultScheme))
          (Session.newServer PaddingFactory.defaultScheme true none) 0)
        [.tick, .elapse 30000000000, .tick, .elapse 30000000000] = some final ∧
      final.client.isClosed = false ∧ final.now = 60000000000 ∧
      final.now ≤ final.heartbeat.lastReceived + SessionHeartbeatConfig.default.timeout +
        SessionHeartbeatConfig.default.interval + 1000000000 := by
  have onTime : Runs.Avoids (step fun _ => []) (LateTick 1000000000)
      (init .default (Session.newClient PaddingFactory.defaultScheme (some PaddingFactory.defaultScheme))
        (Session.newServer PaddingFactory.defaultScheme true none) 0)
      [.tick, .elapse 30000000000, .tick, .elapse 30000000000] := by
    decide +kernel
  obtain ⟨final, done⟩ : ∃ final, Runs.run (step fun _ => [])
      (init .default (Session.newClient PaddingFactory.defaultScheme (some PaddingFactory.defaultScheme))
        (Session.newServer PaddingFactory.defaultScheme true none) 0)
      [.tick, .elapse 30000000000, .tick, .elapse 30000000000] = some final :=
    ⟨_, rfl⟩
  have open_ : final.client.isClosed = false := by
    cases done
    rfl
  have now : final.now = 60000000000 := by
    cases done
    rfl
  exact ⟨by decide, onTime, final, done, open_, now,
    heartbeat_detects_silence (fun _ => []) .default _ _ 0 (by decide) onTime done open_⟩

/-- On a zero period the task panics before its first tick: along every run it
never runs and no heartbeat is in flight, so nothing bounds how long a silent
server keeps the session open. -/
theorem zero_period_never_ticks (config : SessionHeartbeatConfig) (client server : Session) (now : Nat)
    (zero : config.interval = 0) {events : List HeartbeatEvent} {final : HeartbeatLink}
    (done : Runs.run (step md5Hex) (init config client server now) events = some final) :
    final.beating = false ∧ final.inFlight = [] := by
  apply Runs.run_invariant (step md5Hex) (fun link => link.beating = false ∧ link.inFlight = []) _ _ done
  · intro link event next ⟨stopped, idle⟩ stepped
    cases event with
    | elapse duration | close =>
        cases stepped
        exact ⟨stopped, idle⟩
    | tick =>
        have beating := (step_tick md5Hex stepped).1
        rw [stopped] at beating
        cases beating
    | serverHandles =>
        obtain ⟨flight, -, -, -, beating, -⟩ := step_serverHandles md5Hex stepped
        exact ⟨beating.trans stopped, flight.trans idle⟩
    | clientHandles =>
        obtain ⟨_, flight, -⟩ := step_clientHandles md5Hex stepped
        rw [idle] at flight
        cases flight
  · exact ⟨by simp [init, zero], rfl⟩

/-! ### A heartbeat slower than its timeout -/

/-- The heartbeat task has stopped, on a closed session. -/
structure Stopped (link : HeartbeatLink) : Prop where
  closed : link.client.isClosed = true
  stopped : link.beating = false

/-- A stopped task never ticks again, and no step opens the session. -/
theorem Stopped.step {link next : HeartbeatLink} {event : HeartbeatEvent} (holds : Stopped link)
    (stepped : step md5Hex link event = some next) : Stopped next := by
  cases event with
  | elapse duration =>
      cases stepped
      exact ⟨holds.closed, holds.stopped⟩
  | tick =>
      have beating := (step_tick md5Hex stepped).1
      rw [holds.stopped] at beating
      cases beating
  | serverHandles =>
      obtain ⟨-, -, client, -, beating, -⟩ := step_serverHandles md5Hex stepped
      exact ⟨client ▸ holds.closed, beating ▸ holds.stopped⟩
  | clientHandles =>
      obtain ⟨_, -, -, client, -, beating, -⟩ := step_clientHandles md5Hex stepped
      exact ⟨client ▸ holds.closed, beating ▸ holds.stopped⟩
  | close =>
      cases stepped
      exact ⟨Session.close_isClosed _, holds.stopped⟩

section Outlasted

variable {rtt : Nat}

/-- After the first tick, while the task runs: each heartbeat in flight is due
within `rtt` and was sent a period before the ticker's deadline, and the
deadline is more than `timeout` after the last `HeartResponse`. -/
structure Overdue (rtt : Nat) (link : HeartbeatLink) : Prop where
  answerDue : ∀ sent ∈ link.inFlight, link.now ≤ sent + rtt
  sentEarly : ∀ sent ∈ link.inFlight, sent + link.heartbeat.interval ≤ link.nextTick
  expired : link.heartbeat.lastReceived + link.heartbeat.timeout < link.nextTick

/-- What a link is after `ticks` ticks when each heartbeat is answered within
`rtt`: before the first tick nothing is in flight and the deadline is not
before the last `HeartResponse`; after it the task has stopped or its next
tick is overdue; after the second it has stopped. -/
def Outlasted (rtt : Nat) : Nat → HeartbeatLink → Prop
  | 0, link => link.inFlight = [] ∧ link.heartbeat.lastReceived ≤ link.nextTick
  | 1, link => Stopped link ∨ Overdue rtt link
  | _ + 2, link => Stopped link

/-- Before the first tick nothing is sent, so nothing is answered either. -/
theorem Outlasted.idle_step {link next : HeartbeatLink} {event : HeartbeatEvent}
    (idle : link.inFlight = []) (received : link.heartbeat.lastReceived ≤ link.nextTick)
    (notTick : event ≠ .tick) (stepped : step md5Hex link event = some next) :
    next.inFlight = [] ∧ next.heartbeat.lastReceived ≤ next.nextTick := by
  cases event with
  | elapse duration =>
      cases stepped
      exact ⟨idle, received⟩
  | tick => exact absurd rfl notTick
  | serverHandles =>
      obtain ⟨flight, -, -, heartbeat, -, deadline⟩ := step_serverHandles md5Hex stepped
      rw [flight, heartbeat, deadline]
      exact ⟨idle, received⟩
  | clientHandles =>
      obtain ⟨_, flight, -⟩ := step_clientHandles md5Hex stepped
      rw [idle] at flight
      cases flight
  | close =>
      cases stepped
      exact ⟨idle, received⟩

/-- The first tick stops the task or writes the only heartbeat in flight, a
period before the next deadline; a period longer than `timeout` puts that
deadline past `timeout` after the last `HeartResponse`. -/
theorem Outlasted.first_tick {link next : HeartbeatLink}
    (slow : link.heartbeat.timeout + rtt < link.heartbeat.interval) (idle : link.inFlight = [])
    (received : link.heartbeat.lastReceived ≤ link.nextTick) (stepped : step md5Hex link .tick = some next) :
    Stopped next ∨ Overdue rtt next := by
  obtain ⟨-, due, deadline, now, heartbeat, responses, branch⟩ := step_tick md5Hex stepped
  rcases branch with ⟨stop, beating, client, -⟩ | ⟨-, beating, client, -⟩ | ⟨-, -, -, requests⟩
  · exact .inl ⟨client ▸ HeartbeatState.closed_of_beat_stop stop, beating⟩
  · exact .inl ⟨by rw [client, Session.close_isClosed], beating⟩
  have flight : next.inFlight = [link.now] := by
    simp only [inFlight, List.append_eq_nil_iff] at idle
    simp [inFlight, responses, requests, idle.1, idle.2]
  refine .inr ⟨fun sent mem => ?_, fun sent mem => ?_, ?_⟩
  · rw [flight, List.mem_singleton] at mem
    rw [mem, now]
    exact Nat.le_add_right _ _
  · rw [flight, List.mem_singleton] at mem
    rw [mem, deadline, heartbeat]
  · rw [deadline, heartbeat]
    omega

/-- The tick after the first finds the deadline past `timeout` since the last
`HeartResponse`, so it closes the session if nothing else has. -/
theorem Overdue.tick {link next : HeartbeatLink} (holds : Overdue rtt link)
    (stepped : step md5Hex link .tick = some next) : Stopped next := by
  obtain ⟨-, due, -, -, -, -, branch⟩ := step_tick md5Hex stepped
  rcases branch with ⟨stop, beating, client, -⟩ | ⟨-, beating, client, -⟩ | ⟨sent, -⟩
  · exact ⟨client ▸ HeartbeatState.closed_of_beat_stop stop, beating⟩
  · exact ⟨by rw [client, Session.close_isClosed], beating⟩
  · have within := HeartbeatState.within_of_beat sent
    have expired := holds.expired
    omega

/-- Between the ticks, time passes within `rtt` of every heartbeat in flight,
and an answer handled now comes within `rtt` of a heartbeat sent a period
before the deadline: with `timeout + rtt < interval` the deadline stays past
`timeout` after it. -/
theorem Overdue.step {link next : HeartbeatLink} {event : HeartbeatEvent} (holds : Overdue rtt link)
    (slow : link.heartbeat.timeout + rtt < link.heartbeat.interval) (answered : ¬ LateAnswer rtt link event)
    (notTick : event ≠ .tick) (stepped : step md5Hex link event = some next) : Overdue rtt next := by
  cases event with
  | elapse duration =>
      cases stepped
      simp only [LateAnswer, not_exists, not_and, not_lt] at answered
      exact ⟨answered, holds.sentEarly, holds.expired⟩
  | tick => exact absurd rfl notTick
  | serverHandles =>
      obtain ⟨flight, now, -, heartbeat, -, deadline⟩ := step_serverHandles md5Hex stepped
      refine ⟨?_, ?_, ?_⟩
      · rw [flight, now]
        exact holds.answerDue
      · rw [flight, deadline, heartbeat]
        exact holds.sentEarly
      · rw [deadline, heartbeat]
        exact holds.expired
  | clientHandles =>
      obtain ⟨oldest, flight, now, -, received, -, deadline⟩ := step_clientHandles md5Hex stepped
      refine ⟨fun sent mem => ?_, fun sent mem => ?_, ?_⟩
      · rw [now]
        exact holds.answerDue sent (by simp [flight, mem])
      · rw [deadline, received]
        exact holds.sentEarly sent (by simp [flight, mem])
      · -- the answer handled now is to the oldest heartbeat in flight
        have due := holds.answerDue oldest (by simp [flight])
        have early := holds.sentEarly oldest (by simp [flight])
        rw [deadline, received]
        simp only [HeartbeatState.received]
        omega
  | close =>
      cases stepped
      exact ⟨holds.answerDue, holds.sentEarly, holds.expired⟩

/-- One step of a run, counting the ticks. -/
theorem Outlasted.step {ticks : Nat} {link next : HeartbeatLink} {event : HeartbeatEvent}
    (slow : link.heartbeat.timeout + rtt < link.heartbeat.interval) (holds : Outlasted rtt ticks link)
    (answered : ¬ LateAnswer rtt link event) (stepped : step md5Hex link event = some next) :
    Outlasted rtt (ticks + if event == .tick then 1 else 0) next := by
  by_cases tick : event = .tick
  · subst tick
    simp only [beq_self_eq_true, ↓reduceIte]
    rcases ticks with _ | _ | ticks
    · obtain ⟨idle, received⟩ := holds
      exact Outlasted.first_tick md5Hex slow idle received stepped
    · rcases holds with stopped | overdue
      · exact stopped.step md5Hex stepped
      · exact overdue.tick md5Hex stepped
    · exact Stopped.step md5Hex holds stepped
  · have notCounted : (event == .tick) = false := beq_eq_false_iff_ne.mpr tick
    rw [notCounted, if_neg Bool.false_ne_true, Nat.add_zero]
    rcases ticks with _ | _ | ticks
    · obtain ⟨idle, received⟩ := holds
      exact Outlasted.idle_step md5Hex idle received tick stepped
    · rcases holds with stopped | overdue
      · exact .inl (stopped.step md5Hex stepped)
      · exact .inr (overdue.step md5Hex slow answered tick stepped)
    · exact Stopped.step md5Hex holds stepped

end Outlasted

/-- A heartbeat whose period is longer than its timeout and the time an answer
takes closes the session at its second tick, however promptly the server
answers: over every run from a fresh link in which each heartbeat is answered
within `rtt`, once the task has ticked twice the client session is closed and
the task has stopped. -/
theorem heartbeat_slower_than_timeout_closes (config : SessionHeartbeatConfig) (client server : Session)
    (now : Nat) {rtt : Nat} (slow : config.timeout + rtt < config.interval) {events : List HeartbeatEvent}
    {final : HeartbeatLink}
    (answered : Runs.Avoids (step md5Hex) (LateAnswer rtt) (init config client server now) events)
    (done : Runs.run (step md5Hex) (init config client server now) events = some final)
    (twice : 2 ≤ events.count .tick) :
    final.client.isClosed = true ∧ final.beating = false := by
  have holds := Runs.run_counted_invariant_of_avoids (step md5Hex) (LateAnswer rtt) (· == .tick)
    (fun ticks link => link.heartbeat.timeout + rtt < link.heartbeat.interval ∧ Outlasted rtt ticks link)
    (fun _ _ _ _ ⟨slow, holds⟩ answered stepped => by
      obtain ⟨interval, timeout⟩ := step_config md5Hex stepped
      exact ⟨by rw [interval, timeout]; exact slow, holds.step md5Hex slow answered stepped⟩)
    answered (show _ ∧ Outlasted rtt 0 _ from ⟨slow, rfl, le_rfl⟩) done
  obtain ⟨ticks, counted⟩ := Nat.exists_eq_add_of_le' twice
  have stopped : Outlasted rtt (ticks + 2) final := by
    rw [← counted, ← Nat.zero_add (events.count .tick)]
    exact holds.2
  exact ⟨stopped.closed, stopped.stopped⟩

end HeartbeatLink

end AnyTls
