/-
# The certificate watcher

`CertReloader::start_watching` spawns a task that receives the file
watcher's `Create` and `Modify` events one at a time. An event that comes less
than `debounce_ms` after the task last reloaded (after its start, at first) is
dropped. Otherwise the task sleeps 100 ms, so that the files are written out,
and calls `reload`; a successful reload moves the window to the instant the
event was received, a failed one leaves it where it was. The server binary's
`SIGHUP` handler calls `reload` at any time, past the debounce.

The clock is part of the state, in nanoseconds, and time passes by `elapse`
events. What `reload` reads from the files is carried by the event that reads
them, so any sequence of file contents is covered.

Over any run, the reloads beyond those `SIGHUP` asked for are spaced by the
debounce, and the first of them comes no earlier than one debounce after the
task started (`watcher_reload_rate`).
-/

import AnyTls.Util.CertAnalyzer
import AnyTls.Library.Runs

namespace AnyTls

/-- A successful `reload` counts one more reload and keeps the configuration. -/
theorem CertReloader.reload_ok {reloader next : CertReloader} {newConfig : Except AnyTlsError Unit}
    {newCertInfo : Except AnyTlsError CertificateInfo}
    (reloaded : reloader.reload newConfig newCertInfo = .ok next) :
    next.reloadCount = reloader.reloadCount + 1 ∧ next.config = reloader.config := by
  cases newConfig with
  | error e => cases reloaded
  | ok =>
      cases newCertInfo with
      | error e => cases reloaded
      | ok info =>
          by_cases refused : reloader.config.checkExpiry && info.isExpired
          · simp [CertReloader.reload, refused, bind, Except.bind, throw, throwThe,
              MonadExceptOf.throw] at reloaded
          · simp [CertReloader.reload, refused, bind, Except.bind, pure, Except.pure] at reloaded
            subst reloaded
            exact ⟨rfl, rfl⟩

/-- The pause before a reload, `sleep(Duration::from_millis(100))`, in nanoseconds. -/
def reloadPause : Nat := 100 * 1000000

/-- The watcher task and the `SIGHUP` handler, over the `CertReloader` they
share: the clock, the task's `last_reload`, the events sent and not yet
received, and, during the pause, the instant the event was received and the
instant the pause ends. -/
structure CertWatcher where
  now : Nat
  lastReload : Nat
  queued : Nat
  pausing : Option (Nat × Nat)
  reloader : CertReloader
  deriving DecidableEq, Repr

/-- One step of the task, of the file watcher, of the `SIGHUP` handler, or of
the clock. -/
inductive WatchEvent
  /-- Time passes. -/
  | elapse (nanos : Nat)
  /-- The file watcher sends a `Create` or `Modify` event of either file. -/
  | fileChanged
  /-- The task receives the next event. -/
  | receive
  /-- The pause ends, and `reload` reads the files: `newConfig` is the outcome
  of `create_server_config_from_files`, `newCertInfo` that of
  `CertificateInfo::from_pem_file`. -/
  | wake (newConfig : Except AnyTlsError Unit) (newCertInfo : Except AnyTlsError CertificateInfo)
  /-- `SIGHUP`: the handler calls `reload`, which reads the files. -/
  | sighup (newConfig : Except AnyTlsError Unit) (newCertInfo : Except AnyTlsError CertificateInfo)

/-- The `SIGHUP` events. -/
def WatchEvent.isSighup : WatchEvent → Bool
  | .sighup _ _ => true
  | _ => false

namespace CertWatcher

/-- The task as spawned at `now`: `last_reload` is its start. -/
def start (reloader : CertReloader) (now : Nat) : CertWatcher := ⟨now, now, 0, none, reloader⟩

/-- One event, for the configured `debounce_ms`; `none` when it cannot happen
now (the task waits on its channel or in its pause). -/
def step (debounceMs : Nat) (w : CertWatcher) : WatchEvent → Option CertWatcher
  | .elapse nanos => some { w with now := w.now + nanos }
  | .fileChanged => some { w with queued := w.queued + 1 }
  | .receive =>
      match w.pausing, w.queued with
      | none, queued + 1 =>
          -- `now.duration_since(last_reload) < debounce_duration`, saturating at zero
          if w.now - w.lastReload < debounceMs * 1000000 then some { w with queued := queued }
          else some { w with queued := queued, pausing := some (w.now, w.now + reloadPause) }
      | _, _ => none
  | .wake newConfig newCertInfo =>
      match w.pausing with
      | some (receivedAt, wakeAt) =>
          if w.now < wakeAt then none
          else
            match w.reloader.reload newConfig newCertInfo with
            | .ok reloader => some { w with pausing := none, reloader := reloader, lastReload := receivedAt }
            | .error _ => some { w with pausing := none }
      | none => none
  | .sighup newConfig newCertInfo =>
      match w.reloader.reload newConfig newCertInfo with
      | .ok reloader => some { w with reloader := reloader }
      | .error _ => some w

/-! ### What each step does -/

section Steps

variable {debounceMs : Nat} {w next : CertWatcher}

/-- A step of the task's receive or pause, of the file watcher, or of the clock
reloads nothing, except a pause that ends in a successful reload: the window
then moves to the instant the event was received. -/
theorem step_cases {event : WatchEvent} (stepped : step debounceMs w event = some next) :
    (next.reloader = w.reloader ∧ next.lastReload = w.lastReload ∧ w.now ≤ next.now ∧
        (next.pausing = none ∨ next.pausing = w.pausing ∨
          (next.pausing = some (w.now, w.now + reloadPause) ∧
            debounceMs * 1000000 ≤ w.now - w.lastReload ∧ next.now = w.now))) ∨
      (∃ receivedAt wakeAt newConfig newCertInfo, event = .wake newConfig newCertInfo ∧
        w.pausing = some (receivedAt, wakeAt) ∧
        w.reloader.reload newConfig newCertInfo = .ok next.reloader ∧
        next.lastReload = receivedAt ∧ next.pausing = none ∧ next.now = w.now) ∨
      (∃ newConfig newCertInfo, event = .sighup newConfig newCertInfo ∧
        w.reloader.reload newConfig newCertInfo = .ok next.reloader ∧
        next.lastReload = w.lastReload ∧ next.pausing = w.pausing ∧ next.now = w.now) := by
  cases event with
  | elapse nanos =>
      cases stepped
      exact .inl ⟨rfl, rfl, Nat.le_add_right _ _, .inr (.inl rfl)⟩
  | fileChanged =>
      cases stepped
      exact .inl ⟨rfl, rfl, le_rfl, .inr (.inl rfl)⟩
  | receive =>
      simp only [step] at stepped
      split at stepped
      · split at stepped
        · cases stepped
          exact .inl ⟨rfl, rfl, le_rfl, .inr (.inl rfl)⟩
        · rename_i late
          cases stepped
          exact .inl ⟨rfl, rfl, le_rfl, .inr (.inr ⟨rfl, by omega, rfl⟩)⟩
      · cases stepped
  | wake newConfig newCertInfo =>
      simp only [step] at stepped
      split at stepped
      · rename_i receivedAt wakeAt pausing
        split at stepped
        · cases stepped
        · split at stepped
          · rename_i reloader reloaded
            cases stepped
            exact .inr (.inl ⟨receivedAt, wakeAt, newConfig, newCertInfo, rfl, pausing, reloaded,
              rfl, rfl, rfl⟩)
          · cases stepped
            exact .inl ⟨rfl, rfl, le_rfl, .inl rfl⟩
      · cases stepped
  | sighup newConfig newCertInfo =>
      simp only [step] at stepped
      split at stepped
      · rename_i reloader reloaded
        cases stepped
        exact .inr (.inr ⟨newConfig, newCertInfo, rfl, reloaded, rfl, rfl, rfl⟩)
      · cases stepped
        exact .inl ⟨rfl, rfl, le_rfl, .inr (.inl rfl)⟩

end Steps

/-! ### The debounce over a run -/

/-- The window is behind the clock, and an event in its pause was received at
least one debounce after the window opened. -/
structure Spaced (debounceMs : Nat) (w : CertWatcher) : Prop where
  behind : w.lastReload ≤ w.now
  pausing : ∀ receivedAt wakeAt, w.pausing = some (receivedAt, wakeAt) →
    w.lastReload + debounceMs * 1000000 ≤ receivedAt ∧ receivedAt ≤ w.now

theorem Spaced.start (debounceMs : Nat) (reloader : CertReloader) (now : Nat) :
    Spaced debounceMs (start reloader now) :=
  ⟨le_rfl, fun _ _ pausing => by cases pausing⟩

theorem Spaced.step {debounceMs : Nat} {w next : CertWatcher} {event : WatchEvent}
    (spaced : Spaced debounceMs w) (stepped : step debounceMs w event = some next) :
    Spaced debounceMs next := by
  have behind := spaced.behind
  rcases step_cases stepped with
    ⟨-, window, later, paused | same | ⟨paused, late, now⟩⟩ |
      ⟨receivedAt, wakeAt, -, -, -, pausing, -, window, paused, now⟩ |
      ⟨-, -, -, -, window, same, now⟩
  · exact ⟨by omega, fun _ _ pausing => by rw [paused] at pausing; cases pausing⟩
  · refine ⟨by omega, fun receivedAt wakeAt pausing => ?_⟩
    rw [same] at pausing
    have earlier := spaced.pausing receivedAt wakeAt pausing
    omega
  · refine ⟨by omega, fun receivedAt wakeAt pausing => ?_⟩
    rw [paused, Option.some.injEq, Prod.mk.injEq] at pausing
    omega
  · -- the window moves to the instant the event was received
    have received := (spaced.pausing receivedAt wakeAt pausing).2
    exact ⟨by omega, fun _ _ pausing => by rw [paused] at pausing; cases pausing⟩
  · refine ⟨by omega, fun receivedAt wakeAt pausing => ?_⟩
    rw [same] at pausing
    have earlier := spaced.pausing receivedAt wakeAt pausing
    omega

/-- What a `SIGHUP` is charged: one debounce. -/
def sighupCharge (debounceMs : Nat) (event : WatchEvent) : Nat :=
  if event.isSighup then debounceMs * 1000000 else 0

theorem sum_sighupCharge (debounceMs : Nat) (events : List WatchEvent) :
    (events.map (sighupCharge debounceMs)).sum = events.countP WatchEvent.isSighup * (debounceMs * 1000000) := by
  induction events with
  | nil => simp
  | cons event events ih =>
      rw [List.map_cons, List.sum_cons, ih, List.countP_cons]
      unfold sighupCharge
      cases event.isSighup <;> simp [Nat.add_mul, Nat.add_comm]

/-- Each step pays for a reload it makes: a reload by the task with the
debounce the window moves by, a `SIGHUP` reload with its charge. -/
theorem step_reloadCount {debounceMs : Nat} {w next : CertWatcher} {event : WatchEvent}
    (spaced : Spaced debounceMs w) (stepped : step debounceMs w event = some next) :
    next.reloader.reloadCount * (debounceMs * 1000000) + w.lastReload ≤
      w.reloader.reloadCount * (debounceMs * 1000000) + next.lastReload + sighupCharge debounceMs event := by
  rcases step_cases stepped with
    ⟨reloader, window, -, -⟩ |
      ⟨receivedAt, wakeAt, newConfig, newCertInfo, rfl, pausing, reloaded, window, -, -⟩ |
      ⟨newConfig, newCertInfo, rfl, reloaded, window, -, -⟩
  · rw [reloader, window]
    omega
  · have counted := (CertReloader.reload_ok reloaded).1
    have late := (spaced.pausing receivedAt wakeAt pausing).1
    rw [counted, window, Nat.add_mul, Nat.one_mul]
    -- the task's reload is paid by the window: it moves by at least one debounce
    have free : sighupCharge debounceMs (.wake newConfig newCertInfo) = 0 := rfl
    omega
  · have counted := (CertReloader.reload_ok reloaded).1
    rw [counted, window, Nat.add_mul, Nat.one_mul]
    simp only [sighupCharge, WatchEvent.isSighup, if_true]
    omega

/-- Over any run of the task from its start, with `SIGHUP`s at any time, the
reloads beyond one per `SIGHUP` each take one debounce out of the time since
the start: the task reloads at most once per `debounce_ms`, and not within the
first `debounce_ms` after it starts. -/
theorem watcher_reload_rate (debounceMs : Nat) (reloader : CertReloader) (started : Nat)
    {events : List WatchEvent} {final : CertWatcher}
    (done : Runs.run (step debounceMs) (start reloader started) events = some final) :
    (final.reloader.reloadCount - reloader.reloadCount - events.countP WatchEvent.isSighup) *
      (debounceMs * 1000000) ≤ final.now - started := by
  have paid := Runs.run_potential (step debounceMs) (Spaced debounceMs)
    (fun w => w.reloader.reloadCount * (debounceMs * 1000000)) lastReload (sighupCharge debounceMs)
    (fun _ _ _ spaced stepped => spaced.step stepped)
    (fun _ _ _ spaced stepped => step_reloadCount spaced stepped)
    (Spaced.start debounceMs reloader started) done
  have behind := (Runs.run_invariant (step debounceMs) (Spaced debounceMs)
    (fun _ _ _ spaced stepped => spaced.step stepped) (Spaced.start debounceMs reloader started) done).behind
  rw [sum_sighupCharge] at paid
  simp only [start] at paid
  rw [Nat.sub_mul, Nat.sub_mul]
  omega

/-- A change received 600 ms after the start, past the default 500 ms debounce,
and reloaded after the pause. -/
def changeAfterWindow : List WatchEvent :=
  [.fileChanged, .elapse 600000000, .receive, .elapse reloadPause,
    .wake (.ok ()) (.ok ⟨⟨0⟩, ⟨1000000000000000000⟩, 10000⟩)]

theorem change_after_window_reloaded :
    ((⟨700000000, 600000000, 0, none, ⟨CertReloaderConfig.default,
          some ⟨⟨0⟩, ⟨1000000000000000000⟩, 10000⟩, 1⟩⟩ : CertWatcher).reloader.reloadCount -
        (⟨CertReloaderConfig.default, none, 0⟩ : CertReloader).reloadCount -
        changeAfterWindow.countP WatchEvent.isSighup) * (500 * 1000000) ≤
      (⟨700000000, 600000000, 0, none, ⟨CertReloaderConfig.default,
          some ⟨⟨0⟩, ⟨1000000000000000000⟩, 10000⟩, 1⟩⟩ : CertWatcher).now - 0 :=
  watcher_reload_rate 500 ⟨CertReloaderConfig.default, none, 0⟩ 0 (by decide +kernel)

end CertWatcher

end AnyTls
