/-
# Runs of a labelled step function

A component with state `σ` reacts to events `ε` through a partial step
function: `none` means the event is not enabled in that state (a call that
would wait, a message that cannot arrive yet). A run is a list of events, and a
state is reachable when some run leads to it. Invariants are proved once per
step and lifted to every run here, so that a model states only its step lemma;
so is a simulation of one step function by another (`run_simulation`).
-/

import Mathlib

namespace Runs

universe u v
variable {σ : Type u} {ε : Type v}

/-- Apply the events in order; `none` as soon as one is not enabled. -/
def run (step : σ → ε → Option σ) : σ → List ε → Option σ
  | state, [] => some state
  | state, event :: events => (step state event).bind fun next => run step next events

/-- The states some run leads to from `init`. -/
def Reachable (step : σ → ε → Option σ) (init : σ) (state : σ) : Prop :=
  ∃ events, run step init events = some state

variable (step : σ → ε → Option σ)

@[simp]
theorem run_nil (state : σ) : run step state [] = some state := rfl

theorem run_cons (state : σ) (event : ε) (events : List ε) :
    run step state (event :: events) = (step state event).bind fun next => run step next events :=
  rfl

/-- A run of two lists of events is the run of the first, continued by the
second from where it ends. -/
theorem run_append (state : σ) (first rest : List ε) :
    run step state (first ++ rest) = (run step state first).bind fun mid => run step mid rest := by
  induction first generalizing state with
  | nil => rfl
  | cons event events ih => simp only [List.cons_append, run_cons, Option.bind_assoc, ih]

/-- A run that completes completes its first event. -/
theorem run_cons_eq_some {state final : σ} {event : ε} {events : List ε}
    (done : run step state (event :: events) = some final) :
    ∃ next, step state event = some next ∧ run step next events = some final := by
  rw [run_cons] at done
  cases hstep : step state event with
  | none => rw [hstep] at done; cases done
  | some next => exact ⟨next, rfl, by rwa [hstep] at done⟩

/-- An invariant that every enabled step of an allowed event preserves holds
after every run of allowed events. -/
theorem run_invariant_of_forall (inv : σ → Prop) (allowed : ε → Prop)
    (preserved : ∀ state event next, allowed event → inv state → step state event = some next →
      inv next) :
    ∀ {events : List ε} {state final : σ}, (∀ event ∈ events, allowed event) → inv state →
      run step state events = some final → inv final := by
  intro events
  induction events with
  | nil =>
      intro state final _ holds done
      cases done
      exact holds
  | cons event events ih =>
      intro state final permitted holds done
      obtain ⟨next, stepped, rest⟩ := run_cons_eq_some step done
      have first := preserved state event next (permitted event List.mem_cons_self) holds stepped
      exact ih (fun other mem => permitted other (List.mem_cons_of_mem event mem)) first rest

/-- An invariant that every enabled step preserves holds after every run. -/
theorem run_invariant (inv : σ → Prop)
    (preserved : ∀ state event next, inv state → step state event = some next → inv next) :
    ∀ {events : List ε} {state final : σ}, inv state → run step state events = some final →
      inv final := fun holds done =>
  run_invariant_of_forall step inv (fun _ => True) (fun state event next _ => preserved state event next)
    (fun _ _ => trivial) holds done

/-- An invariant of the initial state that every enabled step preserves holds
in every reachable state. -/
theorem Reachable.invariant {init state : σ} (inv : σ → Prop) (initially : inv init)
    (preserved : ∀ state event next, inv state → step state event = some next → inv next)
    (reached : Reachable step init state) : inv state := by
  obtain ⟨events, done⟩ := reached
  exact run_invariant step inv preserved initially done

/-- A relation between the start of a run and every state it reaches, when each
step keeps it and it holds at the start. -/
theorem run_relation (rel : σ → σ → Prop) (refl : ∀ state, rel state state)
    (extend : ∀ start state event next, rel start state → step state event = some next →
      rel start next) :
    ∀ {events : List ε} {start final : σ}, run step start events = some final → rel start final := by
  intro events start final done
  exact run_invariant step (rel start) (fun state event next => extend start state event next)
    (refl start) done

/-- The potential method over a run: when every enabled step from a state
satisfying `inv` keeps `inv` and raises `f` by at most the rise of `g` plus
its event's cost, then over a whole run `f` rises by at most the rise of `g`
plus the run's total cost. -/
theorem run_potential (inv : σ → Prop) (f g : σ → Nat) (cost : ε → Nat)
    (preserved : ∀ state event next, inv state → step state event = some next → inv next)
    (bounded : ∀ state event next, inv state → step state event = some next →
      f next + g state ≤ f state + g next + cost event) :
    ∀ {events : List ε} {start final : σ}, inv start → run step start events = some final →
      f final + g start ≤ f start + g final + (events.map cost).sum := by
  intro events
  induction events with
  | nil =>
      intro start final _ done
      cases done
      omega
  | cons event events ih =>
      intro start final holds done
      obtain ⟨next, stepped, rest⟩ := run_cons_eq_some step done
      have first := bounded start event next holds stepped
      have later := ih (preserved start event next holds stepped) rest
      rw [List.map_cons, List.sum_cons]
      omega

/-- A forward simulation: when every enabled step from a state related to a
state of `lower` is matched by some run of `lower` that keeps the relation,
every run is matched by a run of `lower`. -/
theorem run_simulation {τ δ : Type*} (lower : τ → δ → Option τ) (rel : σ → τ → Prop)
    (matched : ∀ state event next low, rel state low → step state event = some next →
      ∃ lowEvents low', run lower low lowEvents = some low' ∧ rel next low') :
    ∀ {events : List ε} {start final : σ} {low : τ}, rel start low → run step start events = some final →
      ∃ lowEvents low', run lower low lowEvents = some low' ∧ rel final low' := by
  intro events
  induction events with
  | nil =>
      intro start final low related done
      cases done
      exact ⟨[], low, rfl, related⟩
  | cons event events ih =>
      intro start final low related done
      obtain ⟨next, stepped, rest⟩ := run_cons_eq_some step done
      obtain ⟨first, mid, firstRun, midRelated⟩ := matched start event next low related stepped
      obtain ⟨later, low', laterRun, finalRelated⟩ := ih midRelated rest
      refine ⟨first ++ later, low', ?_, finalRelated⟩
      rw [run_append, firstRun, Option.bind_some]
      exact laterRun

section Collect

variable {β : Type*}

/-- What a run emits: each step's output, from the state it is taken from, up
to the first event that is not enabled. -/
def collect (out : σ → ε → List β) : σ → List ε → List β
  | _, [] => []
  | state, event :: events =>
      out state event ++
        match step state event with
        | some next => collect out next events
        | none => []

/-- A relation between the start of a run, the state reached and what the run
has emitted so far, that every enabled step of an allowed event keeps, holds at
the end of every run of allowed events with everything the run emitted. -/
theorem run_collect_relation (out : σ → ε → List β) (allowed : ε → Prop)
    (rel : σ → σ → List β → Prop) (refl : ∀ state, rel state state [])
    (extend : ∀ start state emitted event next, allowed event → rel start state emitted →
      step state event = some next → rel start next (emitted ++ out state event)) :
    ∀ {events : List ε} {start final : σ}, (∀ event ∈ events, allowed event) →
      run step start events = some final → rel start final (collect step out start events) := by
  intro events
  suffices general : ∀ {start state final : σ} {emitted : List β}, rel start state emitted →
      (∀ event ∈ events, allowed event) → run step state events = some final →
      rel start final (emitted ++ collect step out state events) by
    intro start final permitted done
    simpa using general (refl start) permitted done
  induction events with
  | nil =>
      intro start state final emitted related _ done
      cases done
      simpa [collect] using related
  | cons event events ih =>
      intro start state final emitted related permitted done
      obtain ⟨next, stepped, rest⟩ := run_cons_eq_some step done
      have further := ih (extend start state emitted event next (permitted event List.mem_cons_self)
        related stepped) (fun other mem => permitted other (List.mem_cons_of_mem event mem)) rest
      rw [collect, stepped, ← List.append_assoc]
      exact further

end Collect

/-- No step of the run from `state` is `bad` in the state it is taken from. -/
def Avoids (bad : σ → ε → Prop) : σ → List ε → Prop
  | _, [] => True
  | state, event :: events =>
      ¬ bad state event ∧ ∀ next, step state event = some next → Avoids bad next events

/-- A run avoids `bad` steps when its first step is not `bad` and the rest of it
avoids them from where that step leads. -/
theorem Avoids.cons {bad : σ → ε → Prop} {state next : σ} {event : ε} {events : List ε}
    (notBad : ¬ bad state event) (stepped : step state event = some next)
    (rest : Avoids step bad next events) : Avoids step bad state (event :: events) :=
  ⟨notBad, fun _ stepped' => Option.some.inj (stepped.symm.trans stepped') ▸ rest⟩

/-- A run that avoids `bad` steps and has only `allowed` events avoids the
steps that are `bad` or of an event that is not `allowed`. -/
theorem Avoids.of_forall {bad : σ → ε → Prop} {allowed : ε → Prop} :
    ∀ {state : σ} {events : List ε}, Avoids step bad state events →
      (∀ event ∈ events, allowed event) →
      Avoids step (fun state event => bad state event ∨ ¬ allowed event) state events
  | _, [], _, _ => trivial
  | _, event :: _, avoids, permitted =>
      ⟨fun either => either.elim avoids.1 fun notAllowed => notAllowed (permitted event List.mem_cons_self),
        fun next stepped => Avoids.of_forall (avoids.2 next stepped) fun other mem =>
          permitted other (List.mem_cons_of_mem event mem)⟩

section Decide

variable (bad : σ → ε → Prop) [∀ state event, Decidable (bad state event)]

/-- `Avoids`, computed event by event along the run. -/
def avoids : σ → List ε → Bool
  | _, [] => true
  | state, event :: events =>
      !decide (bad state event) &&
        match step state event with
        | some next => avoids next events
        | none => true

theorem avoids_iff : ∀ {state : σ} {events : List ε}, avoids step bad state events = true ↔ Avoids step bad state events
  | _, [] => iff_of_true rfl trivial
  | state, event :: events => by
      simp only [avoids, Avoids, Bool.and_eq_true, Bool.not_eq_true', decide_eq_false_iff_not]
      cases stepped : step state event with
      | none => simp
      | some next => simp [avoids_iff]

instance (state : σ) (events : List ε) : Decidable (Avoids step bad state events) :=
  decidable_of_iff _ (avoids_iff step bad)

end Decide

/-- A relation between the start of a run and every state it reaches, when each
step that is not `bad` keeps it, over runs that avoid `bad` steps. -/
theorem run_relation_of_avoids (bad : σ → ε → Prop) (rel : σ → σ → Prop)
    (refl : ∀ state, rel state state)
    (extend : ∀ start state event next, rel start state → ¬ bad state event →
      step state event = some next → rel start next) :
    ∀ {events : List ε} {start final : σ}, Avoids step bad start events →
      run step start events = some final → rel start final := by
  intro events
  suffices general : ∀ {start state final : σ}, rel start state → Avoids step bad state events →
      run step state events = some final → rel start final by
    intro start final avoids done
    exact general (refl start) avoids done
  induction events with
  | nil =>
      intro start state final related _ done
      cases done
      exact related
  | cons event events ih =>
      intro start state final related avoids done
      obtain ⟨next, stepped, rest⟩ := run_cons_eq_some step done
      exact ih (extend start state event next related avoids.1 stepped) (avoids.2 next stepped) rest

/-- An invariant that every step that is not `bad` preserves holds after every
run that avoids `bad` steps. -/
theorem run_invariant_of_avoids (bad : σ → ε → Prop) (inv : σ → Prop)
    (preserved : ∀ state event next, inv state → ¬ bad state event → step state event = some next →
      inv next) :
    ∀ {events : List ε} {start final : σ}, Avoids step bad start events → inv start →
      run step start events = some final → inv final := fun avoids holds done =>
  run_relation_of_avoids step bad (fun first last => inv first → inv last) (fun _ holds => holds)
    (fun _ _ _ _ related notBad stepped holds => preserved _ _ _ (related holds) notBad stepped)
    avoids done holds

/-- An invariant indexed by how many `counted` events the run has taken: when
every step that is not `bad` carries it from one count to the next (one more
on a `counted` event), it holds after every run that avoids `bad` steps at the
run's count. -/
theorem run_counted_invariant_of_avoids (bad : σ → ε → Prop) (counted : ε → Bool)
    (inv : Nat → σ → Prop)
    (preserved : ∀ count state event next, inv count state → ¬ bad state event →
      step state event = some next → inv (count + if counted event then 1 else 0) next) :
    ∀ {events : List ε} {count : Nat} {start final : σ}, Avoids step bad start events →
      inv count start → run step start events = some final →
      inv (count + events.countP counted) final := by
  intro events
  induction events with
  | nil =>
      intro count start final _ holds done
      cases done
      exact holds
  | cons event events ih =>
      intro count start final avoids holds done
      obtain ⟨next, stepped, rest⟩ := run_cons_eq_some step done
      have later := ih (avoids.2 next stepped) (preserved count start event next holds avoids.1 stepped) rest
      -- the first event is counted before the rest of the run
      rwa [List.countP_cons, ← Nat.add_assoc, Nat.add_right_comm count]

end Runs
