/-
# Opening a stream between two lock sections

`open_stream` and the `Syn` branch of `handle_frame` register a new stream in
two lock sections: the receive sender goes into `stream_receive_tx` under that
map's lock, which is released before the stream goes into `streams` under the
other map's lock. `Endpoint.step` runs the two back to back. Here another task
may run between them: `Interleaved` keeps the opens that are between their two
sections (`opening`) and the `Syn` the receive loop is in the middle of
(`storing`), during which the loop takes no other step.

Every run of `Endpoint.step` is a run here, with each `open_stream` and each
`Syn` taken in its two sections back to back (`atomic_runs_interleave`). Over
every run from a session with no receive sender that handles no `Alert`, each
receive entry has its id in `streams` or belongs to an open or a `Syn` between
its sections (`Listed`). So `close` ends the input of every stream it drains
from `streams`, and the only receive senders it leaves registered are those of
the opens and `Syn`s caught between their sections, each still feeding an open
channel (`close_ends_stored_streams`): the readers of those streams never see
the end of their input.
-/

import AnyTls.Session.Registry

namespace AnyTls

namespace Session

/-! ### The two sections -/

/-- The first section of `open_stream` takes the counter's value as the id and
registers a fresh stream under it. -/
theorem openStreamRegister_eq_ok {s registered : Session} {id : UInt32} {ref : Nat}
    (first : s.openStreamRegister = .ok (registered, id, ref)) :
    id = UInt32.ofNat s.streamId ∧ ref = s.objects.length ∧
      registered =
        (({ s with streamId := (s.streamId + 1) % 2 ^ 32 } : Session).alloc id).1.insertReceiver id ref := by
  unfold openStreamRegister at first
  split at first
  · cases first
  · simp only [alloc, Except.ok.injEq, Prod.mk.injEq] at first
    obtain ⟨rfl, rfl, rfl⟩ := first
    exact ⟨rfl, rfl, rfl⟩

theorem ReceiversOpen.openStreamRegister {s registered : Session} {id : UInt32} {ref : Nat}
    (h : s.ReceiversOpen) (first : s.openStreamRegister = .ok (registered, id, ref)) :
    registered.ReceiversOpen := by
  obtain ⟨-, rfl, rfl⟩ := openStreamRegister_eq_ok first
  have counted : ({ s with streamId := (s.streamId + 1) % 2 ^ 32 } : Session).ReceiversOpen :=
    h.of_eq rfl rfl
  exact counted.register id

end Session

/-- The session's tasks, with `open_stream` and the `Syn` branch cut where the
`stream_receive_tx` lock is released. -/
structure Interleaved where
  endpoint : Endpoint
  /-- The id and stream object of each `open_stream` call between its two
  sections. -/
  opening : List (UInt32 × Nat)
  /-- The id and stream object of the `Syn` whose branch the receive loop is
  between the two sections of. -/
  storing : Option (UInt32 × Nat)

/-- One step of one task. -/
inductive InterleavedEvent
  /-- A step of `Endpoint.step` other than `open_stream` and the handling of a
  `Syn`. -/
  | task (event : SessionEvent)
  /-- `open_stream` up to the release of the `stream_receive_tx` lock. -/
  | openRegister
  /-- The rest of the open at this position of `opening`. -/
  | openStore (index : Nat)
  /-- The receive loop takes a `Syn` and runs its branch up to the release of
  the `stream_receive_tx` lock. -/
  | synRegister
  /-- The rest of that branch. -/
  | synStore

namespace Interleaved

variable (md5Hex : List UInt8 → List Char)

/-- An endpoint with no task between two sections. -/
def init (e : Endpoint) : Interleaved := ⟨e, [], none⟩

/-- The streams registered and not stored yet. -/
def pending (i : Interleaved) : List (UInt32 × Nat) := i.opening ++ i.storing.toList

/-- The steps of `Endpoint.step` not taken whole here: `open_stream`, the
handling of a `Syn`, and every step of the receive loop while it is between
the sections of a `Syn`. -/
def refused (i : Interleaved) : SessionEvent → Bool
  | .openStream => true
  | .recvRead _ | .recvReadError => i.storing.isSome
  | .recvHandle => i.storing.isSome || i.endpoint.recv.pending.head?.any (·.cmd == .syn)
  | _ => false

/-- One step; `none` when the task cannot take it now. -/
def step (i : Interleaved) : InterleavedEvent → Option Interleaved
  | .task event =>
      if i.refused event then none
      else (i.endpoint.step md5Hex event).map fun e => { i with endpoint := e }
  | .openRegister =>
      match i.endpoint.session.openStreamRegister with
      | .ok (session, id, ref) =>
          some { i with endpoint := i.endpoint.withSession session, opening := i.opening ++ [(id, ref)] }
      | .error _ => some i
  | .openStore index =>
      match i.opening[index]? with
      | some (id, ref) =>
          some { i with
            endpoint := i.endpoint.withSession (i.endpoint.session.openStreamStore id ref)
            opening := i.opening.eraseIdx index }
      | none => none
  | .synRegister =>
      match i.storing, i.endpoint.recv.pending with
      | none, frame :: rest =>
          if frame.cmd = .syn then
            let e : Endpoint := { i.endpoint with recv := { i.endpoint.recv with pending := rest } }
            -- a client ignores a `Syn`
            if e.session.isClient then some { i with endpoint := e }
            else
              let (session, ref) := e.session.handleSynRegister frame.streamId
              some { i with endpoint := e.withSession session, storing := some (frame.streamId, ref) }
          else none
      | _, _ => none
  | .synStore =>
      match i.storing with
      | some (id, ref) =>
          some { i with
            endpoint := i.endpoint.withSession (i.endpoint.session.handleSynStore id ref)
            storing := none }
      | none => none

/-- Whether the step handles an `Alert` frame. -/
def handlesAlert (i : Interleaved) : InterleavedEvent → Bool
  | .task event => i.endpoint.handlesAlert event
  | _ => false

/-! ### What each step does -/

theorem step_task {i next : Interleaved} {event : SessionEvent}
    (stepped : i.step md5Hex (.task event) = some next) :
    i.refused event = false ∧ ∃ e, i.endpoint.step md5Hex event = some e ∧ next = { i with endpoint := e } := by
  cases refusal : i.refused event
  · simp only [step, refusal, Bool.false_eq_true, if_false, Option.map_eq_some_iff] at stepped
    obtain ⟨e, stepped', rfl⟩ := stepped
    exact ⟨rfl, e, stepped', rfl⟩
  · simp [step, refusal] at stepped

theorem step_openRegister {i next : Interleaved} (stepped : i.step md5Hex .openRegister = some next) :
    (∃ session id ref, i.endpoint.session.openStreamRegister = .ok (session, id, ref) ∧
      next = { i with endpoint := i.endpoint.withSession session, opening := i.opening ++ [(id, ref)] }) ∨
    next = i := by
  rcases registered : i.endpoint.session.openStreamRegister with _ | ⟨session, id, ref⟩ <;>
    simp only [step, registered, Option.some.injEq] at stepped
  · exact .inr stepped.symm
  · exact .inl ⟨session, id, ref, rfl, stepped.symm⟩

theorem step_openStore {i next : Interleaved} {index : Nat}
    (stepped : i.step md5Hex (.openStore index) = some next) :
    ∃ id ref, i.opening[index]? = some (id, ref) ∧
      next = { i with
        endpoint := i.endpoint.withSession (i.endpoint.session.openStreamStore id ref)
        opening := i.opening.eraseIdx index } := by
  rcases found : i.opening[index]? with _ | ⟨id, ref⟩ <;>
    simp only [step, found, Option.some.injEq, reduceCtorEq] at stepped
  exact ⟨id, ref, rfl, stepped.symm⟩

theorem step_synRegister {i next : Interleaved} (stepped : i.step md5Hex .synRegister = some next) :
    ∃ frame rest, i.storing = none ∧ i.endpoint.recv.pending = frame :: rest ∧ frame.cmd = .syn ∧
      ((i.endpoint.session.isClient = true ∧
          next = { i with endpoint := { i.endpoint with recv := { i.endpoint.recv with pending := rest } } }) ∨
        (i.endpoint.session.isClient = false ∧
          next = { i with
            endpoint := ⟨(i.endpoint.session.handleSynRegister frame.streamId).1,
              { i.endpoint.recv with pending := rest }, i.endpoint.processing⟩
            storing := some (frame.streamId, i.endpoint.session.objects.length) })) := by
  rcases storing : i.storing with _ | held <;> rcases queued : i.endpoint.recv.pending with _ | ⟨frame, rest⟩ <;>
    simp only [step, storing, queued, reduceCtorEq] at stepped
  refine ⟨frame, rest, rfl, rfl, ?_⟩
  split_ifs at stepped with syn client <;> simp only [Option.some.injEq] at stepped
  · exact ⟨syn, .inl ⟨client, stepped.symm⟩⟩
  · exact ⟨syn, .inr ⟨Bool.eq_false_iff.mpr client, stepped.symm⟩⟩

theorem step_synStore {i next : Interleaved} (stepped : i.step md5Hex .synStore = some next) :
    ∃ id ref, i.storing = some (id, ref) ∧
      next = { i with
        endpoint := i.endpoint.withSession (i.endpoint.session.handleSynStore id ref)
        storing := none } := by
  rcases storing : i.storing with _ | ⟨id, ref⟩ <;>
    simp only [step, storing, Option.some.injEq, reduceCtorEq] at stepped
  exact ⟨id, ref, rfl, stepped.symm⟩

/-! ### Every receive sender feeds an open channel of its own -/

theorem step_receiversOpen {i next : Interleaved} {event : InterleavedEvent}
    (holds : i.endpoint.session.ReceiversOpen) (stepped : i.step md5Hex event = some next) :
    next.endpoint.session.ReceiversOpen := by
  cases event with
  | task event =>
      obtain ⟨-, e, stepped', rfl⟩ := step_task md5Hex stepped
      exact Endpoint.step_receiversOpen md5Hex holds stepped'
  | openRegister =>
      rcases step_openRegister md5Hex stepped with ⟨session, id, ref, registered, rfl⟩ | rfl
      · exact holds.openStreamRegister registered
      · exact holds
  | openStore index =>
      obtain ⟨id, ref, -, rfl⟩ := step_openStore md5Hex stepped
      exact holds.of_eq rfl rfl
  | synRegister =>
      obtain ⟨frame, rest, -, -, -, ⟨-, rfl⟩ | ⟨-, rfl⟩⟩ := step_synRegister md5Hex stepped
      · exact holds
      · exact holds.register frame.streamId
  | synStore =>
      obtain ⟨id, ref, -, rfl⟩ := step_synStore md5Hex stepped
      exact holds.of_eq (Session.handleSynStore_streamReceiveTx _ _ _) (Session.handleSynStore_objects _ _ _)

/-! ### Every receive entry is listed or pending -/

/-- Each receive entry has its id in `streams`, or belongs to an open or a
`Syn` between its two sections. -/
def Listed (i : Interleaved) : Prop :=
  ∀ id ref, i.endpoint.session.streamReceiveTx.lookup id = some ref →
    id ∈ i.endpoint.session.streams ∨ (id, ref) ∈ i.pending

namespace Listed

theorem of_keepsListing {i next : Interleaved} (holds : i.Listed)
    (keeps : Session.KeepsListing i.endpoint.session next.endpoint.session) (same : next.pending = i.pending) :
    next.Listed := by
  intro id ref found
  rcases keeps id ref found with listed | ⟨old, unlisted⟩
  · exact .inl listed
  · rw [same]
    exact .inr ((holds id ref old).resolve_left unlisted)

/-- A first section: a sender registered under `id`, for a stream now pending. -/
theorem register {i next : Interleaved} (holds : i.Listed) (id : UInt32) (ref : Nat)
    (receivers : next.endpoint.session.streamReceiveTx = i.endpoint.session.streamReceiveTx.insert id ref)
    (streams : next.endpoint.session.streams = i.endpoint.session.streams)
    (added : (id, ref) ∈ next.pending) (kept : ∀ p ∈ i.pending, p ∈ next.pending) : next.Listed := by
  intro other r found
  rw [receivers] at found
  by_cases same : other = id
  · subst same
    rw [AList.lookup_insert, Option.some.injEq] at found
    subst found
    exact .inr added
  · rw [AList.lookup_insert_ne same] at found
    rw [streams]
    exact (holds other r found).imp_right (kept _)

/-- A second section: the stream stored under `id` is no longer pending. -/
theorem store {i next : Interleaved} (holds : i.Listed) (id : UInt32) (ref : Nat)
    (receivers : next.endpoint.session.streamReceiveTx = i.endpoint.session.streamReceiveTx)
    (streams : next.endpoint.session.streams = i.endpoint.session.streams.insert id ref)
    (kept : ∀ p ∈ i.pending, p ∈ next.pending ∨ p.1 = id) : next.Listed := by
  intro other r found
  rw [receivers] at found
  rw [streams, AList.mem_insert]
  rcases holds other r found with listed | waiting
  · exact .inl (.inr listed)
  · rcases kept _ waiting with still | stored
    · exact .inr still
    · exact .inl (.inl stored)

theorem step {i next : Interleaved} {event : InterleavedEvent} (holds : i.Listed)
    (notAlert : i.handlesAlert event = false) (stepped : i.step md5Hex event = some next) : next.Listed := by
  cases event with
  | task event =>
      obtain ⟨-, e, stepped', rfl⟩ := step_task md5Hex stepped
      exact holds.of_keepsListing ((Endpoint.step_effect md5Hex stepped').keepsListing md5Hex notAlert) rfl
  | openRegister =>
      rcases step_openRegister md5Hex stepped with ⟨session, id, ref, registered, rfl⟩ | rfl
      · obtain ⟨-, -, rfl⟩ := Session.openStreamRegister_eq_ok registered
        refine holds.register id ref (by simp [Session.alloc, Endpoint.withSession])
          (by simp [Session.alloc, Endpoint.withSession]) ?_ ?_
        · simp [pending]
        · intro p waiting
          simp only [pending, List.mem_append] at waiting ⊢
          tauto
      · exact holds
  | openStore index =>
      obtain ⟨id, ref, found, rfl⟩ := step_openStore md5Hex stepped
      refine holds.store id ref rfl rfl ?_
      intro p waiting
      simp only [pending, List.mem_append] at waiting ⊢
      rcases waiting with opened | held
      · obtain ⟨k, at_k⟩ := List.mem_iff_getElem?.mp opened
        by_cases same : k = index
        · subst same
          rw [found, Option.some.injEq] at at_k
          exact .inr (by rw [← at_k])
        · exact .inl (.inl (List.mem_eraseIdx_iff_getElem?.mpr ⟨k, same, at_k⟩))
      · exact .inl (.inr held)
  | synRegister =>
      obtain ⟨frame, rest, idle, -, -, ⟨-, rfl⟩ | ⟨-, rfl⟩⟩ := step_synRegister md5Hex stepped
      · exact holds
      · refine holds.register frame.streamId i.endpoint.session.objects.length rfl
          (by simp [Session.handleSynRegister, Session.alloc]) ?_ ?_
        · simp [pending]
        · intro p waiting
          simp only [pending, idle, Option.toList_none, List.append_nil] at waiting
          simp [pending, waiting]
  | synStore =>
      obtain ⟨id, ref, held, rfl⟩ := step_synStore md5Hex stepped
      refine holds.store id ref (Session.handleSynStore_streamReceiveTx _ _ _)
        (Session.handleSynStore_streams _ _ _) ?_
      intro p waiting
      simp only [pending, held, Option.toList_some, List.mem_append, List.mem_singleton] at waiting
      rcases waiting with opened | rfl
      · exact .inl (by simp [pending, opened])
      · exact .inr rfl

end Listed

/-! ### Closing a session with opens in progress -/

/-- Over every run from a session with no receive sender in which no `Alert`
is handled, `close` on the session while it is open marks it closed, signals
`close_notify`, shuts the writer down, empties `streams`, and closes the
channel of every stream whose id and receive sender it found registered. The
receive senders it leaves registered are those of the opens and `Syn`s between
their two lock sections, and their channels stay open. -/
theorem close_ends_stored_streams {start : Endpoint} {i : Interleaved} {events : List InterleavedEvent}
    (fresh : start.session.streamReceiveTx = ∅)
    (noAlert : Runs.Avoids (step md5Hex) (fun i event => i.handlesAlert event = true) (init start) events)
    (done : Runs.run (step md5Hex) (init start) events = some i) (open_ : i.endpoint.session.isClosed = false) :
    i.endpoint.session.close.isClosed = true ∧ i.endpoint.session.close.closeNotified = true ∧
      i.endpoint.session.close.writerShutdown = true ∧ (∀ id, id ∉ i.endpoint.session.close.streams) ∧
      (∀ id ref, i.endpoint.session.streamReceiveTx.lookup id = some ref → id ∈ i.endpoint.session.streams →
        i.endpoint.session.close.ChannelClosed ref) ∧
      ∀ id ref, i.endpoint.session.close.streamReceiveTx.lookup id = some ref →
        (id, ref) ∈ i.pending ∧ i.endpoint.session.close.ChannelOpen ref := by
  have opened : i.endpoint.session.ReceiversOpen :=
    Runs.run_invariant (step md5Hex) (fun i => i.endpoint.session.ReceiversOpen)
      (fun _ _ _ holds stepped => step_receiversOpen md5Hex holds stepped)
      (Session.ReceiversOpen.of_empty fresh) done
  have listed : i.Listed :=
    Runs.run_invariant_of_avoids (step md5Hex) _ Listed
      (fun _ _ _ holds notAlert stepped => holds.step md5Hex (by simpa using notAlert) stepped)
      noAlert (fun id ref found => by simp [init, fresh] at found) done
  have closes := Session.close_eq i.endpoint.session open_
  refine ⟨by rw [closes], by rw [closes], by rw [closes], fun id => by rw [closes]; exact AList.notMem_empty id,
    fun id ref found registered => ?_, fun id ref found => ?_⟩
  · -- `close` drains the entries of `streams`, and `id` is one of their keys
    rw [closes]
    exact Session.foldl_drainEntry_closes _ _ i.endpoint.session.streams.nodupKeys
      (AList.mem_keys.mpr registered) found (opened.feedsOpen id ref found).lt_length
  · obtain ⟨old, unlisted⟩ := Session.close_lookup open_ found
    exact ⟨(listed id ref old).resolve_left unlisted, opened.close.feedsOpen id ref found⟩

/-- A fresh client whose `open_stream` has registered the receive sender of
stream 1 and not yet stored the stream, when the session is closed: the sender
stays registered, its channel open. -/
theorem close_between_sections_keeps_sender :
    ∃ i, Runs.run (step fun _ => []) (init (Endpoint.init (Session.newClient PaddingFactory.defaultScheme none)))
        [.openRegister] = some i ∧
      i.endpoint.session.close.streamReceiveTx.lookup 1 = some 0 ∧
      (i.endpoint.session.close.isClosed = true ∧ i.endpoint.session.close.closeNotified = true ∧
        i.endpoint.session.close.writerShutdown = true ∧ (∀ id, id ∉ i.endpoint.session.close.streams) ∧
        (∀ id ref, i.endpoint.session.streamReceiveTx.lookup id = some ref → id ∈ i.endpoint.session.streams →
          i.endpoint.session.close.ChannelClosed ref) ∧
        ∀ id ref, i.endpoint.session.close.streamReceiveTx.lookup id = some ref →
          (id, ref) ∈ i.pending ∧ i.endpoint.session.close.ChannelOpen ref) := by
  refine ⟨_, rfl, by decide, ?_⟩
  exact @close_ends_stored_streams (fun _ => []) (Endpoint.init (Session.newClient PaddingFactory.defaultScheme none))
    _ [.openRegister] rfl (.cons _ (by decide) rfl trivial) rfl rfl

/-! ### The atomic runs -/

/-- An atomic `open_stream` is its two sections back to back. -/
theorem openStream_matched {e e' : Endpoint} (stepped : e.step md5Hex .openStream = some e') :
    ∃ events, Runs.run (step md5Hex) (init e) events = some (init e') := by
  rcases registered : e.session.openStreamRegister with err | ⟨session, id, ref⟩
  · have refusedOpen : e.session.openStream = .error err := by
      simp [Session.openStream, registered]
    simp only [Endpoint.step, refusedOpen, Option.some.injEq] at stepped
    subst stepped
    exact ⟨[], rfl⟩
  · have opened : e.session.openStream = .ok (session.openStreamStore id ref, ref) := by
      simp [Session.openStream, registered]
    simp only [Endpoint.step, opened, Option.some.injEq] at stepped
    subst stepped
    refine ⟨[.openRegister, .openStore 0], ?_⟩
    simp [Runs.run_cons, step, init, registered, Endpoint.withSession]

/-- An atomic handling of a `Syn` is its two sections back to back, or its
first alone on a client. -/
theorem synHandle_matched {e e' : Endpoint} (stepped : e.step md5Hex .recvHandle = some e')
    (syn : e.recv.pending.head?.any (·.cmd == .syn) = true) :
    ∃ events, Runs.run (step md5Hex) (init e) events = some (init e') := by
  obtain ⟨frame, rest, queued, isSyn⟩ : ∃ frame rest, e.recv.pending = frame :: rest ∧ frame.cmd = .syn := by
    rcases queued : e.recv.pending with _ | ⟨frame, rest⟩
    · simp [queued] at syn
    · exact ⟨frame, rest, rfl, by simpa [queued] using syn⟩
  have handled : e.session.handleFrame md5Hex frame = (e.session.handleSyn frame.streamId, .ok ()) := by
    simp [Session.handleFrame, isSyn]
  simp only [Endpoint.step, queued, handled, Option.some.injEq] at stepped
  subst stepped
  cases client : e.session.isClient
  · refine ⟨[.synRegister, .synStore], ?_⟩
    simp [Runs.run_cons, step, init, queued, isSyn, client, Session.handleSyn, Endpoint.withSession]
  · refine ⟨[.synRegister], ?_⟩
    simp [Runs.run_cons, step, init, queued, isSyn, client, Session.handleSyn]

/-- Every atomic step is matched by a run of sections from the same endpoint. -/
theorem step_matched {e e' : Endpoint} {event : SessionEvent} (stepped : e.step md5Hex event = some e') :
    ∃ events, Runs.run (step md5Hex) (init e) events = some (init e') := by
  cases refusal : (init e).refused event
  · refine ⟨[.task event], ?_⟩
    simp only [Runs.run_cons, step, refusal, Bool.false_eq_true, if_false]
    simp [init, stepped]
  · cases event
    case openStream => exact openStream_matched md5Hex stepped
    case recvHandle => exact synHandle_matched md5Hex stepped (by simpa [refused, init] using refusal)
    all_goals simp [refused, init] at refusal

/-- Every run of `Endpoint.step` is a run of sections, each `open_stream` and
each `Syn` taken in its two sections back to back. -/
theorem atomic_runs_interleave {start e : Endpoint} {events : List SessionEvent}
    (done : Runs.run (Endpoint.step md5Hex) start events = some e) :
    ∃ sections, Runs.run (step md5Hex) (init start) sections = some (init e) := by
  obtain ⟨sections, _, interleaved, rfl⟩ :=
    Runs.run_simulation (Endpoint.step md5Hex) (step md5Hex) (fun e i => i = init e)
      (fun _ _ _ _ related stepped => by
        subst related
        obtain ⟨sections, interleaved⟩ := step_matched md5Hex stepped
        exact ⟨sections, _, interleaved, rfl⟩)
      rfl done
  exact ⟨sections, interleaved⟩

end Interleaved

end AnyTls
