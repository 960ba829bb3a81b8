/-
# Where the receive senders lead

`stream_receive_tx` holds the only sender of each registered stream's receive
channel. Every sender in the map feeds the open channel of a stream object of
its own (`ReceiversOpen`), in every state that any interleaving of the
session's tasks reaches from a fresh session (`reachable_receiversOpen`): a
`Push` is always delivered into a channel that its reader can still read.

The `Syn` branch does not look the id up first. A `Syn` for an id already
registered replaces both entries with a fresh stream, which ends the old
stream's input, and announces the fresh stream (`handleFrame_syn_replaces`).
`close` drains `streams`, and removes the receive sender of each id it
drains: it empties both maps of a session whose receive entries all have their
id in `streams` (`close_clears`), and leaves the others (`close_lookup`). Every
step but the `Alert` branch, which drains `streams` only, registers a sender
only under an id it stores in `streams`, and keeps the senders it does not
list (`KeepsListing`); `Opening` follows that through the two lock sections
of `open_stream` and of the `Syn` branch.

A `Push` with an empty payload is delivered too, as an empty chunk, which the
stream's reader takes for the end of its input (`empty_push_ends_stream_early`).
-/

import AnyTls.Session.Lifecycle

namespace AnyTls

namespace Session

/-- The stream object at `ref` exists and its receive channel is open. -/
def ChannelOpen (s : Session) (ref : Nat) : Prop :=
  ∃ stream, s.objects[ref]? = some stream ∧ stream.reader.readerRx.closed = false

theorem ChannelOpen.lt_length {s : Session} {ref : Nat} (opened : s.ChannelOpen ref) :
    ref < s.objects.length := by
  obtain ⟨stream, stored, -⟩ := opened
  exact (List.getElem?_eq_some_iff.mp stored).1

/-- Each sender in `stream_receive_tx` feeds the open channel of a stream
object of its own. -/
structure ReceiversOpen (s : Session) : Prop where
  /-- The object an entry names exists and its channel is open. -/
  feedsOpen : ∀ id ref, s.streamReceiveTx.lookup id = some ref → s.ChannelOpen ref
  /-- No two ids name the same object. -/
  injective : ∀ a b ref, s.streamReceiveTx.lookup a = some ref →
    s.streamReceiveTx.lookup b = some ref → a = b

theorem lookup_of_lookup_erase {m : AList (fun _ : UInt32 => Nat)} {id other : UInt32} {ref : Nat}
    (found : (m.erase id).lookup other = some ref) : other ≠ id ∧ m.lookup other = some ref := by
  have apart : other ≠ id := by
    rintro rfl
    rw [AList.lookup_erase] at found
    cases found
  exact ⟨apart, by rwa [AList.lookup_erase_ne apart] at found⟩

/-- Dropping the sender registered for `id` changes no object but the one that
sender fed. -/
theorem dropReceiver_getElem? {s : Session} {id : UInt32} {ref : Nat}
    (apart : ∀ old, s.streamReceiveTx.lookup id = some old → old ≠ ref) :
    (s.dropReceiver id).objects[ref]? = s.objects[ref]? := by
  unfold dropReceiver
  split
  · rename_i old found
    exact List.getElem?_modify_ne _ _ (apart old found)
  · rfl

theorem dropReceiver_getElem?_self {s : Session} {id : UInt32} {old : Nat}
    (found : s.streamReceiveTx.lookup id = some old) :
    (s.dropReceiver id).objects[old]? = s.objects[old]?.map StreamState.dropSender := by
  simp [dropReceiver, found, updateStream]

@[simp]
theorem dropReceiver_hasCallback (s : Session) (id : UInt32) :
    (s.dropReceiver id).hasCallback = s.hasCallback := by
  rw [dropReceiver_eq]

@[simp]
theorem dropReceiver_announced (s : Session) (id : UInt32) :
    (s.dropReceiver id).announced = s.announced := by
  rw [dropReceiver_eq]

namespace ReceiversOpen

variable {s : Session}

theorem of_eq {t : Session} (h : s.ReceiversOpen) (receivers : t.streamReceiveTx = s.streamReceiveTx)
    (objects : t.objects = s.objects) : t.ReceiversOpen where
  feedsOpen id ref found := by
    rw [receivers] at found
    unfold ChannelOpen
    rw [objects]
    exact h.feedsOpen id ref found
  injective a b ref foundA foundB := by
    rw [receivers] at foundA foundB
    exact h.injective a b ref foundA foundB

theorem of_untouched {t : Session} (h : s.ReceiversOpen) (same : Untouched s t) : t.ReceiversOpen :=
  h.of_eq same.receivers same.objects

/-- A session with no receive sender. -/
theorem of_empty (receivers : s.streamReceiveTx = ∅) : s.ReceiversOpen where
  feedsOpen id ref found := by
    rw [receivers, AList.lookup_empty] at found
    cases found
  injective a b ref found _ := by
    rw [receivers, AList.lookup_empty] at found
    cases found

theorem updateStream (h : s.ReceiversOpen) {ref : Nat} {f : StreamState → StreamState}
    (keeps : s.KeepsChannel ref f) : (s.updateStream ref f).ReceiversOpen where
  feedsOpen id r found := by
    obtain ⟨stream, stored, opened⟩ := h.feedsOpen id r found
    by_cases same : ref = r
    · subst same
      exact ⟨f stream, by simp [Session.updateStream, stored], (keeps stream stored).trans opened⟩
    · refine ⟨stream, ?_, opened⟩
      rw [Session.updateStream, List.getElem?_modify_ne _ _ same]
      exact stored
  injective := h.injective

theorem removeReceiver (h : s.ReceiversOpen) (id : UInt32) : (s.removeReceiver id).ReceiversOpen where
  feedsOpen other ref found := by
    obtain ⟨apart, found⟩ := lookup_of_lookup_erase found
    obtain ⟨stream, stored, opened⟩ := h.feedsOpen other ref found
    refine ⟨stream, ?_, opened⟩
    show (s.dropReceiver id).objects[ref]? = some stream
    rw [dropReceiver_getElem? fun old foundOld (same : old = ref) =>
      apart (h.injective other id ref found (same ▸ foundOld))]
    exact stored
  injective a b ref foundA foundB :=
    h.injective a b ref (lookup_of_lookup_erase foundA).2 (lookup_of_lookup_erase foundB).2

/-- Registering a sender for `id` that feeds an open channel no entry names
yet. -/
theorem insertReceiver (h : s.ReceiversOpen) (id : UInt32) {ref : Nat}
    (fresh : ∀ other r, s.streamReceiveTx.lookup other = some r → r ≠ ref)
    (opened : s.ChannelOpen ref) : (s.insertReceiver id ref).ReceiversOpen where
  feedsOpen other r found := by
    rw [insertReceiver_streamReceiveTx] at found
    by_cases same : other = id
    · subst same
      rw [AList.lookup_insert, Option.some.injEq] at found
      subst found
      obtain ⟨stream, stored, isOpen⟩ := opened
      exact ⟨stream, (dropReceiver_getElem? (fresh other)).trans stored, isOpen⟩
    · rw [AList.lookup_insert_ne same] at found
      obtain ⟨stream, stored, isOpen⟩ := h.feedsOpen other r found
      refine ⟨stream, (dropReceiver_getElem? fun old foundOld eq => ?_).trans stored, isOpen⟩
      exact same (h.injective other id r found (eq ▸ foundOld))
  injective a b r foundA foundB := by
    rw [insertReceiver_streamReceiveTx] at foundA foundB
    by_cases sameA : a = id <;> by_cases sameB : b = id
    · rw [sameA, sameB]
    · subst sameA
      rw [AList.lookup_insert, Option.some.injEq] at foundA
      rw [AList.lookup_insert_ne sameB] at foundB
      exact absurd foundA (fresh b r foundB).symm
    · subst sameB
      rw [AList.lookup_insert, Option.some.injEq] at foundB
      rw [AList.lookup_insert_ne sameA] at foundA
      exact absurd foundB (fresh a r foundA).symm
    · rw [AList.lookup_insert_ne sameA] at foundA
      rw [AList.lookup_insert_ne sameB] at foundB
      exact h.injective a b r foundA foundB

theorem alloc (h : s.ReceiversOpen) (id : UInt32) : (s.alloc id).1.ReceiversOpen where
  feedsOpen other ref found := by
    obtain ⟨stream, stored, opened⟩ := h.feedsOpen other ref found
    refine ⟨stream, ?_, opened⟩
    show (s.objects ++ [StreamState.new id])[ref]? = some stream
    rw [List.getElem?_append_left (ChannelOpen.lt_length ⟨stream, stored, opened⟩)]
    exact stored
  injective := h.injective

/-- A fresh stream object, registered under `id`. -/
theorem register (h : s.ReceiversOpen) (id : UInt32) :
    ((s.alloc id).1.insertReceiver id (s.alloc id).2).ReceiversOpen := by
  apply (h.alloc id).insertReceiver id
  · intro other r found same
    have inside := ChannelOpen.lt_length (h.feedsOpen other r found)
    simp only [Session.alloc] at same
    omega
  · exact ⟨StreamState.new id, by simp [Session.alloc], rfl⟩

theorem openStream (h : s.ReceiversOpen) {next : Session} {ref : Nat}
    (opened : s.openStream = .ok (next, ref)) : next.ReceiversOpen := by
  obtain ⟨-, -, rfl⟩ := Session.openStream_eq_ok opened
  have counted : ({ s with streamId := (s.streamId + 1) % 2 ^ 32 } : Session).ReceiversOpen :=
    h.of_eq rfl rfl
  exact (counted.register _).of_eq rfl rfl

theorem handleSyn (h : s.ReceiversOpen) (streamId : UInt32) : (s.handleSyn streamId).ReceiversOpen := by
  rw [Session.handleSyn_eq]
  split
  · exact h
  · dsimp only [Session.alloc]
    split <;> exact (h.register streamId).of_eq rfl rfl

theorem handlePush (h : s.ReceiversOpen) (streamId : UInt32) (data : List UInt8) :
    (s.handlePush streamId data).ReceiversOpen := by
  unfold Session.handlePush
  split
  · exact h.updateStream fun _ _ => rfl
  · exact h

theorem handleSynAck (h : s.ReceiversOpen) (streamId : UInt32) (data : List UInt8) :
    (s.handleSynAck streamId data).ReceiversOpen := by
  unfold Session.handleSynAck
  split
  · split
    · exact h.updateStream fun _ _ => by simp only [StreamState.notifySynack_reader]
    · exact h
  · exact h

theorem handleFin (h : s.ReceiversOpen) (streamId : UInt32) : (s.handleFin streamId).ReceiversOpen := by
  have erased : ({ s with streams := s.streams.erase streamId } : Session).ReceiversOpen :=
    h.of_eq rfl rfl
  exact erased.removeReceiver streamId

theorem handleAlert (h : s.ReceiversOpen) (data : List UInt8) : (s.handleAlert data).ReceiversOpen := by
  unfold Session.handleAlert
  simp only
  refine ReceiversOpen.of_eq
    (List.foldlRecOn (motive := fun t : Session => t.ReceiversOpen) _ _ h ?_) rfl rfl
  intro t holds _ _
  exact holds.updateStream fun _ _ => by simp

theorem close (h : s.ReceiversOpen) : s.close.ReceiversOpen := by
  unfold Session.close
  split
  · exact h
  · have flagged : ({ s with isClosed := true, closeNotified := true } : Session).ReceiversOpen :=
      h.of_eq rfl rfl
    simp only
    refine ReceiversOpen.of_eq
      (List.foldlRecOn (motive := fun t : Session => t.ReceiversOpen) _ _ flagged ?_) rfl rfl
    intro t holds entry _
    exact (holds.updateStream fun _ _ => by simp).removeReceiver entry.1

theorem handleFrame (md5Hex : List UInt8 → List Char) (h : s.ReceiversOpen) (frame : Frame) :
    (s.handleFrame md5Hex frame).1.ReceiversOpen := by
  obtain ⟨cmd, streamId, data⟩ := frame
  cases cmd with
  | push => exact h.handlePush streamId data
  | syn => exact h.handleSyn streamId
  | synAck => exact h.handleSynAck streamId data
  | fin => exact h.handleFin streamId
  | settings => exact h.of_untouched (handleSettings_untouched md5Hex s data)
  | serverSettings => exact h.of_untouched (handleServerSettings_untouched s data)
  | updatePaddingScheme => exact h.of_untouched (handleUpdatePaddingScheme_untouched s data)
  | alert => exact h.handleAlert data
  | heartRequest => exact h.of_untouched (writeFrame_untouched _ _)
  | heartResponse => exact h
  | waste => exact h

end ReceiversOpen

/-! ### A `Syn` for a registered id -/

/-- `Syn` on a server, field by field. -/
theorem handleSyn_of_server {s : Session} (server : s.isClient = false) (streamId : UInt32) :
    (s.handleSyn streamId).streams = s.streams.insert streamId s.objects.length ∧
      (s.handleSyn streamId).streamReceiveTx = s.streamReceiveTx.insert streamId s.objects.length ∧
      (s.handleSyn streamId).objects = ((s.alloc streamId).1.dropReceiver streamId).objects ∧
      (s.handleSyn streamId).announced =
        if s.hasCallback then s.announced ++ [s.objects.length] else s.announced := by
  rw [handleSyn_eq]
  rw [if_neg (by simp [server])]
  dsimp only [alloc]
  split <;> rename_i callback <;> simp only [insertReceiver, dropReceiver_hasCallback] at callback <;>
    simp [insertReceiver, callback]

variable (md5Hex : List UInt8 → List Char)

/-- A `Syn` on a server, whatever the maps held for its id: a fresh stream
object at the end of the heap is registered under the id in both maps and
announced when a callback is set; the sender registered before for the id is
dropped, which closes the channel of the stream it fed; every other object and
every other id's entries stay as they were. -/
theorem handleFrame_syn_replaces (s : Session) (streamId : UInt32) (data : List UInt8)
    (server : s.isClient = false) (holds : s.ReceiversOpen) :
    let next := (s.handleFrame md5Hex ⟨.syn, streamId, data⟩).1
    next.streams.lookup streamId = some s.objects.length ∧
      next.streamReceiveTx.lookup streamId = some s.objects.length ∧
      next.objects[s.objects.length]? = some (StreamState.new streamId) ∧
      (∀ old, s.streamReceiveTx.lookup streamId = some old →
        next.objects[old]? = s.objects[old]?.map StreamState.dropSender) ∧
      (∀ ref, ref < s.objects.length →
        (∀ old, s.streamReceiveTx.lookup streamId = some old → old ≠ ref) →
        next.objects[ref]? = s.objects[ref]?) ∧
      next.announced = (if s.hasCallback then s.announced ++ [s.objects.length] else s.announced) ∧
      ∀ other, other ≠ streamId →
        next.streams.lookup other = s.streams.lookup other ∧
          next.streamReceiveTx.lookup other = s.streamReceiveTx.lookup other := by
  obtain ⟨streams, receivers, objects, announced⟩ := handleSyn_of_server server streamId
  have inside : ∀ old, s.streamReceiveTx.lookup streamId = some old → old < s.objects.length :=
    fun old found => (holds.feedsOpen streamId old found).lt_length
  have allocated : ∀ ref, ref < s.objects.length → (s.alloc streamId).1.objects[ref]? = s.objects[ref]? :=
    fun ref lt => List.getElem?_append_left lt
  have frame : (s.handleFrame md5Hex ⟨.syn, streamId, data⟩).1 = s.handleSyn streamId := rfl
  dsimp only
  rw [frame, streams, receivers, objects, announced]
  refine ⟨AList.lookup_insert _, AList.lookup_insert _, ?_, ?_, ?_, rfl, ?_⟩
  · rw [@dropReceiver_getElem? (s.alloc streamId).1 _ _ fun old found => (inside old found).ne]
    exact List.getElem?_concat_length
  · intro old found
    rw [@dropReceiver_getElem?_self (s.alloc streamId).1 _ _ found, allocated old (inside old found)]
  · intro ref lt apart
    rw [@dropReceiver_getElem? (s.alloc streamId).1 _ _ apart, allocated ref lt]
  · intro other apart
    exact ⟨AList.lookup_insert_ne apart, AList.lookup_insert_ne apart⟩

/-- A server that registered stream 1 handles a second `Syn(1)`. -/
theorem second_syn_replaces_first :
    let s := (newServer PaddingFactory.defaultScheme true none).handleSyn 1
    let next := (s.handleFrame (fun _ => []) ⟨.syn, 1, []⟩).1
    next.streams.lookup 1 = some s.objects.length ∧
      next.streamReceiveTx.lookup 1 = some s.objects.length ∧
      next.objects[s.objects.length]? = some (StreamState.new 1) ∧
      (∀ old, s.streamReceiveTx.lookup 1 = some old →
        next.objects[old]? = s.objects[old]?.map StreamState.dropSender) ∧
      (∀ ref, ref < s.objects.length →
        (∀ old, s.streamReceiveTx.lookup 1 = some old → old ≠ ref) →
        next.objects[ref]? = s.objects[ref]?) ∧
      next.announced = (if s.hasCallback then s.announced ++ [s.objects.length] else s.announced) ∧
      ∀ other, other ≠ 1 →
        next.streams.lookup other = s.streams.lookup other ∧
          next.streamReceiveTx.lookup other = s.streamReceiveTx.lookup other :=
  handleFrame_syn_replaces (fun _ => []) _ 1 [] (by decide) ((ReceiversOpen.of_empty rfl).handleSyn 1)

/-- A server handles `Syn(1)` twice: stream 1 is now the second object, the
first one's channel is closed, and both were announced. -/
theorem duplicate_syn_replaces_stream :
    ((Runs.run (Endpoint.step fun _ => []) (Endpoint.init (newServer PaddingFactory.defaultScheme true none))
        [.recvRead (FrameCodec.encode (Frame.control .syn 1) ++ FrameCodec.encode (Frame.control .syn 1)),
          .recvHandle, .recvHandle]).map fun e =>
      (e.session.streams.lookup 1, e.session.streamReceiveTx.lookup 1,
        e.session.objects.map (·.reader.readerRx.closed), e.session.announced)) =
      some (some 1, some 1, [true, false], [0, 1]) := by
  decide

/-! ### Closing -/

theorem foldl_drainEntry_streamReceiveTx (entries : List ((_ : UInt32) × Nat)) (s : Session) :
    (entries.foldl drainEntry s).streamReceiveTx =
      entries.foldl (fun m entry => m.erase entry.1) s.streamReceiveTx := by
  induction entries generalizing s with
  | nil => rfl
  | cons entry entries ih => exact ih (s.drainEntry entry)

theorem mem_foldl_erase (entries : List ((_ : UInt32) × Nat)) (m : AList fun _ : UInt32 => Nat)
    (id : UInt32) :
    id ∈ entries.foldl (fun m entry => m.erase entry.1) m ↔ id ∈ m ∧ id ∉ entries.keys := by
  induction entries generalizing m with
  | nil => simp [List.keys]
  | cons entry entries ih =>
      rw [List.foldl_cons, ih, AList.mem_erase, List.keys_cons, List.mem_cons]
      tauto

/-- `close` on an open session whose receive entries all have their id in
`streams`: the session is marked closed, `close_notify` is signalled, the
writer is shut down, and both maps are empty. -/
theorem close_clears (s : Session) (open_ : s.isClosed = false)
    (registered : ∀ id, id ∈ s.streamReceiveTx → id ∈ s.streams) :
    s.close.isClosed = true ∧ s.close.closeNotified = true ∧ s.close.writerShutdown = true ∧
      (∀ id, id ∉ s.close.streams) ∧ ∀ id, id ∉ s.close.streamReceiveTx := by
  rw [close_eq s open_]
  refine ⟨rfl, rfl, rfl, AList.notMem_empty, fun id mem => ?_⟩
  simp only [foldl_drainEntry_streamReceiveTx, mem_foldl_erase] at mem
  exact mem.2 (AList.mem_keys.mp (registered id mem.1))

/-- The stream object at `ref` exists and its receive channel is closed: its
reader ends once it has returned what is queued. -/
def ChannelClosed (s : Session) (ref : Nat) : Prop :=
  ∃ stream, s.objects[ref]? = some stream ∧ stream.reader.readerRx.closed = true

/-- An update that never reopens a channel keeps a closed one closed. -/
theorem ChannelClosed.updateStream {s : Session} {ref : Nat} (closed : s.ChannelClosed ref)
    (target : Nat) {f : StreamState → StreamState}
    (keeps : ∀ stream, stream.reader.readerRx.closed = true → (f stream).reader.readerRx.closed = true) :
    (s.updateStream target f).ChannelClosed ref := by
  obtain ⟨stream, stored, isClosed⟩ := closed
  by_cases same : target = ref
  · subst same
    exact ⟨f stream, by simp [Session.updateStream, stored], keeps stream isClosed⟩
  · refine ⟨stream, ?_, isClosed⟩
    rw [Session.updateStream, List.getElem?_modify_ne _ _ same]
    exact stored

theorem ChannelClosed.dropReceiver {s : Session} {ref : Nat} (closed : s.ChannelClosed ref)
    (id : UInt32) : (s.dropReceiver id).ChannelClosed ref := by
  unfold Session.dropReceiver
  split
  · exact closed.updateStream _ fun _ _ => rfl
  · exact closed

/-- Draining an entry never reopens a channel. -/
theorem ChannelClosed.drainEntry {s : Session} {ref : Nat} (closed : s.ChannelClosed ref)
    (entry : (_ : UInt32) × Nat) : (s.drainEntry entry).ChannelClosed ref :=
  (closed.updateStream entry.2 fun stream isClosed => by
    rw [StreamState.notifySynack_reader, StreamState.closeWithError_reader]
    exact isClosed).dropReceiver entry.1

theorem foldl_drainEntry_keeps (entries : List ((_ : UInt32) × Nat)) {s : Session} {ref : Nat}
    (closed : s.ChannelClosed ref) : (entries.foldl drainEntry s).ChannelClosed ref := by
  induction entries generalizing s with
  | nil => exact closed
  | cons entry entries ih => exact ih (closed.drainEntry entry)

@[simp]
theorem dropReceiver_length (s : Session) (id : UInt32) :
    (s.dropReceiver id).objects.length = s.objects.length := by
  unfold dropReceiver
  split <;> simp [updateStream]

/-- Removing the receive sender of an id closes the channel it fed. -/
theorem removeReceiver_closes {s : Session} {id : UInt32} {ref : Nat}
    (found : s.streamReceiveTx.lookup id = some ref) (inside : ref < s.objects.length) :
    (s.removeReceiver id).ChannelClosed ref := by
  obtain ⟨stream, stored⟩ : ∃ stream, s.objects[ref]? = some stream :=
    ⟨_, List.getElem?_eq_getElem inside⟩
  refine ⟨stream.dropSender, ?_, rfl⟩
  exact (dropReceiver_getElem?_self found).trans (by rw [stored]; rfl)

/-- Draining the entry of an id closes the channel that the id's receive
sender fed. -/
theorem drainEntry_closes {s : Session} {entry : (_ : UInt32) × Nat} {ref : Nat}
    (found : s.streamReceiveTx.lookup entry.1 = some ref) (inside : ref < s.objects.length) :
    (s.drainEntry entry).ChannelClosed ref := by
  unfold drainEntry
  refine removeReceiver_closes ?_ ?_
  · exact found
  · simpa [updateStream] using inside

/-- Draining entries with distinct ids closes the channel of every receive
sender registered under one of them. -/
theorem foldl_drainEntry_closes :
    ∀ (entries : List ((_ : UInt32) × Nat)) (s : Session) {id : UInt32} {ref : Nat},
      entries.keys.Nodup → id ∈ entries.keys → s.streamReceiveTx.lookup id = some ref →
      ref < s.objects.length → (entries.foldl drainEntry s).ChannelClosed ref
  | [], _, _, _, _, mem, _, _ => by cases mem
  | entry :: entries, s, id, ref, distinct, mem, found, inside => by
      rw [List.keys_cons, List.nodup_cons] at distinct
      rw [List.foldl_cons]
      rcases List.mem_cons.mp mem with same | later
      · -- this entry drains `id`; the later ones keep the channel closed
        subst same
        exact foldl_drainEntry_keeps entries (drainEntry_closes found inside)
      · have apart : id ≠ entry.1 := fun same => distinct.1 (same ▸ later)
        refine foldl_drainEntry_closes entries _ distinct.2 later ?_ ?_
        · exact (AList.lookup_erase_ne apart).trans found
        · simpa [drainEntry, removeReceiver, updateStream] using inside

/-- An entry of the receive map that survives erasing the ids of `entries`
was there before, under an id none of them has. -/
theorem lookup_foldl_erase (entries : List ((_ : UInt32) × Nat)) (m : AList fun _ : UInt32 => Nat)
    {id : UInt32} {ref : Nat} (found : (entries.foldl (fun m entry => m.erase entry.1) m).lookup id = some ref) :
    m.lookup id = some ref ∧ id ∉ entries.keys := by
  induction entries generalizing m with
  | nil => exact ⟨found, List.not_mem_nil⟩
  | cons entry entries ih =>
      obtain ⟨erased, later⟩ := ih (m.erase entry.1) found
      obtain ⟨apart, kept⟩ := lookup_of_lookup_erase erased
      rw [List.keys_cons, List.mem_cons, not_or]
      exact ⟨kept, apart, later⟩

/-- The receive entries that `close` leaves on an open session are those
whose id is not in `streams`. -/
theorem close_lookup {s : Session} (open_ : s.isClosed = false) {id : UInt32} {ref : Nat}
    (found : s.close.streamReceiveTx.lookup id = some ref) :
    s.streamReceiveTx.lookup id = some ref ∧ id ∉ s.streams := by
  rw [close_eq s open_, foldl_drainEntry_streamReceiveTx] at found
  obtain ⟨kept, notKey⟩ := lookup_foldl_erase _ _ found
  exact ⟨kept, fun listed => notKey (AList.mem_keys.mpr listed)⟩

theorem lookup_insert_cases {m : AList fun _ : UInt32 => Nat} {id other : UInt32} {ref r : Nat}
    (found : (m.insert id ref).lookup other = some r) : other = id ∨ m.lookup other = some r := by
  by_cases same : other = id
  · exact .inl same
  · rw [AList.lookup_insert_ne same] at found
    exact .inr found

/-- Every receive entry of `later` has its id in `later`'s `streams`, or was an
entry of `earlier` whose id `earlier` did not have in `streams`: the change
registered no sender without storing its stream, and took no id out of
`streams` whose sender it kept. -/
def KeepsListing (earlier later : Session) : Prop :=
  ∀ id ref, later.streamReceiveTx.lookup id = some ref →
    id ∈ later.streams ∨ (earlier.streamReceiveTx.lookup id = some ref ∧ id ∉ earlier.streams)

namespace KeepsListing

/-- A change that keeps every id of `streams` there, and registers a sender
only under an id it has in `streams`. -/
theorem of_grows {s t : Session} (kept : ∀ id, id ∈ s.streams → id ∈ t.streams)
    (registered : ∀ id ref, t.streamReceiveTx.lookup id = some ref →
      id ∈ t.streams ∨ s.streamReceiveTx.lookup id = some ref) : KeepsListing s t := by
  intro id ref found
  rcases registered id ref found with listed | old
  · exact .inl listed
  · by_cases listed : id ∈ s.streams
    · exact .inl (kept id listed)
    · exact .inr ⟨old, listed⟩

theorem of_maps_eq {s t : Session} (streams : t.streams = s.streams)
    (receivers : t.streamReceiveTx = s.streamReceiveTx) : KeepsListing s t :=
  of_grows (fun _ listed => streams ▸ listed) fun _ _ found => .inr (receivers ▸ found)

theorem of_untouched {s t : Session} (same : Untouched s t) : KeepsListing s t :=
  of_maps_eq same.streams same.receivers

/-- Storing a stream under `id`, with a sender registered under `id` or none. -/
theorem of_store {s t : Session} (id : UInt32) (ref : Nat) (streams : t.streams = s.streams.insert id ref)
    (registered : ∀ other r, t.streamReceiveTx.lookup other = some r →
      other = id ∨ s.streamReceiveTx.lookup other = some r) : KeepsListing s t := by
  apply of_grows
  · intro other listed
    rw [streams, AList.mem_insert]
    exact .inr listed
  · intro other r found
    rcases registered other r found with rfl | old
    · left
      rw [streams, AList.mem_insert]
      exact .inl rfl
    · exact .inr old

theorem openStream {s next : Session} {ref : Nat} (opened : s.openStream = .ok (next, ref)) :
    KeepsListing s next := by
  obtain ⟨-, -, rfl⟩ := openStream_eq_ok opened
  exact of_store (UInt32.ofNat s.streamId) s.objects.length (by simp [alloc])
    fun _ _ found => lookup_insert_cases found

theorem openStreamStore (s : Session) (id : UInt32) (ref : Nat) : KeepsListing s (s.openStreamStore id ref) :=
  of_store id ref rfl fun _ _ found => .inr found

theorem handleSynStore (s : Session) (id : UInt32) (ref : Nat) : KeepsListing s (s.handleSynStore id ref) :=
  of_store id ref (handleSynStore_streams s id ref) fun _ _ found =>
    .inr (by rwa [handleSynStore_streamReceiveTx] at found)

theorem handleSyn (s : Session) (streamId : UInt32) : KeepsListing s (s.handleSyn streamId) := by
  cases client : s.isClient with
  | true => exact of_maps_eq (by simp [handleSyn_eq, client]) (by simp [handleSyn_eq, client])
  | false =>
      obtain ⟨streams, receivers, -, -⟩ := handleSyn_of_server client streamId
      exact of_store streamId s.objects.length streams fun _ _ found =>
        lookup_insert_cases (receivers ▸ found)

theorem handleFin (s : Session) (streamId : UInt32) : KeepsListing s (s.handleFin streamId) := by
  intro id ref found
  obtain ⟨apart, old⟩ := lookup_of_lookup_erase found
  by_cases listed : id ∈ s.streams
  · left
    simp only [Session.handleFin, Session.removeReceiver, dropReceiver_streams, AList.mem_erase]
    exact ⟨apart, listed⟩
  · exact .inr ⟨old, listed⟩

theorem close (s : Session) : KeepsListing s s.close := by
  cases open_ : s.isClosed with
  | true => exact of_maps_eq (by simp [Session.close, open_]) (by simp [Session.close, open_])
  | false => exact fun _ _ found => .inr (close_lookup open_ found)

/-- Every frame but an `Alert`: the `Alert` branch drains `streams` and keeps
every sender. -/
theorem handleFrame (md5Hex : List UInt8 → List Char) (s : Session) (frame : Frame)
    (notAlert : frame.cmd ≠ .alert) : KeepsListing s (s.handleFrame md5Hex frame).1 := by
  obtain ⟨cmd, streamId, data⟩ := frame
  cases cmd with
  | alert => exact absurd rfl notAlert
  | syn => exact handleSyn s streamId
  | fin => exact handleFin s streamId
  | push =>
      apply of_maps_eq <;> simp only [Session.handleFrame, handlePush] <;> split <;> rfl
  | synAck =>
      apply of_maps_eq <;> simp only [Session.handleFrame, handleSynAck] <;>
        split <;> (try split) <;> rfl
  | settings => exact of_untouched (handleSettings_untouched md5Hex s data)
  | serverSettings => exact of_untouched (handleServerSettings_untouched s data)
  | updatePaddingScheme => exact of_untouched (handleUpdatePaddingScheme_untouched s data)
  | heartRequest => exact of_untouched (writeFrame_untouched _ _)
  | heartResponse | waste => exact of_maps_eq rfl rfl

end KeepsListing

/-- A client with stream 1 open receives an `Alert` and then closes: the
session is closed and `streams` is empty, but the receive sender of stream 1 is
still registered, its channel is open, `close_notify` was never signalled and
the writer was never shut down. -/
theorem alert_then_close_keeps_receiver :
    ((Runs.run (Endpoint.step fun _ => []) (Endpoint.init (newClient PaddingFactory.defaultScheme none))
        [.openStream, .recvRead (FrameCodec.encode (Frame.control .alert 0)), .recvHandle,
          .close]).map fun e =>
      (e.session.isClosed, e.session.streams.lookup 1, e.session.streamReceiveTx.lookup 1,
        e.session.objects.map (·.reader.readerRx.closed), e.session.closeNotified,
        e.session.writerShutdown)) =
      some (true, none, some 0, [false], false, false) := by
  decide

end Session

namespace Endpoint

variable (md5Hex : List UInt8 → List Char)

theorem Effect.receiversOpen {e : Endpoint} {event : SessionEvent} {after : Session}
    (effect : Effect md5Hex e event after) (holds : e.session.ReceiversOpen) : after.ReceiversOpen := by
  cases effect with
  | quiet same _ => exact holds.of_untouched same
  | openStream opened => exact holds.openStream opened
  | close _ => exact holds.close
  | handle _ _ => exact holds.handleFrame md5Hex _
  | update keeps => exact holds.updateStream keeps

theorem step_receiversOpen {e next : Endpoint} {event : SessionEvent}
    (holds : e.session.ReceiversOpen) (stepped : e.step md5Hex event = some next) :
    next.session.ReceiversOpen :=
  Effect.receiversOpen md5Hex (step_effect md5Hex stepped) holds

/-- In every state that any interleaving of the tasks reaches from a session
with no receive sender, each registered sender feeds the open channel of a
stream object of its own. -/
theorem reachable_receiversOpen {start e : Endpoint} (fresh : start.session.streamReceiveTx = ∅)
    (reached : Runs.Reachable (step md5Hex) start e) : e.session.ReceiversOpen :=
  Runs.Reachable.invariant (step md5Hex) (fun e => e.session.ReceiversOpen)
    (Session.ReceiversOpen.of_empty fresh) (fun _ _ _ holds stepped => step_receiversOpen md5Hex holds stepped)
    reached

/-- A fresh server that reads and handles a `Syn`. -/
theorem syn_keeps_receivers_open :
    ∃ e, Runs.run (step fun _ => []) (init (Session.newServer PaddingFactory.defaultScheme true none))
        [.recvRead (FrameCodec.encode (Frame.control .syn 1)), .recvHandle] = some e ∧
      e.session.ReceiversOpen :=
  ⟨_, rfl, @reachable_receiversOpen (fun _ => [])
    (init (Session.newServer PaddingFactory.defaultScheme true none)) _ rfl
    ⟨[.recvRead (FrameCodec.encode (Frame.control .syn 1)), .recvHandle], rfl⟩⟩

/-- Whether the step handles an `Alert` frame. -/
def handlesAlert (e : Endpoint) : SessionEvent → Bool
  | .recvHandle => e.recv.pending.head?.any (·.cmd == .alert)
  | _ => false

/-- Every step but the handling of an `Alert` keeps the receive entries
listed. -/
theorem Effect.keepsListing {e : Endpoint} {event : SessionEvent} {after : Session}
    (effect : Effect md5Hex e event after) (notAlert : e.handlesAlert event = false) :
    Session.KeepsListing e.session after := by
  cases effect with
  | quiet same _ => exact .of_untouched same
  | openStream opened => exact .openStream opened
  | close _ => exact .close e.session
  | handle isHandle head =>
      subst isHandle
      apply Session.KeepsListing.handleFrame md5Hex
      simpa [handlesAlert, head] using notAlert
  | update _ => exact .of_maps_eq rfl rfl

set_option maxRecDepth 20000 in
/-- A client opens stream 1 and writes an empty payload and then the byte 7
with `write_data_frame`. Handed the client's frames as one chunk, the server's
`recv_loop` registers the stream and delivers both payloads into its open
channel; the empty one is an empty chunk, and the stream's first `read` returns
`Ok(0)` while the byte is still queued and the sender is alive. -/
theorem empty_push_ends_stream_early :
    ((Runs.run (step fun _ => []) (init (Session.newClient PaddingFactory.defaultScheme none))
        [.openStream, .writeDataFrame 1 [], .writeDataFrame 1 [7]]).bind fun client =>
      (Runs.run (step fun _ => []) (init (Session.newServer PaddingFactory.defaultScheme true none))
          [.recvRead (client.session.written.flatMap FrameCodec.encode), .recvHandle, .recvHandle,
            .recvHandle]).map
        fun server => server.session.objects.map fun stream => stream.reader.read 1) =
      some [.ready ([], ⟨1, ⟨[[7]], false⟩, [], false⟩)] := by
  decide

end Endpoint

end AnyTls
