/-
# Maps with ascending keys

An association list whose keys strictly ascend models an ordered map such as
a B-tree map. `insert` replaces the value of a key that is present and
otherwise puts the entry in key order, `erase` drops a key, `lastKeyValue` is
the entry of the largest key, and iteration is in ascending key order. The
order is a field of `SortedMap`, so no operation can build a map out of order.
-/

import Mathlib

universe u v

/-- Insert into entries with ascending keys, replacing the entry of an equal key. -/
def insertEntry {κ : Type u} {ν : Type v} [LinearOrder κ] (k : κ) (v : ν) :
    List (κ × ν) → List (κ × ν)
  | [] => [(k, v)]
  | (k', v') :: rest =>
      if k < k' then (k, v) :: (k', v') :: rest
      else if k = k' then (k, v) :: rest
      else (k', v') :: insertEntry k v rest

section InsertEntry

variable {κ : Type u} {ν : Type v} [LinearOrder κ] {k : κ} {v : ν}

theorem mem_insertEntry {entry : κ × ν} {entries : List (κ × ν)}
    (mem : entry ∈ insertEntry k v entries) : entry = (k, v) ∨ entry ∈ entries := by
  induction entries with
  | nil => simpa [insertEntry] using mem
  | cons head rest ih =>
      rw [insertEntry] at mem
      split_ifs at mem with before same
      · simpa using mem
      · rcases List.mem_cons.mp mem with found | found
        · exact .inl found
        · exact .inr (List.mem_cons_of_mem _ found)
      · rcases List.mem_cons.mp mem with found | found
        · exact .inr (found ▸ List.mem_cons_self)
        · exact (ih found).imp_right (List.mem_cons_of_mem _)

theorem mem_insertEntry_self (entries : List (κ × ν)) : (k, v) ∈ insertEntry k v entries := by
  induction entries with
  | nil => exact List.mem_singleton_self _
  | cons head rest ih =>
      rw [insertEntry]
      split_ifs
      · exact List.mem_cons_self
      · exact List.mem_cons_self
      · exact List.mem_cons_of_mem _ ih

/-- An entry of another key survives an insertion. -/
theorem mem_insertEntry_of_ne {entry : κ × ν} {entries : List (κ × ν)} (mem : entry ∈ entries)
    (apart : entry.1 ≠ k) : entry ∈ insertEntry k v entries := by
  induction entries with
  | nil => cases mem
  | cons head rest ih =>
      rw [insertEntry]
      rcases List.mem_cons.mp mem with found | found
      · subst found
        split_ifs with before same
        · exact List.mem_cons_of_mem _ List.mem_cons_self
        · exact absurd same.symm apart
        · exact List.mem_cons_self
      · split_ifs
        · exact List.mem_cons_of_mem _ (List.mem_cons_of_mem _ found)
        · exact List.mem_cons_of_mem _ found
        · exact List.mem_cons_of_mem _ (ih found)

theorem insertEntry_sorted {entries : List (κ × ν)}
    (sorted : entries.Pairwise fun a b => a.1 < b.1) :
    (insertEntry k v entries).Pairwise fun a b => a.1 < b.1 := by
  induction entries with
  | nil => exact List.pairwise_singleton _ _
  | cons head rest ih =>
      obtain ⟨above, restSorted⟩ := List.pairwise_cons.mp sorted
      rw [insertEntry]
      split_ifs with before same
      · -- the new key is below the head, hence below every key
        refine List.Pairwise.cons (fun entry mem => ?_) sorted
        rcases List.mem_cons.mp mem with found | found
        · exact found ▸ before
        · exact before.trans (above entry found)
      · exact List.Pairwise.cons (fun entry found => same ▸ above entry found) restSorted
      · -- the head stays first: it is below the new key and below the rest
        have below : head.1 < k := lt_of_le_of_ne (not_lt.mp before) (Ne.symm same)
        refine List.Pairwise.cons (fun entry mem => ?_) (ih restSorted)
        rcases mem_insertEntry mem with found | found
        · exact found ▸ below
        · exact above entry found

/-- Ascending keys are distinct: two entries of one key are one entry. -/
theorem eq_of_key_eq_of_sorted {entries : List (κ × ν)}
    (sorted : entries.Pairwise fun a b => a.1 < b.1) {a b : κ × ν} (memA : a ∈ entries)
    (memB : b ∈ entries) (same : a.1 = b.1) : a = b := by
  induction entries with
  | nil => cases memA
  | cons head rest ih =>
      obtain ⟨above, restSorted⟩ := List.pairwise_cons.mp sorted
      rcases List.mem_cons.mp memA with rfl | inA <;> rcases List.mem_cons.mp memB with rfl | inB
      · rfl
      · exact absurd same (above b inB).ne
      · exact absurd same.symm (above a inA).ne
      · exact ih restSorted inA inB

end InsertEntry

/-- Entries with strictly ascending keys. -/
structure SortedMap (κ : Type u) (ν : Type v) [LinearOrder κ] where
  entries : List (κ × ν)
  sorted : entries.Pairwise fun a b => a.1 < b.1

namespace SortedMap

variable {κ : Type u} {ν : Type v} [LinearOrder κ]

def empty : SortedMap κ ν := ⟨[], List.Pairwise.nil⟩

/-- Set the value of `k`. -/
def insert (m : SortedMap κ ν) (k : κ) (v : ν) : SortedMap κ ν :=
  ⟨insertEntry k v m.entries, insertEntry_sorted m.sorted⟩

/-- Drop the entry of `k`, if any. -/
def erase (m : SortedMap κ ν) (k : κ) : SortedMap κ ν :=
  ⟨m.entries.filter fun entry => entry.1 ≠ k, m.sorted.filter _⟩

/-- The entry of the largest key. -/
def lastKeyValue (m : SortedMap κ ν) : Option (κ × ν) := m.entries.getLast?

/-- The value of `k`, if any. -/
def lookup (m : SortedMap κ ν) (k : κ) : Option ν :=
  (m.entries.find? fun entry => entry.1 = k).map Prod.snd

def size (m : SortedMap κ ν) : Nat := m.entries.length

def isEmpty (m : SortedMap κ ν) : Bool := m.entries.isEmpty

@[simp]
theorem mem_erase {m : SortedMap κ ν} {k : κ} {entry : κ × ν} :
    entry ∈ (m.erase k).entries ↔ entry ∈ m.entries ∧ entry.1 ≠ k := by
  simp [erase]

theorem eq_of_key_eq {m : SortedMap κ ν} {a b : κ × ν} (memA : a ∈ m.entries)
    (memB : b ∈ m.entries) (same : a.1 = b.1) : a = b :=
  eq_of_key_eq_of_sorted m.sorted memA memB same

theorem lookup_of_mem {m : SortedMap κ ν} {entry : κ × ν} (mem : entry ∈ m.entries) :
    m.lookup entry.1 = some entry.2 := by
  cases lookedUp : m.entries.find? fun e => e.1 = entry.1 with
  | none => exact absurd mem (by simpa using List.find?_eq_none.mp lookedUp entry)
  | some found =>
      -- the entry found has the key, so it is the entry itself
      have keyed : found.1 = entry.1 := by simpa using List.find?_some lookedUp
      rw [lookup, lookedUp, Option.map_some, eq_of_key_eq (List.mem_of_find?_eq_some lookedUp) mem keyed]

theorem lastKeyValue_mem {m : SortedMap κ ν} {entry : κ × ν} (last : m.lastKeyValue = some entry) :
    entry ∈ m.entries :=
  List.mem_of_getLast? last

theorem mem_of_lookup {m : SortedMap κ ν} {k : κ} {v : ν} (found : m.lookup k = some v) :
    (k, v) ∈ m.entries := by
  obtain ⟨entry, lookedUp, rfl⟩ := Option.map_eq_some_iff.mp found
  have keyed : entry.1 = k := by simpa using List.find?_some lookedUp
  rw [← keyed]
  exact List.mem_of_find?_eq_some lookedUp

/-- Every other entry has a smaller key than the last one. -/
theorem lt_of_lastKeyValue {m : SortedMap κ ν} {last entry : κ × ν}
    (found : m.lastKeyValue = some last) (mem : entry ∈ m.entries) (other : entry ≠ last) :
    entry.1 < last.1 := by
  obtain ⟨init, split⟩ := List.getLast?_eq_some_iff.mp found
  have sorted := m.sorted
  rw [split, List.pairwise_append] at sorted
  rw [split, List.mem_append, List.mem_singleton] at mem
  rcases mem with before | same
  · exact sorted.2.2 entry before last (List.mem_singleton_self last)
  · exact absurd same other

/-- Erasing the key of an entry removes at least that entry. -/
theorem size_erase_lt {m : SortedMap κ ν} {entry : κ × ν} (mem : entry ∈ m.entries) :
    (m.erase entry.1).size < m.size :=
  List.length_filter_lt_length_iff_exists.mpr ⟨entry, mem, by simp⟩

example : ((SortedMap.empty : SortedMap Nat Nat).insert 3 1 |>.insert 1 2 |>.insert 3 5).entries =
    [(1, 2), (3, 5)] := by decide

end SortedMap
