/-
# `StringMap`

The settings handshake and the padding scheme are both carried as `key=value`
lines. `StringMap::from_bytes` decodes the bytes lossily, splits them into lines,
splits each line at its first `=` and trims both sides; a later line overrides an
earlier one with the same key, as `HashMap::insert` does.
-/

import AnyTls.Library.RustText

namespace AnyTls

/-- `StringMap`: the `HashMap<String, String>` as a finite map with unique keys. -/
structure StringMap where
  map : AList (fun _ : List Char => List Char)

namespace StringMap

/-- `StringMap::new`. -/
def new : StringMap := ⟨∅⟩

/-- `StringMap::insert`: replaces an existing value. -/
def insert (m : StringMap) (key value : List Char) : StringMap := ⟨m.map.insert key value⟩

/-- `StringMap::get`. -/
def get (m : StringMap) (key : List Char) : Option (List Char) := m.map.lookup key

/-- `StringMap::to_bytes`: `key=value` lines joined with `\n`. A `HashMap` fixes no
iteration order; the model iterates in the order of its entries. -/
def toBytes (m : StringMap) : List UInt8 :=
  RustText.intoBytes ("\n".toList.intercalate (m.map.entries.map fun entry =>
    entry.1 ++ '=' :: entry.2))

/-- One line of `StringMap::from_bytes`: a line with an `=` inserts its trimmed
halves, any other line is skipped. -/
def insertLine (m : StringMap) (line : List Char) : StringMap :=
  match RustText.splitOnce '=' line with
  | some (key, value) => m.insert (RustText.trim key) (RustText.trim value)
  | none => m

/-- `StringMap::from_bytes`. -/
def fromBytes (data : List UInt8) : StringMap :=
  (RustText.lines (RustText.fromUtf8Lossy data)).foldl insertLine new

@[simp]
theorem get_insert (m : StringMap) (key value : List Char) :
    (m.insert key value).get key = some value := AList.lookup_insert _

theorem get_insert_ne (m : StringMap) {key other : List Char} (value : List Char)
    (different : other ≠ key) : (m.insert key value).get other = m.get other :=
  AList.lookup_insert_ne different

/-! ### Round trips

`to_bytes` writes one `key=value` line per entry and `from_bytes` reads each line
back through `lines`, `split_once` and `trim`. An entry survives that exactly when
its line is a line (no line feed on either side), splits at the right `=` (none in
the key) and is left alone by `trim`. -/

/-- The line `to_bytes` writes for an entry reads back as the same entry: the key
has no `=`, neither side has a line feed, and neither has whitespace at its ends. -/
def EntryRoundTrips (key value : List Char) : Prop :=
  '=' ∉ key ∧ '\n' ∉ key ∧ RustText.trim key = key ∧ '\n' ∉ value ∧ RustText.trim value = value

instance (key value : List Char) : Decidable (EntryRoundTrips key value) :=
  inferInstanceAs (Decidable (_ ∧ _ ∧ _ ∧ _ ∧ _))

/-- Every entry of the map round-trips. -/
def Serialisable (m : StringMap) : Prop :=
  ∀ entry ∈ m.map.entries, EntryRoundTrips entry.1 entry.2

instance : DecidablePred Serialisable := fun m =>
  inferInstanceAs (Decidable (∀ entry ∈ m.map.entries, EntryRoundTrips entry.1 entry.2))

theorem insertLine_of_roundTrips {key value : List Char} (ok : EntryRoundTrips key value)
    (m : StringMap) : m.insertLine (key ++ '=' :: value) = m.insert key value := by
  obtain ⟨noEquals, -, keyTrimmed, -, valueTrimmed⟩ := ok
  simp [insertLine, RustText.splitOnce_append noEquals, keyTrimmed, valueTrimmed]

/-- A written line never ends in a carriage return, which `lines` would strip: it
ends in the `=` or in the value's last character, which is no whitespace. -/
theorem line_getLast?_ne_return {key value : List Char} (ok : EntryRoundTrips key value) :
    (key ++ '=' :: value).getLast? ≠ some '\r' := by
  rw [List.getLast?_append_of_ne_nil _ (List.cons_ne_nil _ _)]
  cases value with
  | nil => simp
  | cons first rest =>
    intro last
    have lastKept := RustText.trim_getLast? (first :: rest)
    rw [ok.2.2.2.2] at lastKept
    rw [List.getLast?_cons_cons] at last
    exact absurd (lastKept '\r' last) (by decide)

/-- Reading back the lines of distinct round-tripping entries on top of `acc`:
each key looks up its entry, any other key what it had in `acc`. -/
theorem get_foldl_insertLine {entries : List (Sigma fun _ : List Char => List Char)}
    (distinct : entries.NodupKeys) (ok : ∀ entry ∈ entries, EntryRoundTrips entry.1 entry.2)
    (acc : StringMap) (key : List Char) :
    ((entries.map fun entry => entry.1 ++ '=' :: entry.2).foldl insertLine acc).get key =
      (entries.dlookup key).or (acc.get key) := by
  induction entries generalizing acc with
  | nil => simp
  | cons entry rest ih =>
    rw [List.forall_mem_cons] at ok
    rw [List.nodupKeys_cons] at distinct
    rw [List.map_cons, List.foldl_cons, insertLine_of_roundTrips ok.1, ih distinct.2 ok.2]
    by_cases same : key = entry.1
    · -- the later lines hold no other entry for this key
      subst same
      rw [List.dlookup_eq_none.mpr distinct.1, get_insert, List.dlookup_cons_eq]
      rfl
    · rw [get_insert_ne _ _ same, List.dlookup_cons_ne _ _ same]

/-- `from_bytes` reads back what `to_bytes` wrote, in whatever order the entries
are iterated: the model writes them in the order of its entries, and the
statement holds for every map, so for every order. -/
theorem get_fromBytes_toBytes (m : StringMap) (ok : m.Serialisable) :
    (fromBytes (toBytes m)).get = m.get := by
  funext key
  have readLines : RustText.lines (RustText.fromUtf8Lossy (toBytes m)) =
      m.map.entries.map fun entry => entry.1 ++ '=' :: entry.2 := by
    rw [toBytes, RustText.fromUtf8Lossy_intoBytes]
    apply RustText.lines_intercalate
    · simp only [List.mem_map, forall_exists_index, and_imp, forall_apply_eq_imp_iff₂]
      intro entry mem
      simpa [(ok entry mem).2.1] using (ok entry mem).2.2.2.1
    · simp only [List.mem_map]
      rintro piece ⟨entry, -, rfl⟩
      simp
    · simp only [List.mem_map, forall_exists_index, and_imp, forall_apply_eq_imp_iff₂]
      exact fun entry mem => line_getLast?_ne_return (ok entry mem)
  rw [fromBytes, readLines, get_foldl_insertLine m.map.nodupKeys ok]
  simp [get, new, AList.lookup]

theorem serialisable_insertLine {m : StringMap} {line : List Char} (ok : m.Serialisable)
    (noNewline : '\n' ∉ line) : (m.insertLine line).Serialisable := by
  unfold insertLine
  split
  · rename_i key value split
    obtain ⟨rfl, noEquals⟩ := RustText.eq_of_splitOnce split
    have within := fun c (mem : c ∈ RustText.trim key) => (RustText.trim_sublist key).subset mem
    have within' := fun c (mem : c ∈ RustText.trim value) => (RustText.trim_sublist value).subset mem
    intro entry mem
    rw [insert, AList.entries_insert, List.mem_cons] at mem
    rcases mem with rfl | mem
    · refine ⟨fun eq => noEquals (within _ eq), fun nl => noNewline (by simp [within _ nl]),
        RustText.trim_trim key, fun nl => noNewline (by simp [within' _ nl]),
        RustText.trim_trim value⟩
    · exact ok entry ((List.kerase_sublist _ _).subset mem)
  · exact ok

theorem serialisable_foldl_insertLine {lines : List (List Char)}
    (noNewline : ∀ line ∈ lines, '\n' ∉ line) :
    ∀ {acc : StringMap}, acc.Serialisable → (lines.foldl insertLine acc).Serialisable := by
  induction lines with
  | nil => exact id
  | cons line rest ih =>
    rw [List.forall_mem_cons] at noNewline
    exact fun ok => ih noNewline.2 (serialisable_insertLine ok noNewline.1)

/-- Whatever `from_bytes` reads round-trips. -/
theorem serialisable_fromBytes (data : List UInt8) : (fromBytes data).Serialisable :=
  serialisable_foldl_insertLine (fun _ mem => RustText.newline_not_mem_lines mem)
    (fun _ mem => by simp [new] at mem)

/-- `StringMap` serialisation round-trips, in the sense of `HashMap` equality
(the same value under every key): what `from_bytes` reads survives `to_bytes`
and `from_bytes` again, and so does every map of round-tripping entries. -/
theorem toBytes_round_trips :
    (∀ data : List UInt8, (fromBytes (toBytes (fromBytes data))).get = (fromBytes data).get) ∧
    ∀ m : StringMap, m.Serialisable → (fromBytes (toBytes m)).get = m.get :=
  ⟨fun data => get_fromBytes_toBytes _ (serialisable_fromBytes data), get_fromBytes_toBytes⟩

theorem serialisable_new : new.Serialisable := fun _ mem => absurd mem List.not_mem_nil

theorem serialisable_insert {m : StringMap} {key value : List Char} (ok : m.Serialisable)
    (roundTrips : EntryRoundTrips key value) : (m.insert key value).Serialisable := by
  intro entry mem
  rw [insert, AList.entries_insert, List.mem_cons] at mem
  rcases mem with rfl | mem
  · exact roundTrips
  · exact ok entry ((List.kerase_sublist _ _).subset mem)

/-- Inserting distinct entries one after another on top of `acc`: each key looks
up its entry, any other key what it had in `acc`. -/
theorem get_foldl_insert {entries : List (Sigma fun _ : List Char => List Char)}
    (distinct : entries.NodupKeys) (acc : StringMap) (key : List Char) :
    (entries.foldl (fun m entry => m.insert entry.1 entry.2) acc).get key =
      (entries.dlookup key).or (acc.get key) := by
  induction entries generalizing acc with
  | nil => simp
  | cons entry rest ih =>
    rw [List.nodupKeys_cons] at distinct
    rw [List.foldl_cons, ih distinct.2]
    by_cases same : key = entry.1
    · subst same
      rw [List.dlookup_eq_none.mpr distinct.1, get_insert, List.dlookup_cons_eq]
      rfl
    · rw [get_insert_ne _ _ same, List.dlookup_cons_ne _ _ same]

theorem serialisable_foldl_insert {entries : List (Sigma fun _ : List Char => List Char)}
    (ok : ∀ entry ∈ entries, EntryRoundTrips entry.1 entry.2) :
    ∀ {acc : StringMap}, acc.Serialisable →
      (entries.foldl (fun m entry => m.insert entry.1 entry.2) acc).Serialisable := by
  induction entries with
  | nil => exact id
  | cons entry rest ih =>
    rw [List.forall_mem_cons] at ok
    exact fun accOk => ih ok.2 (serialisable_insert accOk ok.1)

/-- No bytes hold no setting. -/
@[simp]
theorem get_fromBytes_nil (key : List Char) : (fromBytes []).get key = none := rfl

theorem settings_round_trip :
    (new.insert "v".toList "2".toList).Serialisable ∧
      (fromBytes (toBytes (new.insert "v".toList "2".toList))).get =
        (new.insert "v".toList "2".toList).get :=
  ⟨by decide, toBytes_round_trips.2 _ (by decide)⟩

end StringMap

end AnyTls
