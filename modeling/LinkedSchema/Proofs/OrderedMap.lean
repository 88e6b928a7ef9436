import LinkedSchema.OrderedMap
import LinkedSchema.Proofs.Pairing
import Mathlib.Data.List.Nodup

/-!
# Keys, values and places

The value at a key of an `OrderedMap` is that of an entry, and the place of a key is where an
entry with the key stands (`entryAt?_of_indexOf?`).  Inserting entries whose keys are new adds
them at the end (`entries_insertAll`), and inserting at a key that is there changes the value
of that entry alone (`put_of_lookup`).  Of several entries with one key, the map that is made of
them has the last value (`get?_ofList`).  A map registers values if each of them stands under its
own name and no name stands twice (`Registers`); insertions keep this (`Registers.insertAll`).
-/

namespace LinkedSchema.OrderedMap

variable {κ ν : Type} [DecidableEq κ]

/-! ### Values -/

/-- A value at a key is that of an entry with the key. -/
theorem mem_of_lookup {key : κ} {value : ν} {entries : List (κ × ν)}
    (h : lookup key entries = some value) :
  (key, value) ∈ entries
  := by
  induction entries with
  | nil => simp [lookup] at h
  | cons entry rest ih =>
    obtain ⟨k, v⟩ := entry
    rw [lookup] at h
    split at h
    · next same =>
      cases h
      simp [same]
    · apply List.mem_cons_of_mem
      apply ih h

/-- A key has a value if and only if it is the key of an entry. -/
theorem lookup_isSome_iff (key : κ) (entries : List (κ × ν)) :
  (lookup key entries).isSome ↔ key ∈ entries.map Prod.fst
  := by
  induction entries with
  | nil => simp [lookup]
  | cons entry rest ih =>
    obtain ⟨k, v⟩ := entry
    by_cases same : k = key
    · simp [lookup, same]
    · simp only [lookup, if_neg same, ih, List.map_cons, List.mem_cons, Ne.symm same, false_or]

/-- A key has no value if and only if it is not the key of an entry. -/
theorem lookup_eq_none_iff (key : κ) (entries : List (κ × ν)) :
  lookup key entries = none ↔ key ∉ entries.map Prod.fst
  := by
  rw [← lookup_isSome_iff]
  cases lookup key entries <;> simp

/-- If no key stands twice, the value of every entry is the value at its key. -/
theorem lookup_of_mem {entries : List (κ × ν)} (distinct : (entries.map Prod.fst).Nodup)
    {key : κ} {value : ν} (h : (key, value) ∈ entries) :
  lookup key entries = some value
  := by
  induction entries with
  | nil => simp at h
  | cons entry rest ih =>
    obtain ⟨k, v⟩ := entry
    rw [List.map_cons, List.nodup_cons] at distinct
    rcases List.mem_cons.mp h with same | later
    · cases same
      simp [lookup]
    · have other : k ≠ key := by
        rintro rfl
        apply distinct.1
        apply List.mem_map_of_mem later
      rw [lookup, if_neg other]
      apply ih distinct.2 later

theorem get?_eq_none_iff (m : OrderedMap κ ν) (key : κ) :
  m.get? key = none ↔ key ∉ m.keys
  := lookup_eq_none_iff key m.entries

/-- A key of a map at which there is a value is one of its keys. -/
theorem mem_keys_of_get? {m : OrderedMap κ ν} {key : κ} {value : ν}
    (h : m.get? key = some value) :
  key ∈ m.keys
  := List.mem_map_of_mem (mem_of_lookup h)

/-- A value at a key of a map is one of its values. -/
theorem mem_values_of_get? {m : OrderedMap κ ν} {key : κ} {value : ν}
    (h : m.get? key = some value) :
  value ∈ m.values
  := List.mem_map_of_mem (mem_of_lookup h)

/-- If no key stands twice, the values of a map are those at its keys. -/
theorem mem_values_iff {m : OrderedMap κ ν} (distinct : m.keys.Nodup) (value : ν) :
  value ∈ m.values ↔ ∃ key, m.get? key = some value
  := by
  constructor
  · intro member
    obtain ⟨⟨key, _⟩, entry, rfl⟩ := List.mem_map.mp member
    use key, lookup_of_mem distinct entry
  · rintro ⟨key, found⟩
    apply mem_values_of_get? found

/-! ### Places -/

/-- The place of a key is that of an entry with its value. -/
theorem place_eq_some {key : κ} {entries : List (κ × ν)} {start index : Nat}
    (h : place key entries start = some index) :
  ∃ value, start ≤ index ∧ entries[index - start]? = some (key, value)
    ∧ lookup key entries = some value
  := by
  induction entries generalizing start with
  | nil => simp [place] at h
  | cons entry rest ih =>
    obtain ⟨k, v⟩ := entry
    by_cases same : k = key
    · subst same
      rw [place, if_pos rfl] at h
      cases h
      simp [lookup]
    · rw [place, if_neg same] at h
      obtain ⟨value, later, found, seen⟩ := ih h
      have next : index - start = (index - (start + 1)) + 1 := by omega
      rw [next, lookup, if_neg same]
      use value, by omega, found, seen

/-- A key has a place if and only if it is the key of an entry. -/
theorem place_isSome_iff (key : κ) (entries : List (κ × ν)) (start : Nat) :
  (place key entries start).isSome ↔ key ∈ entries.map Prod.fst
  := by
  induction entries generalizing start with
  | nil => simp [place]
  | cons entry rest ih =>
    obtain ⟨k, v⟩ := entry
    by_cases same : k = key
    · simp [place, same]
    · simp only [place, if_neg same, ih, List.map_cons, List.mem_cons, Ne.symm same, false_or]

/-- At the place of a key stands the key with its value. -/
theorem entryAt?_of_indexOf? {m : OrderedMap κ ν} {key : κ} {index : Nat}
    (h : m.indexOf? key = some index) :
  ∃ value, m.entryAt? index = some (key, value) ∧ m.get? key = some value
  := by
  obtain ⟨value, -, found, seen⟩ := place_eq_some h
  use value, found, seen

theorem indexOf?_isSome_iff (m : OrderedMap κ ν) (key : κ) :
  (m.indexOf? key).isSome ↔ key ∈ m.keys
  := place_isSome_iff key m.entries 0

/-- A key without a place has no value. -/
theorem get?_eq_none_of_indexOf? {m : OrderedMap κ ν} {key : κ} (h : m.indexOf? key = none) :
  m.get? key = none
  := by
  rw [get?_eq_none_iff, ← indexOf?_isSome_iff, h]
  exact Bool.false_ne_true

/-- Keys with the same place are the same. -/
theorem eq_of_indexOf? {m : OrderedMap κ ν} {key other : κ} {index : Nat}
    (h : m.indexOf? key = some index) (h' : m.indexOf? other = some index) :
  key = other
  := by
  obtain ⟨_, found, -⟩ := entryAt?_of_indexOf? h
  obtain ⟨_, found', -⟩ := entryAt?_of_indexOf? h'
  rw [found] at found'
  cases found'
  rfl

/-- If no key stands twice, the place of a key is where an entry with the key stands. -/
theorem indexOf?_eq_some_iff {m : OrderedMap κ ν} (distinct : m.keys.Nodup) (key : κ)
    (index : Nat) :
  m.indexOf? key = some index ↔ ∃ value, m.entryAt? index = some (key, value)
  := by
  constructor
  · intro h
    obtain ⟨value, found, -⟩ := entryAt?_of_indexOf? h
    use value, found
  · rintro ⟨value, found⟩
    have member : key ∈ m.keys := List.mem_map_of_mem (List.mem_of_getElem? found)
    obtain ⟨place, placed⟩ := Option.isSome_iff_exists.mp
      ((indexOf?_isSome_iff m key).mpr member)
    obtain ⟨other, found', -⟩ := entryAt?_of_indexOf? placed
    have at_index : m.keys[index]? = some key := by
      rw [keys, List.getElem?_map, ← entryAt?, found]
      rfl
    have at_place : m.keys[place]? = some key := by
      rw [keys, List.getElem?_map, ← entryAt?, found']
      rfl
    have in_range : place < m.keys.length := (List.getElem?_eq_some_iff.mp at_place).1
    rw [placed, (List.getElem?_inj in_range distinct).mp (at_place.trans at_index.symm)]

/-! ### Insertions -/

/-- An entry after an insertion is the one inserted, or was there before. -/
theorem mem_put {key : κ} {value : ν} {entries : List (κ × ν)} {entry : κ × ν}
    (h : entry ∈ put key value entries) :
  entry = (key, value) ∨ entry ∈ entries
  := by
  induction entries with
  | nil => simpa [put] using h
  | cons first rest ih =>
    obtain ⟨k, v⟩ := first
    rw [put] at h
    split at h
    · rcases List.mem_cons.mp h with same | later
      · left; apply same
      · right; apply List.mem_cons_of_mem _ later
    · rcases List.mem_cons.mp h with same | later
      · right; simp [same]
      · rcases ih later with same | before
        · left; apply same
        · right; apply List.mem_cons_of_mem _ before

/-- An insertion at a key that is new to the first of some entries leaves these alone. -/
theorem put_append {key : κ} {first : List (κ × ν)} (h : key ∉ first.map Prod.fst) (value : ν)
    (rest : List (κ × ν)) :
  put key value (first ++ rest) = first ++ put key value rest
  := by
  induction first with
  | nil => rfl
  | cons entry first ih =>
    obtain ⟨k, v⟩ := entry
    rw [List.map_cons, List.mem_cons, not_or] at h
    rw [List.cons_append, put, if_neg (Ne.symm h.1), ih h.2]
    rfl

/-- An insertion at a new key adds an entry at the end. -/
theorem put_of_not_mem {key : κ} {value : ν} {entries : List (κ × ν)}
    (h : key ∉ entries.map Prod.fst) :
  put key value entries = entries ++ [(key, value)]
  := by
  have added := put_append h value []
  rw [List.append_nil] at added
  apply added

/-- An insertion at a key that is there changes the value of that entry alone. -/
theorem put_of_lookup {key : κ} {old : ν} {entries : List (κ × ν)}
    (h : lookup key entries = some old) :
  ∃ before after, entries = before ++ (key, old) :: after
    ∧ ∀ value, put key value entries = before ++ (key, value) :: after
  := by
  induction entries with
  | nil => simp [lookup] at h
  | cons entry rest ih =>
    obtain ⟨k, v⟩ := entry
    rw [lookup] at h
    split at h
    · next same =>
      cases h
      subst same
      use [], rest, rfl
      intro value
      rw [put, if_pos rfl]
      rfl
    · next other =>
      obtain ⟨before, after, split, inserted⟩ := ih h
      use (k, v) :: before, after
      constructor
      · rw [split]
        rfl
      · intro value
        rw [put, if_neg other, inserted]
        rfl

/-- An insertion of the value that is there already leaves a map as it is. -/
theorem insert_of_get? {m : OrderedMap κ ν} {key : κ} {value : ν}
    (h : m.get? key = some value) :
  m.insert key value = m
  := by
  obtain ⟨before, after, split, inserted⟩ := put_of_lookup h
  rw [insert, inserted, ← split]

/-- An entry after insertions is one of those inserted, or was there before. -/
theorem mem_insertAll {m : OrderedMap κ ν} {added : List (κ × ν)} {entry : κ × ν}
    (h : entry ∈ (m.insertAll added).entries) :
  entry ∈ m.entries ∨ entry ∈ added
  := by
  induction added generalizing m with
  | nil => left; apply h
  | cons first rest ih =>
    rcases ih h with before | later
    · rcases mem_put before with same | before
      · right; simp [same]
      · left; apply before
    · right; apply List.mem_cons_of_mem _ later

/-- The value at a key of a list of entries and then another is that of the first one, if it has
one. -/
theorem lookup_append (key : κ) (entries more : List (κ × ν)) :
  lookup key (entries ++ more) = (lookup key entries).or (lookup key more)
  := by
  induction entries with
  | nil => rfl
  | cons entry rest ih =>
    rw [List.cons_append, lookup, lookup, ih]
    split <;> rfl

/-- After insertions a key has the last value inserted at it, if there is one. -/
theorem get?_insertAll (m : OrderedMap κ ν) (added : List (κ × ν)) (key : κ) :
  (m.insertAll added).get? key = (lookup key added.reverse).or (m.get? key)
  := by
  induction added generalizing m with
  | nil => rfl
  | cons entry rest ih =>
    obtain ⟨k, v⟩ := entry
    apply (ih (m.insert k v)).trans
    rw [List.reverse_cons, lookup_append, Option.or_assoc, get?_insert]
    congr 1
    by_cases same : k = key
    · simp [lookup, same]
    · simp [lookup, same, Ne.symm same]

/-- The map of a list of entries has the last value of a key. -/
theorem get?_ofList (entries : List (κ × ν)) (key : κ) :
  (ofList entries).get? key = lookup key entries.reverse
  := by
  apply (get?_insertAll empty entries key).trans
  apply Option.or_none

/-- The last value of a key that stands once at most is the first one. -/
theorem lookup_reverse {entries : List (κ × ν)} {key : κ}
    (once : (entries.map Prod.fst).count key ≤ 1) :
  lookup key entries.reverse = lookup key entries
  := by
  induction entries with
  | nil => rfl
  | cons entry rest ih =>
    obtain ⟨k, v⟩ := entry
    rw [List.map_cons, List.count_cons] at once
    rw [List.reverse_cons, lookup_append, lookup]
    split
    · next same =>
      have none_later : key ∉ rest.reverse.map Prod.fst := by
        simp only [same, beq_self_eq_true, if_true] at once
        rw [List.map_reverse, List.mem_reverse, ← List.count_eq_zero]
        omega
      rw [(lookup_eq_none_iff key _).mpr none_later, lookup, if_pos same]
      rfl
    · next other =>
      have later := ih (by omega)
      simp only [lookup, if_neg other, Option.or_none, later]

/-- Insertions at new keys add their entries at the end. -/
theorem entries_insertAll {m : OrderedMap κ ν} {added : List (κ × ν)}
    (distinct : (added.map Prod.fst).Nodup)
    (new : ∀ key ∈ added.map Prod.fst, key ∉ m.keys) :
  (m.insertAll added).entries = m.entries ++ added
  := by
  induction added generalizing m with
  | nil => exact (List.append_nil _).symm
  | cons first rest ih =>
    obtain ⟨key, value⟩ := first
    rw [List.map_cons, List.nodup_cons] at distinct
    have inserted : (m.insert key value).entries = m.entries ++ [(key, value)] :=
      put_of_not_mem (new key (by simp))
    have rest_new : ∀ other ∈ rest.map Prod.fst, other ∉ (m.insert key value).keys := by
      intro other later
      have different : other ≠ key := by
        rintro rfl
        apply distinct.1 later
      rw [keys, inserted, List.map_append, List.mem_append, not_or]
      constructor
      · apply new other (List.mem_cons_of_mem _ later)
      · simpa using different
    have all := ih distinct.2 rest_new
    rw [inserted, List.append_assoc] at all
    apply all

/-- Insertions at keys that are new to a map add at the end what they make of no entries; a key
may stand among them twice. -/
theorem entries_insertAll_eq {m : OrderedMap κ ν} {added : List (κ × ν)}
    (new : ∀ key ∈ added.map Prod.fst, key ∉ m.keys) :
  (m.insertAll added).entries = m.entries ++ (ofList added).entries
  := by
  -- The induction is on what is inserted, so that entries have been added to both sides.
  have after (rest : List (κ × ν)) : (insertAll ⟨m.entries ++ rest⟩ added).entries
      = m.entries ++ (insertAll ⟨rest⟩ added).entries := by
    induction added generalizing rest with
    | nil => rfl
    | cons entry added ih =>
      obtain ⟨here, there⟩ := List.forall_mem_cons.mp new
      have inserted := put_append here entry.2 rest
      apply Eq.trans _ (ih there (put entry.1 entry.2 rest))
      rw [← inserted]
      rfl
  have none := after []
  rw [List.append_nil] at none
  apply none

/-! ### Tables of nodes -/

section Tabulates

variable {α : Type} {name : α → String} {describes : α → ν → Prop} {m : OrderedMap String ν}
  {nodes : List α}

/-- Whether the entries of a map are those of nodes, one for each of them and in their order: its
key is the name of the node, and its value is described by the node. -/
def Tabulates (name : α → String) (describes : α → ν → Prop) (m : OrderedMap String ν)
    (nodes : List α) : Prop :=
  List.Forall₂ (fun entry node => entry.1 = name node ∧ describes node entry.2) m.entries nodes

/-- The keys of a table are the names of its nodes. -/
theorem Tabulates.keys_eq (h : m.Tabulates name describes nodes) :
  m.keys = nodes.map name
  := by
  apply h.map_eq
  intro entry node same
  apply same.1

/-- An insertion at the name of a node that is new adds the node at the end. -/
theorem Tabulates.insert (h : m.Tabulates name describes nodes) {node : α} {value : ν}
    (new : name node ∉ m.keys) (described : describes node value) :
  (m.insert (name node) value).Tabulates name describes (nodes ++ [node])
  := by
  rw [Tabulates, OrderedMap.insert, put_of_not_mem new]
  apply List.rel_append h
  exact .cons ⟨rfl, described⟩ .nil

/-- A value at a key is that of a node with the key for a name. -/
theorem Tabulates.exists_node (h : m.Tabulates name describes nodes) {key : String} {value : ν}
    (found : m.get? key = some value) :
  ∃ node ∈ nodes, name node = key ∧ describes node value
  := by
  obtain ⟨node, member, same, described⟩ := h.exists_right (mem_of_lookup found)
  exact ⟨node, member, same.symm, described⟩

/-- Every node has a value that it describes. -/
theorem Tabulates.exists_value (h : m.Tabulates name describes nodes) {node : α}
    (member : node ∈ nodes) :
  ∃ value ∈ m.values, describes node value
  := by
  obtain ⟨entry, entry_member, -, described⟩ := h.exists_left member
  exact ⟨entry.2, List.mem_map_of_mem entry_member, described⟩

/-- If no name stands twice, every node has a value at its name. -/
theorem Tabulates.exists_get? (h : m.Tabulates name describes nodes) (distinct : m.keys.Nodup)
    {node : α} (member : node ∈ nodes) :
  ∃ value, m.get? (name node) = some value ∧ describes node value
  := by
  obtain ⟨⟨key, value⟩, entry, same, described⟩ := h.exists_left member
  cases same
  use value, lookup_of_mem distinct entry

/-- What is said of all values of a table is said of all nodes, if it is the same for a node and a
value that it describes. -/
theorem Tabulates.forall_values_iff (h : m.Tabulates name describes nodes) {p : ν → Prop}
    {q : α → Prop} (agree : ∀ node value, describes node value → (p value ↔ q node)) :
  (∀ value ∈ m.values, p value) ↔ ∀ node ∈ nodes, q node
  := by
  rw [values, List.forall_mem_map]
  apply h.forall_iff
  intro entry node same
  apply agree node entry.2 same.2

end Tabulates

/-! ### Tables of named values -/

/-- An insertion makes no key stand twice. -/
theorem nodup_keys_insert {m : OrderedMap κ ν} (distinct : m.keys.Nodup) (key : κ) (value : ν) :
  (m.insert key value).keys.Nodup
  := by
  rw [keys_insert]
  split
  · apply distinct
  · next new =>
    rw [← List.concat_eq_append, List.nodup_concat]
    exact ⟨new, distinct⟩

/-- Insertions make no key stand twice. -/
theorem nodup_keys_insertAll {m : OrderedMap κ ν} (distinct : m.keys.Nodup)
    (added : List (κ × ν)) :
  (m.insertAll added).keys.Nodup
  := by
  induction added generalizing m with
  | nil => apply distinct
  | cons entry rest ih => apply ih (nodup_keys_insert distinct entry.1 entry.2)

/-- The map of entries of which no two have the same key has these entries. -/
theorem ofList_of_nodup {entries : List (κ × ν)} (distinct : (entries.map Prod.fst).Nodup) :
  ofList entries = ⟨entries⟩
  := by
  have same := entries_insertAll (m := empty) distinct (by simp [keys, empty])
  exact congrArg mk same

/-- The map of the entries of the map of some entries is that map. -/
theorem ofList_entries_ofList (entries : List (κ × ν)) :
  ofList (ofList entries).entries = ofList entries
  := ofList_of_nodup (nodup_keys_insertAll (m := empty) List.nodup_nil entries)

/-- Whether every value of a map stands under its own name, no name stands twice, and all values
have a property. -/
structure Registers (name : ν → String) (p : ν → Prop) (m : OrderedMap String ν) : Prop where
  distinct : m.keys.Nodup
  named : ∀ entry ∈ m.entries, entry.1 = name entry.2
  all : ∀ entry ∈ m.entries, p entry.2

section Registers

variable {name : ν → String} {p : ν → Prop} {m added : OrderedMap String ν}

theorem Registers.empty :
  (OrderedMap.empty : OrderedMap String ν).Registers name p
  where
  distinct := List.nodup_nil
  named := nofun
  all := nofun

theorem Registers.of_mem (h : m.Registers name p) {key : String} {value : ν}
    (member : (key, value) ∈ m.entries) :
  name value = key ∧ p value
  := ⟨(h.named _ member).symm, h.all _ member⟩

/-- An insertion of a value under its own name keeps the names. -/
theorem Registers.insert (h : m.Registers name p) {value : ν} (holds : p value) :
  (m.insert (name value) value).Registers name p
  where
  distinct := nodup_keys_insert h.distinct _ _
  named entry member := by
    rcases mem_put member with rfl | before
    · rfl
    · apply h.named entry before
  all entry member := by
    rcases mem_put member with rfl | before
    · apply holds
    · apply h.all entry before

/-- Insertions of values under their own names keep the names. -/
theorem Registers.insertAll (h : m.Registers name p) (h' : added.Registers name p) :
  (m.insertAll added.entries).Registers name p
  := by
  have named := h'.named
  have all := h'.all
  generalize added.entries = entries at named all
  induction entries generalizing m with
  | nil => apply h
  | cons entry rest ih =>
    obtain ⟨key, value⟩ := entry
    rw [List.forall_mem_cons] at named all
    obtain ⟨rfl : key = name value, rest_named⟩ := named
    apply ih (h.insert all.1) rest_named all.2

/-- A value stands at the place of its name and nowhere else. -/
theorem Registers.indexOf?_iff (h : m.Registers name p) (key : String) (index : Nat) :
  m.indexOf? key = some index
    ↔ ∃ value, (m.entryAt? index).map Prod.snd = some value ∧ name value = key
  := by
  rw [indexOf?_eq_some_iff h.distinct]
  constructor
  · rintro ⟨value, found⟩
    use value
    rw [found]
    exact ⟨rfl, (h.named _ (List.mem_of_getElem? found)).symm⟩
  · rintro ⟨value, found, rfl⟩
    obtain ⟨⟨key, _⟩, entry, rfl⟩ := Option.map_eq_some_iff.mp found
    rw [← h.named _ (List.mem_of_getElem? entry)]
    exact ⟨_, entry⟩

end Registers

end LinkedSchema.OrderedMap
