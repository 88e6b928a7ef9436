/-!
# Ordered maps

`OrderedMap κ ν` is a map kept as the list of its entries, in the order in which the keys
were first inserted.  Inserting at a key that is present replaces the value and keeps the
place of the key.  The view of a map is `OrderedMap.get?`; `OrderedMap.get?_insert` says
what an insertion does to it, and `OrderedMap.keys_insert` what it does to the order.
-/

namespace LinkedSchema

/-- A map that remembers the order in which its keys were first inserted. -/
structure OrderedMap (κ ν : Type) where
  entries : List (κ × ν)
deriving DecidableEq

namespace OrderedMap

variable {κ ν : Type} [DecidableEq κ]

/-- The map without entries. -/
def empty : OrderedMap κ ν := ⟨[]⟩

instance : Inhabited (OrderedMap κ ν) := ⟨empty⟩

/-- The keys, in order of first insertion. -/
def keys (m : OrderedMap κ ν) : List κ := m.entries.map Prod.fst

/-- The values, in the order of their keys. -/
def values (m : OrderedMap κ ν) : List ν := m.entries.map Prod.snd

/-- The number of entries. -/
def size (m : OrderedMap κ ν) : Nat := m.entries.length

/-- The value at a key of a list of entries. -/
def lookup (key : κ) : List (κ × ν) → Option ν
  | [] => none
  | (k, v) :: rest => if k = key then some v else lookup key rest

/-- The value at `key`, if there is one. -/
def get? (m : OrderedMap κ ν) (key : κ) : Option ν := lookup key m.entries

/-- Whether `key` has a value. -/
def contains (m : OrderedMap κ ν) (key : κ) : Bool := (m.get? key).isSome

/-- A list of entries with `value` at `key`: in the place of the key if it is there, and at
the end otherwise. -/
def put (key : κ) (value : ν) : List (κ × ν) → List (κ × ν)
  | [] => [(key, value)]
  | (k, v) :: rest =>
    if k = key then (key, value) :: rest else (k, v) :: put key value rest

/-- The map with `value` at `key`. -/
def insert (m : OrderedMap κ ν) (key : κ) (value : ν) : OrderedMap κ ν :=
  ⟨put key value m.entries⟩

/-- The map with all of `entries` inserted, one after another. -/
def insertAll (m : OrderedMap κ ν) (entries : List (κ × ν)) : OrderedMap κ ν :=
  entries.foldl (fun table entry => table.insert entry.1 entry.2) m

/-- The map of a list of entries; a repeated key keeps its first place and its last value. -/
def ofList (entries : List (κ × ν)) : OrderedMap κ ν := empty.insertAll entries

/-- The place of a key in a list of entries, counted from `start`. -/
def place (key : κ) : List (κ × ν) → Nat → Option Nat
  | [], _ => none
  | (k, _) :: rest, start => if k = key then some start else place key rest (start + 1)

/-- The place of `key` in the order of insertion. -/
def indexOf? (m : OrderedMap κ ν) (key : κ) : Option Nat := place key m.entries 0

/-- The entry at a place in the order of insertion. -/
def entryAt? (m : OrderedMap κ ν) (index : Nat) : Option (κ × ν) := m.entries[index]?

/-! ### The view -/

theorem lookup_put (key other : κ) (value : ν) (entries : List (κ × ν)) :
  lookup other (put key value entries)
    = if other = key then some value else lookup other entries
  := by
  induction entries with
  | nil => simp [put, lookup, eq_comm]
  | cons entry rest ih =>
    obtain ⟨k, v⟩ := entry
    by_cases hk : k = key
    · subst hk
      by_cases ho : k = other
      · simp [put, lookup, ho]
      · simp [put, lookup, ho, Ne.symm ho]
    · by_cases ho : k = other
      · subst ho
        simp [put, lookup, hk]
      · simp [put, lookup, hk, ho, ih]

/-- An insertion is seen at its key and nowhere else. -/
theorem get?_insert (m : OrderedMap κ ν) (key other : κ) (value : ν) :
  (m.insert key value).get? other = if other = key then some value else m.get? other
  := lookup_put key other value m.entries

theorem map_fst_put (key : κ) (value : ν) (entries : List (κ × ν)) :
  (put key value entries).map Prod.fst
    = if key ∈ entries.map Prod.fst then entries.map Prod.fst
      else entries.map Prod.fst ++ [key]
  := by
  induction entries with
  | nil => simp [put]
  | cons entry rest ih =>
    obtain ⟨k, v⟩ := entry
    by_cases hk : k = key
    · simp [put, hk]
    · by_cases hr : key ∈ rest.map Prod.fst
      · rw [if_pos hr] at ih
        simp only [put, hk, if_false, List.map_cons, ih]
        rw [if_pos (List.mem_cons_of_mem _ hr)]
      · rw [if_neg hr] at ih
        simp only [put, hk, if_false, List.map_cons, ih]
        rw [if_neg (by simp only [List.mem_cons, not_or]; exact ⟨Ne.symm hk, hr⟩)]
        rfl

/-- An insertion keeps the order of the keys and adds a new key at the end. -/
theorem keys_insert (m : OrderedMap κ ν) (key : κ) (value : ν) :
  (m.insert key value).keys = if key ∈ m.keys then m.keys else m.keys ++ [key]
  := map_fst_put key value m.entries

end OrderedMap

end LinkedSchema
