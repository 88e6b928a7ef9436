import LinkedSchema.OrderedMap

/-!
# Recency lists

A recency list is a list of entries, the most recently used first.  Using an entry moves it to
the front; an insertion beyond the capacity drops the entry at the back.
-/

namespace LinkedSchema.Recency

open OrderedMap (lookup)

variable {ν : Type}

/-- The entries without those at a key. -/
def erase (key : String) (entries : List (String × ν)) : List (String × ν) :=
  entries.filter fun entry => entry.1 ≠ key

/-- The entries with a value at the front, and without the entries beyond the capacity. -/
def push (capacity : Nat) (key : String) (value : ν) (entries : List (String × ν)) :
    List (String × ν) :=
  ((key, value) :: erase key entries).take capacity

/-- The entries with the one at a key moved to the front, if there is one. -/
def touch (key : String) (entries : List (String × ν)) : List (String × ν) :=
  match lookup key entries with
  | some value => (key, value) :: erase key entries
  | none => entries

theorem length_push_le (capacity : Nat) (key : String) (value : ν)
    (entries : List (String × ν)) :
  (push capacity key value entries).length ≤ capacity
  := by simp only [push, List.length_take]; exact Nat.min_le_left ..

/-- A use changes the order alone. -/
theorem lookup_touch (key other : String) (entries : List (String × ν)) :
  lookup other (touch key entries) = lookup other entries
  := by
  have erased : ∀ entries : List (String × ν), key ≠ other →
      lookup other (erase key entries) = lookup other entries := by
    intro entries distinct
    induction entries with
    | nil => rfl
    | cons entry rest ih =>
      obtain ⟨k, v⟩ := entry
      by_cases hk : k = key
      · subst hk
        have : erase k ((k, v) :: rest) = erase k rest := by simp [erase]
        rw [this, ih, lookup, if_neg distinct]
      · have : erase key ((k, v) :: rest) = (k, v) :: erase key rest := by simp [erase, hk]
        rw [this, lookup, lookup, ih]
  unfold touch
  split
  · next value found =>
    by_cases same : key = other
    · subst same
      simp [lookup, found]
    · rw [lookup, if_neg same, erased entries same]
  · rfl

end LinkedSchema.Recency
