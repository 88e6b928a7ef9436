import LinkedSchema.Cache.Recency
import LinkedSchema.Proofs.OrderedMap

/-!
# Uses and insertions

A use of a key in a recency list keeps the entries, and an insertion adds one entry and may drop
others.  Neither makes a key stand twice.
-/

namespace LinkedSchema.Recency

open OrderedMap (lookup)

variable {ν : Type} {key : String} {entries : List (String × ν)}

/-- The keys without an entry are those other than its key. -/
theorem map_fst_erase (key : String) (entries : List (String × ν)) :
  (erase key entries).map Prod.fst = (entries.map Prod.fst).filter fun other => other ≠ key
  := by
  rw [erase, List.filter_map]
  rfl

theorem not_mem_map_fst_erase (key : String) (entries : List (String × ν)) :
  key ∉ (erase key entries).map Prod.fst
  := by simp [map_fst_erase]

/-- An entry put at the front of those at other keys makes no key stand twice. -/
theorem nodup_cons_erase (distinct : (entries.map Prod.fst).Nodup) (value : ν) :
  (((key, value) :: erase key entries).map Prod.fst).Nodup
  := by
  rw [List.map_cons, List.nodup_cons]
  use not_mem_map_fst_erase key entries
  rw [map_fst_erase]
  apply distinct.filter

/-! ### Uses -/

/-- A use adds no entry. -/
theorem mem_of_mem_touch {entry : String × ν} (h : entry ∈ touch key entries) :
  entry ∈ entries
  := by
  rw [touch] at h
  split at h
  · next value found =>
    rcases List.mem_cons.mp h with rfl | other
    · apply OrderedMap.mem_of_lookup found
    · apply List.mem_of_mem_filter other
  · apply h

/-- A use keeps the keys. -/
theorem mem_map_fst_touch_iff (key other : String) (entries : List (String × ν)) :
  other ∈ (touch key entries).map Prod.fst ↔ other ∈ entries.map Prod.fst
  := by
  rw [← OrderedMap.lookup_isSome_iff, ← OrderedMap.lookup_isSome_iff, lookup_touch]

/-- A use makes no key stand twice. -/
theorem nodup_touch (distinct : (entries.map Prod.fst).Nodup) (key : String) :
  ((touch key entries).map Prod.fst).Nodup
  := by
  rw [touch]
  split
  · apply nodup_cons_erase distinct
  · apply distinct

/-- A use makes a recency list no longer. -/
theorem length_touch_le (key : String) (entries : List (String × ν)) :
  (touch key entries).length ≤ entries.length
  := by
  rw [touch]
  split
  · next value found =>
    have shorter : (erase key entries).length < entries.length := by
      rw [erase, List.length_filter_lt_length_iff_exists]
      use (key, value), OrderedMap.mem_of_lookup found
      simp
    apply shorter
  · apply Nat.le_refl

/-! ### Insertions -/

/-- An entry after an insertion is the one inserted, or one at another key that was there. -/
theorem mem_of_mem_push {capacity : Nat} {value : ν} {entry : String × ν}
    (h : entry ∈ push capacity key value entries) :
  entry = (key, value) ∨ entry ∈ entries
  := by
  rcases List.mem_cons.mp (List.mem_of_mem_take h) with same | other
  · left
    apply same
  · right
    apply List.mem_of_mem_filter other

/-- An insertion makes no key stand twice. -/
theorem nodup_push (distinct : (entries.map Prod.fst).Nodup) (capacity : Nat) (value : ν) :
  ((push capacity key value entries).map Prod.fst).Nodup
  := by
  rw [push, List.map_take]
  apply (nodup_cons_erase distinct value).sublist (List.take_sublist _ _)

/-- If anything can be kept, what is inserted is. -/
theorem mem_push {capacity : Nat} (positive : 0 < capacity) (key : String) (value : ν)
    (entries : List (String × ν)) :
  (key, value) ∈ push capacity key value entries
  := by
  obtain ⟨n, rfl⟩ := Nat.exists_eq_succ_of_ne_zero (Nat.ne_of_gt positive)
  rw [push, List.take_succ_cons]
  apply List.mem_cons_self

end LinkedSchema.Recency
