import Mathlib.Data.List.Nodup

/-!
# First occurrences

`List.eraseDups` keeps the first occurrence of every member of a list.  No member of what is left
stands twice (`List.nodup_eraseDups`), and it does not matter whether members are left out before or
after (`List.eraseDups_filter`).
-/

namespace List

variable {α : Type} [DecidableEq α]

/-- No member stands twice among the first occurrences. -/
theorem nodup_eraseDups (list : List α) :
  list.eraseDups.Nodup
  := by
  match list with
  | [] => exact nodup_nil
  | a :: rest =>
    rw [eraseDups_cons, nodup_cons]
    constructor
    · simp
    · apply nodup_eraseDups
termination_by list.length
decreasing_by exact Nat.lt_succ_of_le (length_filter_le _ _)

/-- The first occurrences in a list are those in any order of it, in some order. -/
theorem Perm.eraseDups {list other : List α} (same : list.Perm other) :
  list.eraseDups.Perm other.eraseDups
  := by
  rw [perm_ext_iff_of_nodup (nodup_eraseDups list) (nodup_eraseDups other)]
  intro a
  rw [mem_eraseDups, mem_eraseDups, same.mem_iff]

/-- The first occurrences of some members are those members of the first occurrences. -/
theorem eraseDups_filter (p : α → Bool) (list : List α) :
  (list.filter p).eraseDups = list.eraseDups.filter p
  := by
  match list with
  | [] => rfl
  | a :: rest =>
    have smaller := eraseDups_filter p (rest.filter fun b => !b == a)
    rw [eraseDups_cons]
    by_cases holds : p a
    · rw [filter_cons_of_pos holds, filter_cons_of_pos holds, eraseDups_cons, ← smaller,
        filter_filter, filter_filter]
      simp only [Bool.and_comm]
    · -- Leaving out the members that are `a` changes nothing: `p` leaves them out anyway.
      rw [filter_cons_of_neg holds, filter_cons_of_neg holds, ← smaller, filter_filter]
      congr 1
      apply filter_congr
      intro b _
      by_cases same : b = a
      · simp [same, holds]
      · simp [same]
termination_by list.length
decreasing_by exact Nat.lt_succ_of_le (length_filter_le _ _)

/-- A member put at the front is the first occurrence, and the others stay in order. -/
theorem eraseDups_cons_eq (a : α) (list : List α) :
  (a :: list).eraseDups = a :: list.eraseDups.filter fun b => b ≠ a
  := by
  rw [eraseDups_cons, eraseDups_filter]
  congr 2
  funext b
  simp [Bool.beq_eq_decide_eq]

/-- The first ones of a list without one of its members can be found among one more of the
list. -/
theorem take_filter_take {list : List α} (distinct : list.Nodup) (a : α) (n : Nat) :
  ((list.take (n + 1)).filter fun b => b ≠ a).take n = (list.filter fun b => b ≠ a).take n
  := by
  induction list generalizing n with
  | nil => rfl
  | cons b rest ih =>
    rw [nodup_cons] at distinct
    cases n with
    | zero => rfl
    | succ n =>
      rw [take_succ_cons]
      by_cases same : b = a
      · subst same
        have others : ∀ c ∈ rest, decide (c ≠ b) = true := by
          intro c member
          apply decide_eq_true
          rintro rfl
          apply distinct.1 member
        have taken := fun c (member : c ∈ rest.take (n + 1)) => others c (mem_of_mem_take member)
        simp only [filter_cons, ne_eq, not_true, decide_false, Bool.false_eq_true, if_false]
        rw [filter_eq_self.mpr others, filter_eq_self.mpr taken, take_take, Nat.min_self]
      · have kept : decide (b ≠ a) = true := decide_eq_true same
        simp only [filter_cons, kept, if_true, take_succ_cons, ih distinct.2]

end List
