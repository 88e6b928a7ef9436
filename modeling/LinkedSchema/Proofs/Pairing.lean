import Mathlib.Data.List.Forall2

/-!
# Paired lists

Two lists are paired by a relation if they are equally long and it holds between the members in
the same places.  Such lists have the same images under functions that agree on related members
(`List.Forall₂.map_eq`, `List.Forall₂.flatMap_eq`), and every member of one has a partner in the
other.
-/

namespace List.Forall₂

variable {α β γ : Type} {R : α → β → Prop} {as : List α} {bs : List β}

/-- Every member of the first list has a partner in the second one. -/
theorem exists_right (h : Forall₂ R as bs) {a : α} (member : a ∈ as) :
  ∃ b ∈ bs, R a b
  := by
  induction h with
  | nil => cases member
  | cons related _ ih =>
    rcases List.mem_cons.mp member with rfl | later
    · exact ⟨_, List.mem_cons_self, related⟩
    · obtain ⟨b, partner, related⟩ := ih later
      exact ⟨b, List.mem_cons_of_mem _ partner, related⟩

/-- Every member of the second list has a partner in the first one. -/
theorem exists_left (h : Forall₂ R as bs) {b : β} (member : b ∈ bs) :
  ∃ a ∈ as, R a b
  := by
  apply exists_right (R := fun b a => R a b) _ member
  apply h.flip

/-- Members that are paired belong to the lists. -/
theorem and_mem (h : Forall₂ R as bs) :
  Forall₂ (fun a b => a ∈ as ∧ b ∈ bs ∧ R a b) as bs
  := by
  induction h with
  | nil => apply Forall₂.nil
  | cons related _ ih =>
    constructor
    · exact ⟨List.mem_cons_self, List.mem_cons_self, related⟩
    · apply ih.imp
      rintro a b ⟨left, right, related⟩
      exact ⟨List.mem_cons_of_mem _ left, List.mem_cons_of_mem _ right, related⟩

/-- What is said of all members of one list is said of all members of the other, if it is the same
for related members. -/
theorem forall_iff (h : Forall₂ R as bs) {p : α → Prop} {q : β → Prop}
    (agree : ∀ a b, R a b → (p a ↔ q b)) :
  (∀ a ∈ as, p a) ↔ ∀ b ∈ bs, q b
  := by
  induction h with
  | nil => simp
  | cons related _ ih => rw [List.forall_mem_cons, List.forall_mem_cons, agree _ _ related, ih]

/-- Functions that agree on related members have the same values on paired lists. -/
theorem map_eq (h : Forall₂ R as bs) {f : α → γ} {g : β → γ} (agree : ∀ a b, R a b → f a = g b) :
  as.map f = bs.map g
  := by
  induction h with
  | nil => rfl
  | cons related _ ih => rw [List.map_cons, List.map_cons, agree _ _ related, ih]

/-- Lists that agree on related members are the same together. -/
theorem flatMap_eq (h : Forall₂ R as bs) {f : α → List γ} {g : β → List γ}
    (agree : ∀ a b, R a b → f a = g b) :
  as.flatMap f = bs.flatMap g
  := by
  rw [List.flatMap_def, List.flatMap_def, h.map_eq agree]

/-- A relation holds between any two members of one list if and only if it does in the other, when
it is a relation between what related members agree on. -/
theorem pairwise_iff (h : Forall₂ R as bs) {f : α → γ} {g : β → γ}
    (agree : ∀ a b, R a b → f a = g b) (S : γ → γ → Prop) :
  as.Pairwise (fun a a' => S (f a) (f a')) ↔ bs.Pairwise fun b b' => S (g b) (g b')
  := by
  rw [← List.pairwise_map (f := f) (R := S), h.map_eq agree, List.pairwise_map]

end List.Forall₂
