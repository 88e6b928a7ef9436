import LinkedSchema.Proofs.Cache.Waiters

/-!
# Calls come to an end

If no factory unwinds, a call that takes a step comes nearer to its end
(`Calls.Chronicle.remaining_act_lt`), and calls of which none can take a step have all returned
(`Calls.Chronicle.returned_of_stuck`): who waits for a flight waits for a call that can go on.
-/

namespace LinkedSchema

open OrderedMap (lookup)

/-! ### Sums of weights -/

section Weigh

variable {α : Type} (weight : α → Nat)

/-- The sum of the weights of the members of a list. -/
def weigh (members : List α) : Nat := members.foldr (fun member sum => weight member + sum) 0

theorem weigh_concat (members : List α) (new : α) :
  weigh weight (members ++ [new]) = weigh weight members + weight new
  := by
  induction members with
  | nil => apply Nat.add_comm
  | cons member rest ih =>
    rw [weigh, weigh] at ih
    rw [weigh, weigh, List.cons_append, List.foldr_cons, List.foldr_cons, ih, Nat.add_assoc]

/-- A member that is replaced leaves its weight for that of the new one. -/
theorem weigh_set {members : List α} {i : Nat} {old : α} (at_i : members[i]? = some old)
    (new : α) :
  weigh weight (members.set i new) + weight old = weigh weight members + weight new
  := by
  induction members generalizing i with
  | nil => cases at_i
  | cons member rest ih =>
    cases i with
    | zero =>
      cases at_i
      simp only [weigh, List.set_cons_zero, List.foldr_cons]
      omega
    | succ n =>
      have later := ih at_i
      simp only [weigh, List.set_cons_succ, List.foldr_cons] at later ⊢
      omega

end Weigh

variable {ν ε : Type}

/-- The steps that a call has still to take at most, if no flight unwinds. -/
def Call.remaining (call : Call ν ε) : Nat :=
  match call.stage with
  | .claiming => 4
  | .creating _ => 3
  | .finished _ => 2
  | .waiting _ | .settled _ => 1
  | .returned _ => 0

namespace Calls

/-- The steps that calls have still to take at most, if no flight unwinds. -/
def remaining (s : Calls ν ε) : Nat := weigh Call.remaining s.calls

/-- Whether no factory of a call unwinds. -/
def Sure (s : Calls ν ε) : Prop := ∀ i call, s.At i call → call.outcome ≠ .unwound

section Step

variable {s : Calls ν ε} {i : Nat} {call : Call ν ε}

theorem remaining_set_lt {new : Call ν ε} (at_i : s.At i call) (cache : Cache ν ε)
    (less : new.remaining < call.remaining) :
  remaining ⟨cache, s.calls.set i new⟩ < s.remaining
  := by
  have exchanged := weigh_set Call.remaining at_i new
  simp only [remaining]
  omega

/-- A call that can take no step stays at its stage when it is its turn. -/
theorem stage_of_stuck (at_i : s.At i call) (stuck : s.act (.advance i) = s) :
  (call.step s.cache).2.stage = call.stage
  := by
  have next := at_act_advance at_i
  rw [stuck] at next
  rw [next.unique at_i]

/-- A call that can take no step has returned, or waits for a flight of which nothing has been
published. -/
theorem returned_or_waiting_of_stuck (at_i : s.At i call) (stuck : s.act (.advance i) = s) :
  (∃ outcome, call.stage = .returned outcome)
    ∨ ∃ flight, call.stage = .waiting flight ∧ s.cache.published? flight = none
  := by
  have still := stage_of_stuck at_i stuck
  cases stage : call.stage with
  | returned outcome =>
    left
    exact ⟨outcome, rfl⟩
  | waiting flight =>
    right
    use flight, rfl
    cases published : s.cache.published? flight with
    | none => rfl
    | some outcome => cases outcome <;> simp [Call.step, stage, published] at still
  | claiming =>
    simp only [Call.step, stage] at still
    split at still <;> cases still
  | creating flight | finished flight | settled flight => simp [Call.step, stage] at still

end Step

namespace Chronicle

variable {first : Calls ν ε} {actions : List (Action ν ε)} (h : Chronicle first actions)

include h

/-- If no factory unwinds, nobody waits for a flight that unwound. -/
theorem published?_ne_unwound (sure : (first.run actions).Sure) {i flight : Nat} {call : Call ν ε}
    (at_i : (first.run actions).At i call) (stage : call.stage = .waiting flight) :
  (first.run actions).cache.published? flight ≠ some .unwound
  := by
  intro published
  obtain ⟨j, creator, created, at_j, -⟩ := h.waiting i call flight at_i stage
  exact sure j creator at_j (h.outcome_eq created at_j published).1

/-- If no factory unwinds, a call whose turn it is comes nearer to its end, or nothing happens. -/
theorem remaining_act_lt (sure : (first.run actions).Sure) (i : Nat) :
  (first.run actions).act (.advance i) = first.run actions
    ∨ ((first.run actions).act (.advance i)).remaining < (first.run actions).remaining
  := by
  rcases (first.run actions).act_cases (.advance i) with same | step
  · left
    apply same
  right
  generalize advance : Action.advance i = a at step
  generalize (first.run actions).act a = later at step
  cases step with
  | hit at_i stage _ | join at_i stage _ | create at_i stage _ _ | receive at_i stage _ _
  | finish at_i stage | settle at_i stage | publish at_i stage =>
    apply remaining_set_lt at_i
    simp [Call.remaining, stage]
  | retry at_i stage published => exact absurd published (h.published?_ne_unwound sure at_i stage)
  | begin _ _ | read _ | clear => cases advance

/-- If no call can take a step, all calls have returned. -/
theorem returned_of_stuck
    (stuck : ∀ i, (first.run actions).act (.advance i) = first.run actions) {i : Nat}
    {call : Call ν ε} (at_i : (first.run actions).At i call) :
  ∃ outcome, call.stage = .returned outcome
  := by
  rcases returned_or_waiting_of_stuck at_i (stuck i) with returned | ⟨flight, stage, unpublished⟩
  · apply returned
  -- The call that the flight was created by is stuck as well, but has still to publish it.
  obtain ⟨j, creator, created, at_j, -⟩ := h.waiting i call flight at_i stage
  obtain ⟨same, at_same, ⟨owned, -⟩ | ⟨published, -⟩⟩ := h.serving j flight created
  · rcases returned_or_waiting_of_stuck at_same (stuck j) with ⟨_, stage⟩ | ⟨_, stage, -⟩
    all_goals
      rw [Call.owned?, stage] at owned
      cases owned
  · rw [unpublished] at published
    cases published

end Chronicle

end Calls

end LinkedSchema
