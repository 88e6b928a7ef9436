import LinkedSchema.Proofs.Cache.Creators

/-!
# Waiting calls

In every run from an empty cache each flight that has not been published has exactly one call that
will publish it, a call that waits for a flight receives the outcome of the call chosen to create
it, and every value that is returned or read was produced by a factory for its key
(`Calls.Served`, `Calls.served_run`).
-/

namespace LinkedSchema

open OrderedMap (lookup)

variable {ν ε : Type}

namespace Calls

/-- Whether nobody who waits in a run is left alone or given what was not produced for its key. -/
structure Served (first : Calls ν ε) (actions : List (Action ν ε)) : Prop where
  /-- What has been published of a flight stays published. -/
  stays : ∀ flight outcome more, (first.run actions).cache.published? flight = some outcome →
    (first.run (actions ++ more)).cache.published? flight = some outcome
  /-- A flight that has not been published has one call that has still to publish it. -/
  pending : ∀ flight, (first.run actions).cache.flights[flight]? = some none →
    ∃! i, (first.run actions).Owning i flight
  /-- A call that has still to publish a flight publishes its outcome within three steps. -/
  publishes : ∀ i call flight, (first.run actions).At i call → call.owned? = some flight →
    (first.run (actions ++ List.replicate 3 (.advance i))).cache.published? flight
      = some call.outcome
  /-- A call that waits for a flight waits for the one call chosen to create it, which is for the
  same key and has still to publish the flight or has done so. -/
  waiting : ∀ i call flight, (first.run actions).At i call → call.stage = .waiting flight →
    ∃ j creator, (∀ k, Created first actions k flight ↔ k = j) ∧ (first.run actions).At j creator
      ∧ creator.key = call.key ∧ (creator.owned? = some flight
        ∨ (first.run actions).cache.published? flight = some creator.outcome)
  /-- A call that returns from waiting for a flight returns the outcome of the one call chosen to
  create it, unless that call unwound. -/
  received : ∀ i call flight new outcome, (first.run actions).At i call →
    call.stage = .waiting flight → (first.run (actions ++ [.advance i])).At i new →
    new.result? = some outcome →
    outcome ≠ .unwound ∧ ∃ j creator, (∀ k, Created first actions k flight ↔ k = j)
      ∧ (first.run actions).At j creator ∧ creator.key = call.key ∧ creator.outcome = outcome
      ∧ creator.ended = true
  /-- A call that waits for a flight which unwound looks for its key again, and its key is in that
  flight no more. -/
  abandoned : ∀ i call flight, (first.run actions).At i call → call.stage = .waiting flight →
    (first.run actions).cache.published? flight = some .unwound →
    first.run (actions ++ [.advance i])
        = ⟨(first.run actions).cache, (first.run actions).calls.set i
          { call with stage := .claiming }⟩
      ∧ (first.run actions).cache.flight? call.key ≠ some flight
  /-- A call whose factory does not end with a value changes no value. -/
  unkept : ∀ i call, (first.run actions).At i call → (∀ value, call.outcome ≠ .value value) →
    ∀ key, ((first.run (actions ++ [.advance i])).cache.get? key).1
      = ((first.run actions).cache.get? key).1
  /-- What a call returns was produced by a factory for its key. -/
  returned : ∀ i call outcome, (first.run actions).At i call → call.result? = some outcome →
    (first.run actions).Produced call.key outcome
  /-- The value that is read at a key was produced by a factory for the key. -/
  read : ∀ key value, ((first.run actions).cache.get? key).1 = some value →
    (first.run actions).Produced key (.value value)

/-! ### Publications -/

section Publications

variable {s : Calls ν ε} {i flight : Nat} {call : Call ν ε}

theorem run_append (first : Calls ν ε) (actions more : List (Action ν ε)) :
  first.run (actions ++ more) = (first.run actions).run more
  := by
  rw [run, List.foldl_append]
  rfl

/-- After a step of a call that call is the one one step further. -/
theorem at_act_advance (at_i : s.At i call) :
  (s.act (.advance i)).At i (call.step s.cache).2
  := by rw [act_advance at_i, at_set_iff at_i, if_pos rfl]

/-- A call that has still to publish a flight publishes its outcome with the last of its steps. -/
theorem published?_of_settled (consistent : s.Consistent) (at_i : s.At i call)
    (stage : call.stage = .settled flight) :
  (s.act (.advance i)).cache.published? flight = some call.outcome
  := by
  rw [act_advance at_i]
  simp only [Call.step, stage]
  apply Cache.published?_publish
  apply consistent.lt_of_owning (i := i)
  use call, at_i
  rw [Call.owned?, stage]

theorem published?_of_finished (consistent : s.Consistent) (at_i : s.At i call)
    (stage : call.stage = .finished flight) :
  (s.run [.advance i, .advance i]).cache.published? flight = some call.outcome
  := by
  have next := at_act_advance at_i
  simp only [Call.step, stage] at next
  apply published?_of_settled (consistent.run [.advance i]) next rfl

theorem published?_of_creating (consistent : s.Consistent) (at_i : s.At i call)
    (stage : call.stage = .creating flight) :
  (s.run [.advance i, .advance i, .advance i]).cache.published? flight = some call.outcome
  := by
  have next := at_act_advance at_i
  simp only [Call.step, stage] at next
  apply published?_of_finished (consistent.run [.advance i]) next rfl

/-- A call that has still to publish a flight publishes its outcome within three steps. -/
theorem published?_of_owned (consistent : s.Consistent) (at_i : s.At i call)
    (owned : call.owned? = some flight) :
  (s.run [.advance i, .advance i, .advance i]).cache.published? flight = some call.outcome
  := by
  rw [Call.owned?] at owned
  cases stage : call.stage with
  | creating other =>
    rw [stage] at owned
    cases owned
    apply published?_of_creating consistent at_i stage
  | finished other =>
    rw [stage] at owned
    cases owned
    have published := published?_of_finished consistent at_i stage
    apply (consistent.run [.advance i, .advance i]).published?_run published [.advance i]
  | settled other =>
    rw [stage] at owned
    cases owned
    have published := published?_of_settled consistent at_i stage
    apply (consistent.run [.advance i]).published?_run published [.advance i, .advance i]
  | claiming | waiting _ | returned _ =>
    rw [stage] at owned
    cases owned

/-- A flight that has been published is that of no key. -/
theorem Consistent.flight?_ne (consistent : s.Consistent) {outcome : Outcome ν ε}
    (published : s.cache.published? flight = some outcome) (key : String) :
  s.cache.flight? key ≠ some flight
  := by
  intro flying
  obtain ⟨i, holds⟩ := (consistent.held key flight).mp (OrderedMap.mem_of_lookup flying)
  have pending := (consistent.pending flight).mpr ⟨i, Owning.of_holding holds⟩
  rw [Cache.published?_eq_some_iff.mp published] at pending
  cases pending

end Publications

/-! ### Waiting and returning -/

section Waiting

variable {s : Calls ν ε} {i : Nat} {call : Call ν ε}

/-- A call that returns from waiting returns what has been published, which is not that it
unwound. -/
theorem published?_of_result? {flight : Nat} {outcome : Outcome ν ε}
    (stage : call.stage = .waiting flight)
    (result : (call.step s.cache).2.result? = some outcome) :
  s.cache.published? flight = some outcome ∧ outcome ≠ .unwound
  := by
  cases published : s.cache.published? flight with
  | none => simp [Call.step, stage, published, Call.result?] at result
  | some received =>
    cases received with
    | unwound => simp [Call.step, stage, published, Call.result?] at result
    | value value =>
      simp only [Call.step, stage, published, Call.result?, Option.some.injEq] at result
      subst result
      exact ⟨rfl, by simp⟩
    | error error =>
      simp only [Call.step, stage, published, Call.result?, Option.some.injEq] at result
      subst result
      exact ⟨rfl, by simp⟩

/-- A call whose factory does not end with a value changes no value. -/
theorem lookup_act_advance (at_i : s.At i call) (none : ∀ value, call.outcome ≠ .value value)
    (key : String) :
  lookup key (s.act (.advance i)).cache.entries = lookup key s.cache.entries
  := by
  rcases advance_cases at_i with same | step
  · rw [same]
  generalize advance : Action.advance i = a at step
  generalize s.act a = later at step
  cases step with
  | hit at_j _ _ => apply Recency.lookup_touch
  | settle at_j _ =>
    cases advance
    rw [at_j.unique at_i]
    cases outcome : call.outcome with
    | value value => exact absurd outcome (none value)
    | error error => rfl
    | unwound => rfl
  | read _ => cases advance
  | clear => cases advance
  | _ => rfl

end Waiting

variable {first : Calls ν ε} {actions : List (Action ν ε)}

/-- One call was chosen to create a flight if any was. -/
theorem Chronicle.created_iff (h : Chronicle first actions) {j flight : Nat}
    (created : Created first actions j flight) (k : Nat) :
  Created first actions k flight ↔ k = j
  := by
  constructor
  · intro other
    apply h.unique k j flight other created
  · rintro rfl
    apply created

/-- What a recorded run serves. -/
theorem Chronicle.served (h : Chronicle first actions) :
  Served first actions
  where
  stays flight outcome more published := by
    rw [run_append]
    apply h.consistent.published?_run published
  pending flight nothing := by
    obtain ⟨i, owning⟩ := (h.consistent.pending flight).mp nothing
    use i, owning
    intro j other
    apply h.consistent.owner j i flight other owning
  publishes i call flight at_i owned := by
    rw [run_append]
    apply published?_of_owned h.consistent at_i owned
  waiting i call flight at_i stage := by
    obtain ⟨j, creator, created, at_j, key⟩ := h.waiting i call flight at_i stage
    use j, creator, h.created_iff created, at_j, key
    obtain ⟨same, at_same, state⟩ := h.serving j flight created
    rw [at_same.unique at_j] at state
    apply state.imp And.left And.left
  received i call flight new outcome at_i stage at_new result := by
    rw [run_concat] at at_new
    rw [at_new.unique (at_act_advance at_i)] at result
    obtain ⟨published, wound⟩ := published?_of_result? stage result
    use wound
    obtain ⟨j, creator, created, at_j, key⟩ := h.waiting i call flight at_i stage
    use j, creator, h.created_iff created, at_j, key
    apply h.outcome_eq created at_j published
  abandoned i call flight at_i stage published := by
    rw [run_concat, act_advance at_i]
    use ?_, h.consistent.flight?_ne published call.key
    simp only [Call.step, stage, published]
  unkept i call at_i none key := by
    rw [run_concat]
    apply lookup_act_advance at_i none
  returned i call outcome at_i result := by
    apply h.returned i call outcome at_i
    rw [Call.result?] at result
    split at result
    · next stage => rw [stage, Option.some.inj result]
    · cases result
  read key value found := h.kept key value (OrderedMap.mem_of_lookup found)

/-- In every run from an empty cache nobody who waits is left alone or given what was not produced
for its key. -/
theorem served_run (capacity : Nat) (h : 0 < capacity) (actions : List (Action ν ε)) :
  Served (idle capacity h) actions
  := (chronicle_run capacity h actions).served

/-- Three calls for a key: the others wait for the first one, which unwinds, and then the third one
waits for the second one. -/
def takeover : List (Action Nat Nat) :=
  [.begin "a" .unwound, .begin "a" (.value 7), .begin "a" (.error 5)]
    ++ [.advance 0, .advance 1, .advance 2, .advance 0, .advance 0, .advance 0]
    ++ [.advance 1, .advance 1, .advance 2, .advance 2, .advance 1, .advance 1, .advance 1]

/-- In the end of the takeover the third call receives the value of the second one. -/
theorem served_run_takeover :
  Served (idle 1 Nat.one_pos) takeover
    ∧ ∃ j creator, (∀ k, Created (idle 1 Nat.one_pos) takeover k 1 ↔ k = j)
      ∧ ((idle 1 Nat.one_pos).run takeover).At j creator ∧ creator.key = "a"
      ∧ creator.outcome = .value 7 ∧ creator.ended = true
  := by
  have served := served_run 1 Nat.one_pos takeover
  use served
  obtain ⟨-, received⟩ := served.received 2 ⟨"a", .error 5, .waiting 1, false⟩ 1
    ⟨"a", .error 5, .returned (.value 7), false⟩ (.value 7) rfl rfl rfl rfl
  apply received

end Calls

end LinkedSchema
