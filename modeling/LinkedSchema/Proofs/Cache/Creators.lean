import Mathlib.Data.List.Induction
import LinkedSchema.Proofs.Cache.Turns

/-!
# Creators

A run from an empty cache chooses one call to create each flight (`Calls.Created`).  That call has
still to publish the flight, or its own outcome has been published of it (`Calls.Serving`), and
everything that is kept or returned was produced by a factory for the same key
(`Calls.chronicle_run`).
-/

namespace LinkedSchema

open OrderedMap (lookup)

variable {ν ε : Type}

/-- What is published of a flight that has begun is published. -/
theorem Cache.published?_publish (c : Cache ν ε) {flight : Nat} (begun : flight < c.flights.length)
    (outcome : Outcome ν ε) :
  (c.publish flight outcome).published? flight = some outcome
  := by
  rw [published?_eq_some_iff, publish]
  apply List.getElem?_set_self begun

namespace Calls

/-! ### Flights and their creators -/

/-- Whether a run has once chosen the call with a number to create a flight. -/
def Created (first : Calls ν ε) (actions : List (Action ν ε)) (i flight : Nat) : Prop :=
  ∃ early call, early <+: actions ∧ (first.run early).At i call ∧ call.stage = .creating flight

/-- Whether the call with a number runs its factory and has still to publish a flight, or its
factory has ended and its outcome has been published of the flight. -/
def Serving (s : Calls ν ε) (i flight : Nat) : Prop :=
  ∃ call, s.At i call
    ∧ (call.owned? = some flight ∧ call.ran = true
      ∨ s.cache.published? flight = some call.outcome ∧ call.ended = true)

/-- Whether the factory of a call for a key has ended with an outcome. -/
def Produced (s : Calls ν ε) (key : String) (outcome : Outcome ν ε) : Prop :=
  ∃ i call, s.At i call ∧ call.key = key ∧ call.outcome = outcome ∧ call.ended = true

theorem run_concat (first : Calls ν ε) (actions : List (Action ν ε)) (a : Action ν ε) :
  first.run (actions ++ [a]) = (first.run actions).act a
  := by
  rw [run, List.foldl_concat]
  rfl

section Concat

variable {first : Calls ν ε} {actions : List (Action ν ε)} {a : Action ν ε} {i flight : Nat}

/-- A run with one more action has chosen a call to create a flight if it had before, or if the
call is about to create it in the end. -/
theorem created_concat_iff :
  Created first (actions ++ [a]) i flight
    ↔ Created first actions i flight
      ∨ ∃ call, ((first.run actions).act a).At i call ∧ call.stage = .creating flight
  := by
  simp only [Created, List.prefix_concat_iff, ← run_concat]
  constructor
  · rintro ⟨early, call, rfl | before, at_i, stage⟩
    · right
      exact ⟨call, at_i, stage⟩
    · left
      exact ⟨early, call, before, at_i, stage⟩
  · rintro (⟨early, call, before, at_i, stage⟩ | ⟨call, at_i, stage⟩)
    · exact ⟨early, call, Or.inr before, at_i, stage⟩
    · exact ⟨_, call, Or.inl rfl, at_i, stage⟩

theorem Created.concat (h : Created first actions i flight) (a : Action ν ε) :
  Created first (actions ++ [a]) i flight
  := created_concat_iff.mpr (Or.inl h)

end Concat

variable {s : Calls ν ε} {i flight : Nat}

theorem At.lt {call : Call ν ε} (h : s.At i call) :
  i < s.calls.length
  := (List.getElem?_eq_some_iff.mp h).1

/-- What a factory has produced is so after every action. -/
theorem Produced.act {key : String} {outcome : Outcome ν ε} (h : s.Produced key outcome)
    (a : Action ν ε) :
  (s.act a).Produced key outcome
  := by
  obtain ⟨i, call, at_i, rfl, rfl, ended⟩ := h
  obtain ⟨new, at_new, continues⟩ := exists_at_act at_i a
  exact ⟨i, new, at_new, continues.key, continues.outcome, continues.ended ended⟩

/-- A flight that is to be published or has been published has begun. -/
theorem Serving.lt (h : s.Serving i flight) (consistent : s.Consistent) :
  flight < s.cache.flights.length
  := by
  obtain ⟨call, at_i, ⟨owned, -⟩ | ⟨published, -⟩⟩ := h
  · apply consistent.lt_of_owning ⟨call, at_i, owned⟩
  · rw [Cache.published?_eq_some_iff] at published
    apply (List.getElem?_eq_some_iff.mp published).1

/-- A call that has to publish a flight has so after its turn, or has published it and ended. -/
theorem Turn.owned?_or_publish {c later : Cache ν ε} {old new : Call ν ε}
    (turn : Turn c later old new) (owned : old.owned? = some flight) :
  new.owned? = some flight
    ∨ later = c.publish flight old.outcome ∧ new.stage = .returned old.outcome
  := by
  cases turn with
  | finish stage =>
    left
    rw [Call.owned?, stage] at owned
    apply owned
  | settle stage =>
    left
    rw [Call.owned?, stage] at owned
    apply owned
  | publish stage published =>
    right
    rw [Call.owned?, stage] at owned
    cases owned
    exact ⟨published, rfl⟩
  | hit stage _ | join stage _ | create stage | retry stage | receive stage _ =>
    rw [Call.owned?, stage] at owned
    cases owned

/-- A call that has to publish a flight after its turn had so before, or has just been chosen to
create it. -/
theorem Turn.owned?_cases {c later : Cache ν ε} {old new : Call ν ε} (turn : Turn c later old new)
    (owned : new.owned? = some flight) :
  old.owned? = some flight
    ∨ flight = c.flights.length ∧ new.stage = .creating flight ∧ new.ran = true
  := by
  cases turn with
  | create stage =>
    right
    cases owned
    exact ⟨rfl, rfl, rfl⟩
  | finish stage =>
    left
    rw [Call.owned?, stage]
    apply owned
  | settle stage =>
    left
    rw [Call.owned?, stage]
    apply owned
  | hit _ _ | join _ _ | retry _ | receive _ _ | publish _ _ => cases owned

/-- A call that has to publish a flight after an action had so before, or has just been chosen to
create it. -/
theorem owned?_act_cases {a : Action ν ε} {call : Call ν ε} (at_i : (s.act a).At i call)
    (owned : call.owned? = some flight) :
  s.Owning i flight
    ∨ flight = s.cache.flights.length ∧ call.stage = .creating flight ∧ call.ran = true
  := by
  rcases at_act_cases at_i with same | ⟨claiming, -⟩ | ⟨old, at_old, turn⟩
  · left
    exact ⟨call, same, owned⟩
  · rw [Call.owned?, claiming] at owned
    cases owned
  · rcases turn.owned?_cases owned with before | chosen
    · left
      exact ⟨old, at_old, before⟩
    · right
      apply chosen

/-- A creator goes on to serve its flight. -/
theorem Serving.act (h : s.Serving i flight) (consistent : s.Consistent) (a : Action ν ε) :
  (s.act a).Serving i flight
  := by
  obtain ⟨call, at_i, state⟩ := h
  obtain ⟨new, at_new, continues⟩ := exists_at_act at_i a
  use new, at_new
  rw [continues.outcome]
  rcases state with ⟨owned, ran⟩ | ⟨published, ended⟩
  · rcases at_act_cases at_new with same | ⟨-, beyond⟩ | ⟨old, at_old, turn⟩
    · left
      rw [same.unique at_i]
      exact ⟨owned, ran⟩
    · exact absurd at_i.lt (Nat.not_lt.mpr beyond)
    · obtain rfl := at_old.unique at_i
      rcases turn.owned?_or_publish owned with still | ⟨publishes, returned⟩
      · left
        exact ⟨still, continues.ran ran⟩
      · right
        rw [publishes, Call.ended, returned]
        use s.cache.published?_publish (consistent.lt_of_owning ⟨old, at_i, owned⟩) old.outcome
        apply continues.ran ran
  · right
    exact ⟨consistent.published?_act published a, continues.ended ended⟩

/-! ### What a run keeps -/

/-- What has happened in a run, as its end shows it. -/
structure Chronicle (first : Calls ν ε) (actions : List (Action ν ε)) : Prop where
  consistent : (first.run actions).Consistent
  /-- Who was chosen to create a flight serves it. -/
  serving : ∀ i flight, Created first actions i flight → (first.run actions).Serving i flight
  /-- Who has to publish a flight was chosen to create it. -/
  owned : ∀ i flight, (first.run actions).Owning i flight → Created first actions i flight
  /-- One call was chosen to create a flight. -/
  unique : ∀ i j flight, Created first actions i flight → Created first actions j flight → i = j
  /-- Who waits for a flight waits for a call for the same key. -/
  waiting : ∀ i call flight, (first.run actions).At i call → call.stage = .waiting flight →
    ∃ j creator, Created first actions j flight ∧ (first.run actions).At j creator
      ∧ creator.key = call.key
  /-- What is kept was produced by a factory for its key. -/
  kept : ∀ key value, (key, value) ∈ (first.run actions).cache.entries →
    (first.run actions).Produced key (.value value)
  /-- What a call returned was produced by a factory for its key. -/
  returned : ∀ i call outcome, (first.run actions).At i call → call.stage = .returned outcome →
    (first.run actions).Produced call.key outcome

/-- Nothing has happened yet to an empty cache without calls. -/
theorem chronicle_idle (capacity : Nat) (h : 0 < capacity) :
  Chronicle (idle capacity h : Calls ν ε) []
  where
  consistent := consistent_idle capacity h
  serving i flight created := by
    obtain ⟨early, call, start, at_i, -⟩ := created
    rw [List.prefix_nil.mp start] at at_i
    cases at_i
  owned i flight owning := by
    obtain ⟨call, at_i, -⟩ := owning
    cases at_i
  unique i j flight created _ := by
    obtain ⟨early, call, start, at_i, -⟩ := created
    rw [List.prefix_nil.mp start] at at_i
    cases at_i
  waiting i call flight at_i _ := by cases at_i
  kept key value member := by cases member
  returned i call outcome at_i _ := by cases at_i

namespace Chronicle

variable {first : Calls ν ε} {actions : List (Action ν ε)} (h : Chronicle first actions)

include h

/-- Who has to publish a flight has started its factory. -/
theorem ran_of_owned {call : Call ν ε} (at_i : (first.run actions).At i call)
    (owned : call.owned? = some flight) :
  call.ran = true
  := by
  have owning : (first.run actions).Owning i flight := ⟨call, at_i, owned⟩
  obtain ⟨same, at_same, ⟨-, ran⟩ | ⟨published, -⟩⟩ := h.serving i flight (h.owned i flight owning)
  · rw [at_same.unique at_i] at ran
    apply ran
  · have pending := (h.consistent.pending flight).mpr ⟨i, owning⟩
    rw [Cache.published?_eq_some_iff.mp published] at pending
    cases pending

/-- What has been published of a flight is the outcome of the call chosen to create it. -/
theorem outcome_eq (created : Created first actions i flight) {call : Call ν ε}
    (at_i : (first.run actions).At i call) {outcome : Outcome ν ε}
    (published : (first.run actions).cache.published? flight = some outcome) :
  call.outcome = outcome ∧ call.ended = true
  := by
  obtain ⟨same, at_same, state⟩ := h.serving i flight created
  obtain rfl := at_same.unique at_i
  rcases state with ⟨owned, -⟩ | ⟨serves, ended⟩
  · have pending := (h.consistent.pending flight).mpr ⟨i, same, at_i, owned⟩
    rw [Cache.published?_eq_some_iff.mp published] at pending
    cases pending
  · use ?_, ended
    rw [published] at serves
    apply Option.some.inj serves.symm

/-- The call whose flight a key is in was chosen to create it. -/
theorem exists_created {key : String}
    (flying : (first.run actions).cache.flight? key = some flight) :
  ∃ j creator, Created first actions j flight ∧ (first.run actions).At j creator
    ∧ creator.key = key
  := by
  obtain ⟨j, holds⟩ := (h.consistent.held key flight).mp (OrderedMap.mem_of_lookup flying)
  have created := h.owned j flight (Owning.of_holding holds)
  obtain ⟨creator, at_j, same, -⟩ := holds
  exact ⟨j, creator, created, at_j, same⟩

variable (a : Action ν ε)

/-- One more action chooses no call but for a new flight. -/
theorem created_concat_cases (created : Created first (actions ++ [a]) i flight) :
  Created first actions i flight
    ∨ flight = (first.run actions).cache.flights.length
      ∧ ∃ call, ((first.run actions).act a).At i call ∧ call.owned? = some flight
        ∧ call.ran = true
  := by
  rcases created_concat_iff.mp created with before | ⟨call, at_i, stage⟩
  · left
    apply before
  have owned : call.owned? = some flight := by rw [Call.owned?, stage]
  rcases owned?_act_cases at_i owned with owning | ⟨new, -, ran⟩
  · left
    apply h.owned i flight owning
  · right
    exact ⟨new, call, at_i, owned, ran⟩

/-- One more action lets no call publish a flight that it was not chosen to create. -/
theorem owned_concat (i flight : Nat) (owning : ((first.run actions).act a).Owning i flight) :
  Created first (actions ++ [a]) i flight
  := by
  obtain ⟨call, at_i, owned⟩ := owning
  rw [created_concat_iff]
  rcases owned?_act_cases at_i owned with before | ⟨-, stage, -⟩
  · left
    apply h.owned i flight before
  · right
    exact ⟨call, at_i, stage⟩

/-- After one more action who was chosen to create a flight serves it. -/
theorem serving_concat (i flight : Nat) (created : Created first (actions ++ [a]) i flight) :
  ((first.run actions).act a).Serving i flight
  := by
  rcases h.created_concat_cases a created with before | ⟨-, call, at_i, owned, ran⟩
  · apply (h.serving i flight before).act h.consistent
  · exact ⟨call, at_i, Or.inl ⟨owned, ran⟩⟩

/-- One more action leaves a flight to one call. -/
theorem unique_concat (i j flight : Nat) (created : Created first (actions ++ [a]) i flight)
    (created' : Created first (actions ++ [a]) j flight) :
  i = j
  := by
  have begun := fun {k} (earlier : Created first actions k flight) =>
    (h.serving k flight earlier).lt h.consistent
  rcases h.created_concat_cases a created with before | ⟨new, call, at_i, owned, -⟩
  · rcases h.created_concat_cases a created' with before' | ⟨new, -⟩
    · apply h.unique i j flight before before'
    · exact absurd new (Nat.ne_of_lt (begun before))
  · rcases h.created_concat_cases a created' with before' | ⟨-, call', at_j, owned', -⟩
    · exact absurd new (Nat.ne_of_lt (begun before'))
    · apply (h.consistent.run [a]).owner i j flight ⟨call, at_i, owned⟩ ⟨call', at_j, owned'⟩

/-- After one more action who waits for a flight waits for a call for the same key. -/
theorem waiting_concat (i : Nat) (call : Call ν ε) (flight : Nat)
    (at_i : ((first.run actions).act a).At i call) (stage : call.stage = .waiting flight) :
  ∃ j creator, Created first (actions ++ [a]) j flight
    ∧ ((first.run actions).act a).At j creator ∧ creator.key = call.key
  := by
  have before : ∃ j creator, Created first actions j flight ∧ (first.run actions).At j creator
      ∧ creator.key = call.key := by
    rcases at_act_cases at_i with same | ⟨claiming, -⟩ | ⟨old, at_old, turn⟩
    · apply h.waiting i call flight same stage
    · rw [stage] at claiming
      cases claiming
    · cases turn with
      | join _ flying =>
        cases stage
        apply h.exists_created flying
      | hit _ _ | create _ | retry _ | receive _ _ | finish _ | settle _ | publish _ _ =>
        cases stage
  obtain ⟨j, creator, created, at_j, same⟩ := before
  obtain ⟨new, at_new, continues⟩ := exists_at_act at_j a
  exact ⟨j, new, created.concat a, at_new, continues.key.trans same⟩

/-- What is kept after one more action was produced by a factory for its key. -/
theorem kept_concat (key : String) (value : ν)
    (member : (key, value) ∈ ((first.run actions).act a).cache.entries) :
  ((first.run actions).act a).Produced key (.value value)
  := by
  apply Produced.act
  rcases mem_entries_act member with before | ⟨i, call, flight, at_i, stage, rfl, outcome⟩
  · apply h.kept key value before
  · have owned : call.owned? = some flight := by rw [Call.owned?, stage]
    use i, call, at_i, rfl, outcome
    rw [Call.ended, stage]
    apply h.ran_of_owned at_i owned

/-- What a call has returned after one more action was produced by a factory for its key. -/
theorem returned_concat (i : Nat) (call : Call ν ε) (outcome : Outcome ν ε)
    (at_i : ((first.run actions).act a).At i call) (stage : call.stage = .returned outcome) :
  ((first.run actions).act a).Produced call.key outcome
  := by
  apply Produced.act
  rcases at_act_cases at_i with same | ⟨claiming, -⟩ | ⟨old, at_old, turn⟩
  · apply h.returned i call outcome same stage
  · rw [stage] at claiming
    cases claiming
  · cases turn with
    | hit _ found =>
      cases stage
      apply h.kept _ _ (OrderedMap.mem_of_lookup found)
    | receive waits published =>
      cases stage
      obtain ⟨j, creator, created, at_j, same⟩ := h.waiting i old _ at_old waits
      obtain ⟨rfl, ended⟩ := h.outcome_eq created at_j published
      exact ⟨j, creator, at_j, same, rfl, ended⟩
    | @publish flight settled _ =>
      cases stage
      have owned : old.owned? = some flight := by rw [Call.owned?, settled]
      use i, old, at_old, rfl, rfl
      rw [Call.ended, settled]
      apply h.ran_of_owned at_old owned
    | join _ _ | create _ | retry _ | finish _ | settle _ => cases stage

/-- One more action is recorded. -/
theorem concat :
  Chronicle first (actions ++ [a])
  where
  consistent := run_concat first actions a ▸ h.consistent.run [a]
  serving := run_concat first actions a ▸ h.serving_concat a
  owned := run_concat first actions a ▸ h.owned_concat a
  unique := h.unique_concat a
  waiting := run_concat first actions a ▸ h.waiting_concat a
  kept := run_concat first actions a ▸ h.kept_concat a
  returned := run_concat first actions a ▸ h.returned_concat a

end Chronicle

/-- Every run from an empty cache is recorded. -/
theorem chronicle_run (capacity : Nat) (h : 0 < capacity) (actions : List (Action ν ε)) :
  Chronicle (idle capacity h) actions
  := by
  induction actions using List.reverseRecOn with
  | nil => apply chronicle_idle
  | append_singleton actions a ih => apply ih.concat

end Calls

end LinkedSchema
