import LinkedSchema.Cache.Calls
import LinkedSchema.Proofs.Cache.Recency

/-!
# Steps of calls

`Calls.Step s a later` lists everything that can happen at one moment to a cache with calls in
progress.  An action is one of these steps, or nothing happens (`Calls.act_cases`).  What a step
does to the flights that calls hold is said in `Calls.holding_set_iff` and `Calls.owning_set_iff`.
-/

namespace LinkedSchema

open OrderedMap (lookup)

variable {ν ε : Type}

namespace Call

/-- The flight in which a call holds its key: from being chosen to create until the cache takes up
the outcome. -/
def held? (call : Call ν ε) : Option Nat :=
  match call.stage with
  | .creating flight | .finished flight => some flight
  | .claiming | .waiting _ | .settled _ | .returned _ => none

/-- The flight that a call has still to publish. -/
def owned? (call : Call ν ε) : Option Nat :=
  match call.stage with
  | .creating flight | .finished flight | .settled flight => some flight
  | .claiming | .waiting _ | .returned _ => none

/-- A call has still to publish the flight in which it holds its key. -/
theorem owned?_of_held? {call : Call ν ε} {flight : Nat} (h : call.held? = some flight) :
  call.owned? = some flight
  := by
  rw [held?] at h
  rw [owned?]
  split at h
  all_goals simp_all

end Call

namespace Calls

/-- Whether a call is the one with a number. -/
def At (s : Calls ν ε) (i : Nat) (call : Call ν ε) : Prop := s.calls[i]? = some call

theorem At.unique {s : Calls ν ε} {i : Nat} {call other : Call ν ε} (h : s.At i call)
    (h' : s.At i other) :
  call = other
  := Option.some.inj (h.symm.trans h')

/-- Whether the call with a number holds a key in a flight. -/
def Holding (s : Calls ν ε) (i : Nat) (key : String) (flight : Nat) : Prop :=
  ∃ call, s.At i call ∧ call.key = key ∧ call.held? = some flight

/-- Whether the call with a number has still to publish a flight. -/
def Owning (s : Calls ν ε) (i flight : Nat) : Prop :=
  ∃ call, s.At i call ∧ call.owned? = some flight

/-! ### What happens at one moment -/

/-- Everything that can happen at one moment, with the action that it is. -/
inductive Step (s : Calls ν ε) : Action ν ε → Calls ν ε → Prop where
  /-- A call begins. -/
  | begin (key : String) (outcome : Outcome ν ε) :
      Step s (.begin key outcome) ⟨s.cache, s.calls ++ [.start key outcome]⟩
  /-- A call finds its value. -/
  | hit {i : Nat} {call : Call ν ε} {value : ν} : s.At i call → call.stage = .claiming →
      lookup call.key s.cache.entries = some value →
      Step s (.advance i) ⟨{ s.cache with entries := Recency.touch call.key s.cache.entries },
        s.calls.set i { call with stage := .returned (.value value) }⟩
  /-- A call finds its key in flight. -/
  | join {i flight : Nat} {call : Call ν ε} : s.At i call → call.stage = .claiming →
      s.cache.flight? call.key = some flight →
      Step s (.advance i) ⟨s.cache, s.calls.set i { call with stage := .waiting flight }⟩
  /-- A call is chosen to create. -/
  | create {i : Nat} {call : Call ν ε} : s.At i call → call.stage = .claiming →
      lookup call.key s.cache.entries = none → s.cache.flight? call.key = none →
      Step s (.advance i) ⟨{ s.cache with
          inFlight := s.cache.inFlight ++ [(call.key, s.cache.flights.length)]
          flights := s.cache.flights ++ [none] },
        s.calls.set i { call with stage := .creating s.cache.flights.length, ran := true }⟩
  /-- A call finds that the flight it waits for unwound. -/
  | retry {i flight : Nat} {call : Call ν ε} : s.At i call → call.stage = .waiting flight →
      s.cache.published? flight = some .unwound →
      Step s (.advance i) ⟨s.cache, s.calls.set i { call with stage := .claiming }⟩
  /-- A call finds the outcome of the flight it waits for. -/
  | receive {i flight : Nat} {call : Call ν ε} {outcome : Outcome ν ε} : s.At i call →
      call.stage = .waiting flight → s.cache.published? flight = some outcome →
      outcome ≠ .unwound →
      Step s (.advance i) ⟨s.cache, s.calls.set i { call with stage := .returned outcome }⟩
  /-- The factory of a call ends. -/
  | finish {i flight : Nat} {call : Call ν ε} : s.At i call → call.stage = .creating flight →
      Step s (.advance i) ⟨s.cache, s.calls.set i { call with stage := .finished flight }⟩
  /-- The cache takes up the outcome of a call. -/
  | settle {i flight : Nat} {call : Call ν ε} : s.At i call → call.stage = .finished flight →
      Step s (.advance i) ⟨s.cache.settle call.key flight call.outcome,
        s.calls.set i { call with stage := .settled flight }⟩
  /-- A call publishes its outcome. -/
  | publish {i flight : Nat} {call : Call ν ε} : s.At i call → call.stage = .settled flight →
      Step s (.advance i) ⟨s.cache.publish flight call.outcome,
        s.calls.set i { call with stage := .returned call.outcome }⟩
  /-- A key is read. -/
  | read (key : String) :
      Step s (.get key) ⟨{ s.cache with entries := Recency.touch key s.cache.entries }, s.calls⟩
  /-- The cache is cleared. -/
  | clear : Step s .clear ⟨s.cache.clear, s.calls⟩

/-- What the next step of a call does. -/
theorem act_advance {s : Calls ν ε} {i : Nat} {call : Call ν ε} (at_i : s.At i call) :
  s.act (.advance i) = ⟨(call.step s.cache).1, s.calls.set i (call.step s.cache).2⟩
  := by
  rw [At] at at_i
  rw [act, at_i]

theorem set_self {s : Calls ν ε} {i : Nat} {call : Call ν ε} (at_i : s.At i call) :
  (⟨s.cache, s.calls.set i call⟩ : Calls ν ε) = s
  := by
  obtain ⟨in_range, rfl⟩ := List.getElem?_eq_some_iff.mp at_i
  rw [List.set_getElem_self]

/-- The next step of a call is one of the steps, or nothing happens. -/
theorem advance_cases {s : Calls ν ε} {i : Nat} {call : Call ν ε} (at_i : s.At i call) :
  s.act (.advance i) = s ∨ s.Step (.advance i) (s.act (.advance i))
  := by
  rw [act_advance at_i]
  cases stage : call.stage with
  | claiming =>
    right
    cases found : lookup call.key s.cache.entries with
    | some value =>
      simp only [Call.step, stage, Cache.claim, found]
      apply Step.hit at_i stage found
    | none =>
      cases flying : s.cache.flight? call.key with
      | some flight =>
        simp only [Call.step, stage, Cache.claim, found, flying]
        apply Step.join at_i stage flying
      | none =>
        simp only [Call.step, stage, Cache.claim, found, flying]
        apply Step.create at_i stage found flying
  | waiting flight =>
    cases published : s.cache.published? flight with
    | none =>
      left
      simp only [Call.step, stage, published]
      apply set_self at_i
    | some outcome =>
      right
      cases outcome with
      | unwound =>
        simp only [Call.step, stage, published]
        apply Step.retry at_i stage published
      | value value =>
        simp only [Call.step, stage, published]
        apply Step.receive at_i stage published (by simp)
      | error error =>
        simp only [Call.step, stage, published]
        apply Step.receive at_i stage published (by simp)
  | creating flight =>
    right
    simp only [Call.step, stage]
    apply Step.finish at_i stage
  | finished flight =>
    right
    simp only [Call.step, stage]
    apply Step.settle at_i stage
  | settled flight =>
    right
    simp only [Call.step, stage]
    apply Step.publish at_i stage
  | returned outcome =>
    left
    simp only [Call.step, stage]
    apply set_self at_i

/-- An action is one of the steps, or nothing happens. -/
theorem act_cases (s : Calls ν ε) (a : Action ν ε) :
  s.act a = s ∨ s.Step a (s.act a)
  := by
  cases a with
  | begin key outcome =>
    right
    apply Step.begin
  | advance i =>
    cases found : s.calls[i]? with
    | none =>
      left
      rw [act, found]
    | some call => apply advance_cases found
  | get key =>
    right
    apply Step.read
  | contains key =>
    left
    rfl
  | size =>
    left
    rfl
  | clear =>
    right
    apply Step.clear

/-- What every step keeps is kept by a run. -/
theorem run_keeps {P : Calls ν ε → Prop} (step : ∀ {s a later}, P s → s.Step a later → P later)
    {s : Calls ν ε} (first : P s) (actions : List (Action ν ε)) :
  P (s.run actions)
  := by
  induction actions generalizing s with
  | nil => apply first
  | cons a rest ih =>
    apply ih
    rcases s.act_cases a with same | taken
    · rw [same]
      apply first
    · apply step first taken

/-! ### Calls after a step -/

section Set

variable {s : Calls ν ε} {i : Nat} {old : Call ν ε} (at_i : s.At i old) (cache : Cache ν ε)
  (new : Call ν ε)

include at_i

/-- After a step of one call, that call is the new one, and the others are as before. -/
theorem at_set_iff (j : Nat) (call : Call ν ε) :
  At ⟨cache, s.calls.set i new⟩ j call ↔ if j = i then call = new else s.At j call
  := by
  rw [At, List.getElem?_set]
  have in_range : i < s.calls.length := (List.getElem?_eq_some_iff.mp at_i).1
  by_cases same : j = i
  · subst same
    simp [in_range, eq_comm]
  · simp [same, Ne.symm same, At]

/-- After a step of one call, the flights held are those that it holds then, and those that the
others held. -/
theorem holding_set_iff (j : Nat) (key : String) (flight : Nat) :
  Holding ⟨cache, s.calls.set i new⟩ j key flight
    ↔ if j = i then new.key = key ∧ new.held? = some flight else s.Holding j key flight
  := by
  simp only [Holding, at_set_iff at_i]
  split
  · simp
  · rfl

/-- After a step of one call, the flights to be published are those that it has still to publish,
and those of the others. -/
theorem owning_set_iff (j flight : Nat) :
  Owning ⟨cache, s.calls.set i new⟩ j flight
    ↔ if j = i then new.owned? = some flight else s.Owning j flight
  := by
  simp only [Owning, at_set_iff at_i]
  split
  · simp
  · rfl

end Set

/-- After a call has begun, the calls are those before and the new one. -/
theorem at_append_iff (s : Calls ν ε) (cache : Cache ν ε) (new : Call ν ε) (j : Nat)
    (call : Call ν ε) :
  At ⟨cache, s.calls ++ [new]⟩ j call ↔ s.At j call ∨ j = s.calls.length ∧ call = new
  := by
  rw [At, At, List.getElem?_append]
  split
  · next before =>
    simp [Nat.ne_of_lt before]
  · next past =>
    rw [List.getElem?_eq_none (Nat.le_of_not_lt past)]
    cases rest : j - s.calls.length with
    | zero =>
      have last : j = s.calls.length := by omega
      simp [last, eq_comm]
    | succ n =>
      have beyond : j ≠ s.calls.length := by omega
      simp [beyond]

end Calls

end LinkedSchema
