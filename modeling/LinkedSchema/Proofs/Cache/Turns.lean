import LinkedSchema.Proofs.Cache.Consistency

/-!
# Turns of calls

An action leaves the calls as they are, lets one begin, or takes one of them from its stage to the
next (`Calls.Turn`, `Calls.act_turns`).  A call keeps its key and the outcome of its factory all
along (`Calls.exists_at_act`), an entry is there only because a call handed it over
(`Calls.mem_entries_act`), and what has been published of a flight stays published
(`Calls.Consistent.published?_run`).
-/

namespace LinkedSchema

open OrderedMap (lookup)

variable {ν ε : Type}

/-- An outcome has been published of a flight if and only if it stands among the flights. -/
theorem Cache.published?_eq_some_iff {c : Cache ν ε} {flight : Nat} {outcome : Outcome ν ε} :
  c.published? flight = some outcome ↔ c.flights[flight]? = some (some outcome)
  := by
  rw [Cache.published?, Option.join_eq_some_iff]

/-- Whether the factory of a call has run to its end. -/
def Call.ended (call : Call ν ε) : Bool :=
  match call.stage with
  | .finished _ | .settled _ | .returned _ => call.ran
  | .claiming | .waiting _ | .creating _ => false

namespace Calls

/-- From a call to itself one stage further, as the cache is before and after. -/
inductive Turn (c later : Cache ν ε) : Call ν ε → Call ν ε → Prop where
  | hit {call : Call ν ε} {value : ν} : call.stage = .claiming →
      lookup call.key c.entries = some value →
      Turn c later call { call with stage := .returned (.value value) }
  | join {call : Call ν ε} {flight : Nat} : call.stage = .claiming →
      c.flight? call.key = some flight → Turn c later call { call with stage := .waiting flight }
  | create {call : Call ν ε} : call.stage = .claiming →
      Turn c later call { call with stage := .creating c.flights.length, ran := true }
  | retry {call : Call ν ε} {flight : Nat} : call.stage = .waiting flight →
      Turn c later call { call with stage := .claiming }
  | receive {call : Call ν ε} {flight : Nat} {outcome : Outcome ν ε} :
      call.stage = .waiting flight → c.published? flight = some outcome →
      Turn c later call { call with stage := .returned outcome }
  | finish {call : Call ν ε} {flight : Nat} : call.stage = .creating flight →
      Turn c later call { call with stage := .finished flight }
  | settle {call : Call ν ε} {flight : Nat} : call.stage = .finished flight →
      Turn c later call { call with stage := .settled flight }
  | publish {call : Call ν ε} {flight : Nat} : call.stage = .settled flight →
      later = c.publish flight call.outcome →
      Turn c later call { call with stage := .returned call.outcome }

/-- Whether a call is another one at a later stage. -/
structure Continues (old new : Call ν ε) : Prop where
  key : new.key = old.key
  outcome : new.outcome = old.outcome
  ran : old.ran = true → new.ran = true
  ended : old.ended = true → new.ended = true

theorem Continues.refl (call : Call ν ε) :
  Continues call call
  := ⟨rfl, rfl, id, id⟩

/-- A call goes on with its turn. -/
theorem Turn.continues {c later : Cache ν ε} {old new : Call ν ε} (turn : Turn c later old new) :
  Continues old new
  := by
  cases turn with
  | create stage =>
    refine ⟨rfl, rfl, fun _ => rfl, ?_⟩
    simp [Call.ended, stage]
  | hit stage _ | join stage _ | retry stage | receive stage _ | finish stage | settle stage
  | publish stage _ =>
    refine ⟨rfl, rfl, id, ?_⟩
    simp [Call.ended, stage]

variable {s : Calls ν ε} {a : Action ν ε}

/-- What an action does to the calls: nothing, or one of them begins or takes a turn. -/
theorem act_turns (s : Calls ν ε) (a : Action ν ε) :
  (∃ cache, s.act a = ⟨cache, s.calls⟩)
    ∨ (∃ new, s.act a = ⟨s.cache, s.calls ++ [new]⟩ ∧ new.stage = .claiming)
    ∨ ∃ i old new cache, s.act a = ⟨cache, s.calls.set i new⟩ ∧ s.At i old
      ∧ Turn s.cache cache old new
  := by
  rcases s.act_cases a with same | step
  · left
    exact ⟨s.cache, same⟩
  generalize s.act a = later at step
  cases step with
  | begin key outcome =>
    right; left
    exact ⟨_, rfl, rfl⟩
  | hit at_i stage found =>
    right; right
    exact ⟨_, _, _, _, rfl, at_i, .hit stage found⟩
  | join at_i stage flying =>
    right; right
    exact ⟨_, _, _, _, rfl, at_i, .join stage flying⟩
  | create at_i stage missing landed =>
    right; right
    exact ⟨_, _, _, _, rfl, at_i, .create stage⟩
  | retry at_i stage published =>
    right; right
    exact ⟨_, _, _, _, rfl, at_i, .retry stage⟩
  | receive at_i stage published _ =>
    right; right
    exact ⟨_, _, _, _, rfl, at_i, .receive stage published⟩
  | finish at_i stage =>
    right; right
    exact ⟨_, _, _, _, rfl, at_i, .finish stage⟩
  | settle at_i stage =>
    right; right
    exact ⟨_, _, _, _, rfl, at_i, .settle stage⟩
  | publish at_i stage =>
    right; right
    exact ⟨_, _, _, _, rfl, at_i, .publish stage rfl⟩
  | read key =>
    left
    exact ⟨_, rfl⟩
  | clear =>
    left
    exact ⟨_, rfl⟩

/-- After an action a call is as before, or has just begun, or has taken a turn. -/
theorem at_act_cases {j : Nat} {call : Call ν ε} (h : (s.act a).At j call) :
  s.At j call ∨ (call.stage = .claiming ∧ s.calls.length ≤ j)
    ∨ ∃ old, s.At j old ∧ Turn s.cache (s.act a).cache old call
  := by
  rcases s.act_turns a with ⟨cache, same⟩ | ⟨new, begun, claiming⟩ | ⟨i, old, new, cache, taken,
    at_i, turn⟩
  · left
    rw [same] at h
    apply h
  · rw [begun, at_append_iff] at h
    rcases h with before | ⟨rfl, rfl⟩
    · left
      apply before
    · right; left
      exact ⟨claiming, Nat.le_refl _⟩
  · rw [taken, at_set_iff at_i] at h
    split at h
    · next same =>
      subst same h
      right; right
      rw [taken]
      exact ⟨old, at_i, turn⟩
    · left
      apply h

/-- After an action every call is still there. -/
theorem exists_at_act {j : Nat} {call : Call ν ε} (h : s.At j call) (a : Action ν ε) :
  ∃ new, (s.act a).At j new ∧ Continues call new
  := by
  rcases s.act_turns a with ⟨cache, same⟩ | ⟨new, begun, -⟩ | ⟨i, old, new, cache, taken,
    at_i, turn⟩
  · use call
    rw [same]
    exact ⟨h, Continues.refl call⟩
  · use call
    rw [begun, at_append_iff]
    exact ⟨Or.inl h, Continues.refl call⟩
  · rw [taken]
    simp only [at_set_iff at_i]
    by_cases same : j = i
    · subst same
      obtain rfl := h.unique at_i
      use new
      rw [if_pos rfl]
      exact ⟨rfl, turn.continues⟩
    · use call
      rw [if_neg same]
      exact ⟨h, Continues.refl call⟩

/-- An entry after an action was there before, or a call hands it over. -/
theorem mem_entries_act {entry : String × ν} (h : entry ∈ (s.act a).cache.entries) :
  entry ∈ s.cache.entries
    ∨ ∃ i call flight, s.At i call ∧ call.stage = .finished flight ∧ call.key = entry.1
      ∧ call.outcome = .value entry.2
  := by
  rcases s.act_cases a with same | step
  · left
    rw [same] at h
    apply h
  generalize s.act a = later at h step
  cases step with
  | @settle i flight call at_i stage =>
    rcases Cache.mem_settle_entries h with before | ⟨key, outcome⟩
    · left
      apply before
    · right
      exact ⟨i, call, flight, at_i, stage, key.symm, outcome⟩
  | hit _ _ _ =>
    left
    apply Recency.mem_of_mem_touch h
  | read key =>
    left
    apply Recency.mem_of_mem_touch h
  | clear => cases h
  | _ =>
    left
    apply h

/-- What has been published of a flight stays published. -/
theorem Consistent.published?_act (consistent : s.Consistent) {flight : Nat}
    {outcome : Outcome ν ε} (h : s.cache.published? flight = some outcome) (a : Action ν ε) :
  (s.act a).cache.published? flight = some outcome
  := by
  rcases s.act_cases a with same | step
  · rw [same]
    apply h
  generalize s.act a = later at step
  rw [Cache.published?_eq_some_iff] at h ⊢
  cases step with
  | create _ _ _ _ =>
    rw [← h]
    apply List.getElem?_append_left (List.getElem?_eq_some_iff.mp h).1
  | settle _ _ =>
    rw [Cache.settle_flights]
    apply h
  | @publish i other call at_i stage =>
    have owns : s.Owning i other := ⟨call, at_i, by rw [Call.owned?, stage]⟩
    have pending := (consistent.pending other).mpr ⟨i, owns⟩
    have different : other ≠ flight := by
      rintro rfl
      rw [h] at pending
      cases pending
    rw [← h]
    apply List.getElem?_set_ne different
  | _ => apply h

/-- What has been published of a flight stays published in every run. -/
theorem Consistent.published?_run (consistent : s.Consistent) {flight : Nat}
    {outcome : Outcome ν ε} (h : s.cache.published? flight = some outcome)
    (actions : List (Action ν ε)) :
  (s.run actions).cache.published? flight = some outcome
  := by
  induction actions generalizing s with
  | nil => apply h
  | cons a rest ih => apply ih (consistent.run [a]) (consistent.published?_act h a)

end Calls

end LinkedSchema
