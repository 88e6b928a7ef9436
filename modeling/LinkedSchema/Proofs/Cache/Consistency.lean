import LinkedSchema.Proofs.Cache.Steps

/-!
# Consistent caches

In every run from an empty cache the flights of the cache are exactly those that calls hold and
have still to publish, one call for each flight, and no key is in flight and kept at the same time
(`Calls.Consistent`, `Calls.consistent_run`).
-/

namespace LinkedSchema

open OrderedMap (lookup)

variable {ν ε : Type}

/-! ### Taking up an outcome -/

namespace Cache

variable (c : Cache ν ε) (key : String) (flight : Nat) (outcome : Outcome ν ε)

theorem settle_inFlight :
  (c.settle key flight outcome).inFlight = c.inFlight.filter fun entry => entry ≠ (key, flight)
  := by cases outcome <;> rfl

theorem settle_flights :
  (c.settle key flight outcome).flights = c.flights
  := by cases outcome <;> rfl

theorem settle_capacity :
  (c.settle key flight outcome).capacity = c.capacity
  := by cases outcome <;> rfl

/-- An entry after an outcome has been taken up is the value, or was there before. -/
theorem mem_settle_entries {c : Cache ν ε} {key : String} {flight : Nat} {outcome : Outcome ν ε}
    {entry : String × ν} (h : entry ∈ (c.settle key flight outcome).entries) :
  entry ∈ c.entries ∨ entry.1 = key ∧ outcome = .value entry.2
  := by
  cases outcome with
  | value value =>
    rcases Recency.mem_of_mem_push h with rfl | before
    · right
      exact ⟨rfl, rfl⟩
    · left
      apply before
  | error error =>
    left
    apply h
  | unwound =>
    left
    apply h

/-- Taking up an outcome makes no key stand twice. -/
theorem nodup_settle_entries (distinct : (c.entries.map Prod.fst).Nodup) :
  ((c.settle key flight outcome).entries.map Prod.fst).Nodup
  := by
  cases outcome with
  | value value => apply Recency.nodup_push distinct
  | error error => apply distinct
  | unwound => apply distinct

/-- Taking up an outcome keeps within the capacity. -/
theorem length_settle_entries_le (bounded : c.entries.length ≤ c.capacity) :
  (c.settle key flight outcome).entries.length ≤ c.capacity
  := by
  cases outcome with
  | value value => apply Recency.length_push_le
  | error error => apply bounded
  | unwound => apply bounded

end Cache

namespace Calls

/-- Whether the cache and the calls in progress agree about the flights. -/
structure Consistent (s : Calls ν ε) : Prop where
  /-- No key is kept twice. -/
  entries : (s.cache.entries.map Prod.fst).Nodup
  /-- There are no more values than may be kept. -/
  bounded : s.cache.entries.length ≤ s.cache.capacity
  /-- No key is in flight twice. -/
  inFlight : (s.cache.inFlight.map Prod.fst).Nodup
  /-- A key is in flight exactly if a call holds it in that flight. -/
  held : ∀ key flight, (key, flight) ∈ s.cache.inFlight ↔ ∃ i, s.Holding i key flight
  /-- A key in flight has no value. -/
  absent : ∀ key flight, (key, flight) ∈ s.cache.inFlight → key ∉ s.cache.entries.map Prod.fst
  /-- No two calls have still to publish the same flight. -/
  owner : ∀ i j flight, s.Owning i flight → s.Owning j flight → i = j
  /-- A flight has not been published exactly if a call has still to publish it. -/
  pending : ∀ flight, s.cache.flights[flight]? = some none ↔ ∃ i, s.Owning i flight

/-- The cache of a capacity that keeps nothing yet, without calls. -/
def idle (capacity : Nat) (h : 0 < capacity) : Calls ν ε := ⟨Cache.ofCapacity capacity h, []⟩

/-- A cache without calls that keeps nothing is consistent. -/
theorem consistent_idle (capacity : Nat) (h : 0 < capacity) :
  Consistent (idle capacity h : Calls ν ε)
  where
  entries := List.nodup_nil
  bounded := Nat.zero_le _
  inFlight := List.nodup_nil
  held key flight := by simp [idle, Cache.ofCapacity, Holding, At]
  absent key flight flying := by cases flying
  owner i j flight owning := by simp [idle, Owning, At] at owning
  pending flight := by simp [idle, Cache.ofCapacity, Owning, At]

section Set

variable {s : Calls ν ε} {i : Nat} {old new : Call ν ε} (at_i : s.At i old)

include at_i

/-- A call that goes on and holds what it held leaves all that is held. -/
theorem holding_set_same_iff (cache : Cache ν ε) (key : new.key = old.key)
    (held : new.held? = old.held?) (j : Nat) (k : String) (flight : Nat) :
  Holding ⟨cache, s.calls.set i new⟩ j k flight ↔ s.Holding j k flight
  := by
  rw [holding_set_iff at_i]
  split
  · next same =>
    subst same
    rw [key, held]
    constructor
    · intro holds
      exact ⟨old, at_i, holds⟩
    · rintro ⟨call, at_j, holds⟩
      rw [at_j.unique at_i] at holds
      apply holds
  · rfl

/-- A call that goes on and has to publish what it had leaves all that has to be published. -/
theorem owning_set_same_iff (cache : Cache ν ε) (owned : new.owned? = old.owned?) (j flight : Nat) :
  Owning ⟨cache, s.calls.set i new⟩ j flight ↔ s.Owning j flight
  := by
  rw [owning_set_iff at_i]
  split
  · next same =>
    subst same
    rw [owned]
    constructor
    · intro owns
      exact ⟨old, at_i, owns⟩
    · rintro ⟨call, at_j, owns⟩
      rw [at_j.unique at_i] at owns
      apply owns
  · rfl

end Set

/-- A step that changes neither flights nor who holds or has still to publish them, and keeps no
more keys than before, keeps consistency. -/
theorem Consistent.of_same {s later : Calls ν ε} (h : s.Consistent)
    (inFlight : later.cache.inFlight = s.cache.inFlight)
    (flights : later.cache.flights = s.cache.flights)
    (distinct : (later.cache.entries.map Prod.fst).Nodup)
    (bounded : later.cache.entries.length ≤ later.cache.capacity)
    (keys : ∀ key ∈ later.cache.entries.map Prod.fst, key ∈ s.cache.entries.map Prod.fst)
    (holding : ∀ i key flight, later.Holding i key flight ↔ s.Holding i key flight)
    (owning : ∀ i flight, later.Owning i flight ↔ s.Owning i flight) :
  later.Consistent
  where
  entries := distinct
  bounded := bounded
  inFlight := inFlight ▸ h.inFlight
  held key flight := by
    rw [inFlight, h.held]
    simp only [holding]
  absent key flight flying kept := by
    rw [inFlight] at flying
    apply h.absent key flight flying (keys key kept)
  owner i j flight first second :=
    h.owner i j flight ((owning i flight).mp first) ((owning j flight).mp second)
  pending flight := by
    rw [flights, h.pending]
    simp only [owning]

/-- A call that goes on, and holds and has to publish what it did before, keeps consistency. -/
theorem Consistent.of_set {s : Calls ν ε} (h : s.Consistent) {i : Nat} {old new : Call ν ε}
    (at_i : s.At i old) (key : new.key = old.key) (held : new.held? = old.held?)
    (owned : new.owned? = old.owned?) :
  Consistent ⟨s.cache, s.calls.set i new⟩
  := by
  refine h.of_same rfl rfl h.entries h.bounded (fun _ => id) ?_ ?_
  · apply holding_set_same_iff at_i s.cache key held
  · apply owning_set_same_iff at_i s.cache owned

/-- A use of a key keeps consistency. -/
theorem Consistent.touch {s : Calls ν ε} (h : s.Consistent) (key : String) :
  Consistent ⟨{ s.cache with entries := Recency.touch key s.cache.entries }, s.calls⟩
  := by
  refine h.of_same rfl rfl (Recency.nodup_touch h.entries key) ?_ ?_ ?_ ?_
  · apply Nat.le_trans (Recency.length_touch_le key _) h.bounded
  · intro other
    apply (Recency.mem_map_fst_touch_iff key other _).mp
  · intro i k flight
    rfl
  · intro i flight
    rfl

/-- A call that begins holds nothing. -/
theorem holding_begin_iff (s : Calls ν ε) (key : String) (outcome : Outcome ν ε) (j : Nat)
    (k : String) (flight : Nat) :
  Holding ⟨s.cache, s.calls ++ [.start key outcome]⟩ j k flight ↔ s.Holding j k flight
  := by
  simp only [Holding, at_append_iff, or_and_right, exists_or]
  simp [Call.start, Call.held?]

/-- A call that begins has nothing to publish. -/
theorem owning_begin_iff (s : Calls ν ε) (key : String) (outcome : Outcome ν ε) (j flight : Nat) :
  Owning ⟨s.cache, s.calls ++ [.start key outcome]⟩ j flight ↔ s.Owning j flight
  := by
  simp only [Owning, at_append_iff, or_and_right, exists_or]
  simp [Call.start, Call.owned?]

/-- Only a flight that has been begun has still to be published. -/
theorem Consistent.lt_of_owning {s : Calls ν ε} (h : s.Consistent) {i flight : Nat}
    (owns : s.Owning i flight) :
  flight < s.cache.flights.length
  := (List.getElem?_eq_some_iff.mp ((h.pending flight).mpr ⟨i, owns⟩)).1

theorem Owning.of_holding {s : Calls ν ε} {i : Nat} {key : String} {flight : Nat}
    (holds : s.Holding i key flight) :
  s.Owning i flight
  := by
  obtain ⟨call, at_i, -, held⟩ := holds
  exact ⟨call, at_i, Call.owned?_of_held? held⟩

/-- The choice of a creator keeps consistency: its key is not in flight yet, and neither is the
number of its flight taken. -/
theorem Consistent.create {s : Calls ν ε} (h : s.Consistent) {i : Nat} {call : Call ν ε}
    (at_i : s.At i call) (stage : call.stage = .claiming)
    (missing : lookup call.key s.cache.entries = none) (landed : s.cache.flight? call.key = none) :
  Consistent ⟨{ s.cache with
      inFlight := s.cache.inFlight ++ [(call.key, s.cache.flights.length)]
      flights := s.cache.flights ++ [none] },
    s.calls.set i { call with stage := .creating s.cache.flights.length, ran := true }⟩
  where
  entries := h.entries
  bounded := h.bounded
  inFlight := by
    rw [List.map_append, List.nodup_append]
    use h.inFlight, List.nodup_singleton _
    have new := (OrderedMap.lookup_eq_none_iff _ _).mp landed
    intro key flying other same equal
    rw [List.map_singleton, List.mem_singleton] at same
    rw [equal, same] at flying
    apply new flying
  held key flight := by
    have holds_none : ¬ s.Holding i key flight := by
      rintro ⟨other, at_other, -, held⟩
      rw [at_other.unique at_i, Call.held?, stage] at held
      cases held
    simp only [List.mem_append, h.held, List.mem_singleton, Prod.mk.injEq, holding_set_iff at_i,
      Call.held?, Option.some.injEq]
    grind
  absent key flight flying := by
    rcases List.mem_append.mp flying with before | new
    · apply h.absent key flight before
    · cases List.mem_singleton.mp new
      apply (OrderedMap.lookup_eq_none_iff _ _).mp missing
  owner j k flight first second := by
    rw [owning_set_iff at_i] at first second
    have older := fun {l} (owns : s.Owning l flight) => h.lt_of_owning owns
    simp only [Call.owned?, Option.some.injEq] at first second
    split at first
    · next same =>
      split at second
      · next same' => rw [same, same']
      · have := older second
        omega
    · split at second
      · have := older first
        omega
      · apply h.owner j k flight first second
  pending flight := by
    have owns_none : ¬ s.Owning i flight := by
      rintro ⟨other, at_other, owned⟩
      rw [at_other.unique at_i, Call.owned?, stage] at owned
      cases owned
    have before := h.pending flight
    have older := fun {l} (owns : s.Owning l flight) => h.lt_of_owning owns
    simp only [owning_set_iff at_i, Call.owned?, Option.some.injEq]
    rw [List.getElem?_append]
    grind

/-- A call about to hand over its outcome holds its key, so that the key has no value. -/
theorem Consistent.not_mem_of_finished {s : Calls ν ε} (h : s.Consistent) {i flight : Nat}
    {call : Call ν ε} (at_i : s.At i call) (stage : call.stage = .finished flight) :
  (call.key, flight) ∈ s.cache.inFlight ∧ call.key ∉ s.cache.entries.map Prod.fst
  := by
  have holds : s.Holding i call.key flight := by
    use call, at_i, rfl
    rw [Call.held?, stage]
  have flying := (h.held call.key flight).mpr ⟨i, holds⟩
  use flying
  apply h.absent call.key flight flying

/-- Taking up an outcome keeps consistency: the call that hands it over is the only one that holds
its flight. -/
theorem Consistent.settle {s : Calls ν ε} (h : s.Consistent) {i flight : Nat} {call : Call ν ε}
    (at_i : s.At i call) (stage : call.stage = .finished flight) :
  Consistent ⟨s.cache.settle call.key flight call.outcome,
    s.calls.set i { call with stage := .settled flight }⟩
  where
  entries := s.cache.nodup_settle_entries call.key flight call.outcome h.entries
  bounded := by
    rw [Cache.settle_capacity]
    apply Cache.length_settle_entries_le _ _ _ _ h.bounded
  inFlight := by
    rw [Cache.settle_inFlight]
    apply h.inFlight.sublist (List.filter_sublist.map Prod.fst)
  held key other := by
    have owns : s.Owning i flight := ⟨call, at_i, by rw [Call.owned?, stage]⟩
    have only : ∀ j, s.Holding j call.key flight → j = i :=
      fun j holds => h.owner j i flight (Owning.of_holding holds) owns
    have held_at : ∀ k f, s.Holding i k f → k = call.key ∧ f = flight := by
      rintro k f ⟨same, at_same, rfl, held⟩
      rw [at_same.unique at_i, Call.held?, stage] at held
      rw [at_same.unique at_i]
      exact ⟨rfl, (Option.some.inj held).symm⟩
    simp only [Cache.settle_inFlight, List.mem_filter, decide_eq_true_eq, h.held, ne_eq,
      Prod.mk.injEq, holding_set_iff at_i, Call.held?, reduceCtorEq, and_false]
    grind
  absent key other flying kept := by
    rw [Cache.settle_inFlight, List.mem_filter, decide_eq_true_eq] at flying
    obtain ⟨flying, different⟩ := flying
    obtain ⟨entry, member, rfl⟩ := List.mem_map.mp kept
    rcases Cache.mem_settle_entries member with before | ⟨same, -⟩
    · apply h.absent entry.1 other flying (List.mem_map_of_mem before)
    · -- No key is in flight twice, so that the flight is that of the call.
      have first := OrderedMap.lookup_of_mem h.inFlight (h.not_mem_of_finished at_i stage).1
      have second := OrderedMap.lookup_of_mem h.inFlight flying
      rw [same, first] at second
      apply different
      rw [same, Option.some.inj second]
  owner j k other first second := by
    have owned : ({ call with stage := .settled flight } : Call ν ε).owned? = call.owned? := by
      rw [Call.owned?, Call.owned?, stage]
    rw [owning_set_same_iff at_i _ owned] at first second
    apply h.owner j k other first second
  pending other := by
    have owned : ({ call with stage := .settled flight } : Call ν ε).owned? = call.owned? := by
      rw [Call.owned?, Call.owned?, stage]
    rw [Cache.settle_flights, h.pending]
    simp only [owning_set_same_iff at_i _ owned]

/-- A publication keeps consistency: the call that publishes is the only one that had to. -/
theorem Consistent.publish {s : Calls ν ε} (h : s.Consistent) {i flight : Nat} {call : Call ν ε}
    (at_i : s.At i call) (stage : call.stage = .settled flight) :
  Consistent ⟨s.cache.publish flight call.outcome,
    s.calls.set i { call with stage := .returned call.outcome }⟩
  where
  entries := h.entries
  bounded := h.bounded
  inFlight := h.inFlight
  held key other := by
    let new : Call ν ε := { call with stage := .returned call.outcome }
    have held : new.held? = call.held? := by
      rw [Call.held?, Call.held?, stage]
    have key_same : new.key = call.key := rfl
    have same := holding_set_same_iff at_i (s.cache.publish flight call.outcome) key_same held
    simp only [new] at same
    simp only [same]
    apply h.held
  absent := h.absent
  owner j k other first second := by
    rw [owning_set_iff at_i] at first second
    split at first
    · cases first
    · split at second
      · cases second
      · apply h.owner j k other first second
  pending other := by
    have owns : s.Owning i flight := ⟨call, at_i, by rw [Call.owned?, stage]⟩
    have only := fun j owns_j => h.owner j i flight owns_j owns
    have owned_at : ∀ f, s.Owning i f → f = flight := by
      rintro f ⟨same, at_same, owned⟩
      rw [at_same.unique at_i, Call.owned?, stage] at owned
      exact (Option.some.inj owned).symm
    have before := h.pending other
    rw [Cache.publish, List.getElem?_set]
    simp only [owning_set_iff at_i, Call.owned?, reduceCtorEq]
    grind

/-- Every step keeps consistency. -/
theorem Consistent.step {s later : Calls ν ε} (h : s.Consistent) {a : Action ν ε}
    (step : s.Step a later) :
  later.Consistent
  := by
  cases step with
  | begin key outcome =>
    refine h.of_same rfl rfl h.entries h.bounded (fun _ => id) ?_ ?_
    · apply holding_begin_iff
    · apply owning_begin_iff
  | hit at_i stage found =>
    refine (h.touch _).of_set at_i rfl ?_ ?_
    · rw [Call.held?, Call.held?, stage]
    · rw [Call.owned?, Call.owned?, stage]
  | join at_i stage flying =>
    refine h.of_set at_i rfl ?_ ?_
    · rw [Call.held?, Call.held?, stage]
    · rw [Call.owned?, Call.owned?, stage]
  | create at_i stage missing landed => apply h.create at_i stage missing landed
  | retry at_i stage published =>
    refine h.of_set at_i rfl ?_ ?_
    · rw [Call.held?, Call.held?, stage]
    · rw [Call.owned?, Call.owned?, stage]
  | receive at_i stage published _ =>
    refine h.of_set at_i rfl ?_ ?_
    · rw [Call.held?, Call.held?, stage]
    · rw [Call.owned?, Call.owned?, stage]
  | finish at_i stage =>
    refine h.of_set at_i rfl ?_ ?_
    · rw [Call.held?, Call.held?, stage]
    · rw [Call.owned?, Call.owned?, stage]
  | settle at_i stage => apply h.settle at_i stage
  | publish at_i stage => apply h.publish at_i stage
  | read key => apply h.touch key
  | clear =>
    refine h.of_same rfl rfl List.nodup_nil (Nat.zero_le _) ?_ ?_ ?_
    · intro key kept
      cases kept
    · intro i key flight
      rfl
    · intro i flight
      rfl

/-- Every run from a consistent state ends in one. -/
theorem Consistent.run {s : Calls ν ε} (h : s.Consistent) (actions : List (Action ν ε)) :
  (s.run actions).Consistent
  := by
  apply run_keeps (fun h step => h.step step) h

/-- Every run from an empty cache ends in a consistent state. -/
theorem consistent_run (capacity : Nat) (h : 0 < capacity) (actions : List (Action ν ε)) :
  ((idle capacity h).run actions).Consistent
  := (consistent_idle capacity h).run actions

end Calls

end LinkedSchema
