import LinkedSchema.Proofs.Cache.Consistency

/-!
# Single flight

In every run at most one call creates a value for a key at a time, the key is in flight exactly as
long as that call holds it, and no value is created where one is kept (`Calls.SingleFlight`).
Hence between two creations of a key it was evicted or the cache was cleared
(`Calls.singleFlight_run`).  The addition of a value is a call whose factory ends with it.
-/

namespace LinkedSchema

open OrderedMap (lookup)

variable {ν ε : Type}

namespace Calls

/-- Whether at most one call holds a key, and a key that is held or about to be given a value has
none. -/
structure SingleFlight (s : Calls ν ε) : Prop where
  /-- No two calls hold the same key. -/
  one : ∀ i j key first second, s.Holding i key first → s.Holding j key second → i = j
  /-- A key is in the flight of the call that holds it, and otherwise in none. -/
  inFlight : ∀ key flight, s.cache.flight? key = some flight ↔ ∃ i, s.Holding i key flight
  /-- A key in flight has no value. -/
  absent : ∀ key, (s.cache.flight? key).isSome → s.cache.contains key = false
  /-- There are no more values than may be kept. -/
  bounded : s.cache.size ≤ s.cache.capacity
  /-- A value that is taken up replaces none. -/
  fresh : ∀ i call flight, s.At i call → call.stage = .finished flight →
    s.cache.contains call.key = false

/-- A key has no value if and only if it is not a key of the entries. -/
theorem contains_eq_false_iff (c : Cache ν ε) (key : String) :
  c.contains key = false ↔ key ∉ c.entries.map Prod.fst
  := by
  rw [Cache.contains, Option.isSome_eq_false_iff, Option.isNone_iff_eq_none,
    OrderedMap.lookup_eq_none_iff]

/-- In a consistent state every flight is a single one. -/
theorem Consistent.singleFlight {s : Calls ν ε} (h : s.Consistent) :
  s.SingleFlight
  where
  one i j key first second holds holds' := by
    have flying := OrderedMap.lookup_of_mem h.inFlight ((h.held key first).mpr ⟨i, holds⟩)
    have flying' := OrderedMap.lookup_of_mem h.inFlight ((h.held key second).mpr ⟨j, holds'⟩)
    rw [flying] at flying'
    cases flying'
    apply h.owner i j first (Owning.of_holding holds) (Owning.of_holding holds')
  inFlight key flight := by
    rw [← h.held]
    constructor
    · apply OrderedMap.mem_of_lookup
    · apply OrderedMap.lookup_of_mem h.inFlight
  absent key flying := by
    obtain ⟨flight, found⟩ := Option.isSome_iff_exists.mp flying
    rw [contains_eq_false_iff]
    apply h.absent key flight (OrderedMap.mem_of_lookup found)
  bounded := h.bounded
  fresh i call flight at_i stage := by
    rw [contains_eq_false_iff]
    apply (h.not_mem_of_finished at_i stage).2

/-! ### Creations and evictions -/

/-- Whether an action takes up the value that was created for a key. -/
def Creates (s : Calls ν ε) (a : Action ν ε) (key : String) : Prop :=
  ∃ i call flight value, a = .advance i ∧ s.At i call ∧ call.stage = .finished flight
    ∧ call.key = key ∧ call.outcome = .value value

/-- Whether an action drops the value of a key because one is created for another key. -/
structure Evicts (s : Calls ν ε) (a : Action ν ε) (key : String) : Prop where
  creates : ∃ other, other ≠ key ∧ s.Creates a other
  before : s.cache.contains key = true
  after : (s.act a).cache.contains key = false

/-- A key has a value once one has been created for it. -/
theorem Creates.contains {s : Calls ν ε} {a : Action ν ε} {key : String} (h : s.Creates a key) :
  (s.act a).cache.contains key = true
  := by
  obtain ⟨i, call, flight, value, rfl, at_i, stage, rfl, outcome⟩ := h
  rw [act_advance at_i]
  simp only [Call.step, stage, outcome, Cache.settle]
  apply (OrderedMap.lookup_isSome_iff _ _).mpr
  apply List.mem_map_of_mem (Recency.mem_push s.cache.capacity_pos call.key value _)

/-- A use of a key keeps all values. -/
theorem contains_touch (c : Cache ν ε) (key other : String) :
  Cache.contains { c with entries := Recency.touch key c.entries } other = c.contains other
  := by rw [Cache.contains, Recency.lookup_touch, Cache.contains]

/-- A key that loses its value is evicted, or the cache is cleared. -/
theorem evicts_or_clear {s : Calls ν ε} {a : Action ν ε} {key : String}
    (before : s.cache.contains key = true) (after : (s.act a).cache.contains key = false) :
  a = .clear ∨ s.Evicts a key
  := by
  have kept : ∀ c : Cache ν ε, c.contains key = s.cache.contains key → c.contains key ≠ false := by
    intro c same none
    rw [same, before] at none
    cases none
  have lost := after
  rcases s.act_cases a with same | step
  · rw [same] at lost
    exact absurd lost (kept s.cache rfl)
  generalize s.act a = later at step lost
  cases step with
  | begin _ _ => exact absurd lost (kept _ rfl)
  | hit _ _ _ => exact absurd lost (kept _ (contains_touch _ _ _))
  | join _ _ _ => exact absurd lost (kept _ rfl)
  | create _ _ _ _ => exact absurd lost (kept _ rfl)
  | retry _ _ _ => exact absurd lost (kept _ rfl)
  | receive _ _ _ _ => exact absurd lost (kept _ rfl)
  | finish _ _ => exact absurd lost (kept _ rfl)
  | @settle i flight call at_i stage =>
    cases outcome : call.outcome with
    | value value =>
      right
      have creates : s.Creates (.advance i) call.key :=
        ⟨i, call, flight, value, rfl, at_i, stage, rfl, outcome⟩
      have different : call.key ≠ key := by
        rintro rfl
        rw [creates.contains] at after
        cases after
      exact ⟨⟨call.key, different, creates⟩, before, after⟩
    | error error =>
      rw [outcome] at lost
      exact absurd lost (kept _ rfl)
    | unwound =>
      rw [outcome] at lost
      exact absurd lost (kept _ rfl)
  | publish _ _ => exact absurd lost (kept _ rfl)
  | read other => exact absurd lost (kept _ (contains_touch _ _ _))
  | clear =>
    left
    rfl

/-- If a key has a value before actions and none after them, one of them evicts it or clears the
cache. -/
theorem exists_evicts_or_clear {s : Calls ν ε} {key : String} {actions : List (Action ν ε)}
    (before : s.cache.contains key = true)
    (after : (s.run actions).cache.contains key = false) :
  ∃ early a late, actions = early ++ a :: late ∧ (a = .clear ∨ (s.run early).Evicts a key)
  := by
  induction actions generalizing s with
  | nil =>
    rw [run, List.foldl_nil, before] at after
    cases after
  | cons a rest ih =>
    cases still : (s.act a).cache.contains key with
    | true =>
      obtain ⟨early, b, late, rfl, dropped⟩ := ih still after
      exact ⟨a :: early, b, late, rfl, dropped⟩
    | false => exact ⟨[], a, rest, rfl, evicts_or_clear before still⟩

theorem run_append_cons (s : Calls ν ε) (before between : List (Action ν ε)) (a : Action ν ε) :
  s.run (before ++ a :: between) = ((s.run before).act a).run between
  := by
  rw [run, List.foldl_append]
  rfl

/-- In a run from an empty cache at most one call creates a value for a key at a time, and between
two creations of a key it is evicted or the cache is cleared. -/
theorem singleFlight_run (capacity : Nat) (h : 0 < capacity) (actions : List (Action ν ε)) :
  ((idle capacity h).run actions).SingleFlight
    ∧ ((idle capacity h).run actions).cache.capacity = capacity
    ∧ ∀ before a between b after key, actions = before ++ a :: between ++ b :: after →
      ((idle capacity h).run before).Creates a key →
      ((idle capacity h).run (before ++ a :: between)).Creates b key →
      ∃ early c late, between = early ++ c :: late
        ∧ (c = .clear ∨ ((idle capacity h).run (before ++ a :: early)).Evicts c key)
  := by
  and_intros
  · apply (consistent_run capacity h actions).singleFlight
  · apply run_keeps (P := fun s => s.cache.capacity = capacity) _ rfl
    intro s a later same step
    rw [← same]
    cases step with
    | settle _ _ => apply Cache.settle_capacity
    | _ => rfl
  · intro before a between b after key _ creates again
    obtain ⟨i, call, flight, value, rfl, at_i, stage, rfl, outcome⟩ := again
    have fresh := (consistent_run capacity h (before ++ a :: between)).singleFlight.fresh
      i call flight at_i stage
    rw [run_append_cons] at fresh
    obtain ⟨early, c, late, rfl, dropped⟩ := exists_evicts_or_clear creates.contains fresh
    use early, c, late, rfl
    rw [run_append_cons]
    apply dropped

/-- Calls for two keys of a cache that keeps one value: the first call creates a value for its key,
the second one evicts it, and the third one creates it anew. -/
def rivalry : List (Action Nat Nat) :=
  [.begin "a" (.value 1), .begin "b" (.value 2), .begin "a" (.value 3)]
    ++ List.replicate 4 (.advance 0) ++ List.replicate 4 (.advance 1)
    ++ List.replicate 4 (.advance 2)

/-- In the rivalry of calls for two keys, a key is created twice and evicted in between. -/
theorem singleFlight_run_rivalry :
  ((idle 1 Nat.one_pos).run rivalry).SingleFlight
    ∧ Creates ((idle 1 Nat.one_pos).run (rivalry.take 5)) (.advance 0) "a"
    ∧ Creates ((idle 1 Nat.one_pos).run (rivalry.take 13)) (.advance 2) "a"
    ∧ ∃ early c late, (rivalry.drop 6).take 7 = early ++ c :: late
      ∧ (c = .clear
        ∨ Evicts ((idle 1 Nat.one_pos).run (rivalry.take 5 ++ .advance 0 :: early)) c "a")
  := by
  have first : Creates ((idle 1 Nat.one_pos).run (rivalry.take 5)) (.advance 0) "a" :=
    ⟨0, ⟨"a", .value 1, .finished 0, true⟩, 0, 1, rfl, rfl, rfl, rfl, rfl⟩
  have again : Creates ((idle 1 Nat.one_pos).run (rivalry.take 13)) (.advance 2) "a" :=
    ⟨2, ⟨"a", .value 3, .finished 2, true⟩, 2, 3, rfl, rfl, rfl, rfl, rfl⟩
  obtain ⟨single, -, evicted⟩ := singleFlight_run 1 Nat.one_pos rivalry
  use single, first, again
  apply evicted (rivalry.take 5) (.advance 0) ((rivalry.drop 6).take 7) (.advance 2)
    (rivalry.drop 14) "a" (by decide) first again

end Calls

end LinkedSchema
