import LinkedSchema.Proofs.Cache.Creators
import LinkedSchema.Proofs.Cache.SingleFlight

/-!
# Values that are kept

A cache that is not cleared loses a value only by becoming full, and from then on stays full.  Hence
in every run without clearing the cache is full in the end, or it keeps a value for the key of each
call that has handed one over or returned one (`Calls.full_or_keeps_run`).
-/

namespace LinkedSchema

open OrderedMap (lookup)

variable {ν ε : Type}

/-! ### Lengths of recency lists -/

namespace Recency

variable {key : String} {entries : List (String × ν)}

/-- A use keeps the number of entries. -/
theorem length_touch (distinct : (entries.map Prod.fst).Nodup) (key : String) :
  (touch key entries).length = entries.length
  := by
  have same : ((touch key entries).map Prod.fst).Perm (entries.map Prod.fst) := by
    rw [List.perm_ext_iff_of_nodup (nodup_touch distinct key) distinct]
    intro other
    apply mem_map_fst_touch_iff
  rw [← List.length_map, same.length_eq, List.length_map]

/-- An insertion of a new key adds one entry, as far as the capacity goes. -/
theorem length_push_of_not_mem (new : key ∉ entries.map Prod.fst) (capacity : Nat) (value : ν) :
  (push capacity key value entries).length = min capacity (entries.length + 1)
  := by
  have kept : erase key entries = entries := by
    rw [erase, List.filter_eq_self]
    intro entry member
    have different : entry.1 ≠ key := by
      rintro rfl
      exact new (List.mem_map_of_mem member)
    simpa using different
  rw [push, kept, List.length_take, List.length_cons]

/-- An insertion that leaves room drops no key. -/
theorem mem_map_fst_push_of_lt {capacity : Nat} {value : ν} {other : String}
    (room : (push capacity key value entries).length < capacity)
    (there : other ∈ entries.map Prod.fst) :
  other ∈ (push capacity key value entries).map Prod.fst
  := by
  have whole : push capacity key value entries = (key, value) :: erase key entries := by
    rw [push, List.length_take] at room
    rw [push, List.take_of_length_le]
    omega
  rw [whole, List.map_cons, List.mem_cons, map_fst_erase, List.mem_filter]
  by_cases same : other = key
  · left
    apply same
  · right
    exact ⟨there, by simpa using same⟩

end Recency

namespace Calls

/-! ### Full caches -/

/-- Whether a cache keeps as many values as it may. -/
def Full (s : Calls ν ε) : Prop := s.cache.size = s.cache.capacity

section Act

variable {s : Calls ν ε} {a : Action ν ε}

theorem capacity_act (s : Calls ν ε) (a : Action ν ε) :
  (s.act a).cache.capacity = s.cache.capacity
  := by
  rcases s.act_cases a with same | step
  · rw [same]
  generalize s.act a = later at step
  cases step with
  | settle _ _ => apply Cache.settle_capacity
  | _ => rfl

theorem capacity_run (s : Calls ν ε) (actions : List (Action ν ε)) :
  (s.run actions).cache.capacity = s.cache.capacity
  := by
  induction actions using List.reverseRecOn with
  | nil => rfl
  | append_singleton actions a ih =>
    rw [run_concat, capacity_act]
    apply ih

/-- An action other than clearing the cache leaves it no smaller. -/
theorem Consistent.size_le_act (consistent : s.Consistent) (keeps : a ≠ .clear) :
  s.cache.size ≤ (s.act a).cache.size
  := by
  rcases s.act_cases a with same | step
  · apply Nat.le_of_eq
    rw [same]
  generalize s.act a = later at step
  cases step with
  | hit _ _ _ => apply Nat.le_of_eq (Recency.length_touch consistent.entries _).symm
  | read key => apply Nat.le_of_eq (Recency.length_touch consistent.entries key).symm
  | @settle i flight call at_i stage =>
    cases outcome : call.outcome with
    | value value =>
      have fresh := (consistent.not_mem_of_finished at_i stage).2
      have pushed := Recency.length_push_of_not_mem fresh s.cache.capacity value
      apply Nat.le_trans _ (Nat.le_of_eq pushed.symm)
      apply Nat.le_min_of_le_of_le consistent.bounded (Nat.le_succ _)
    | error error => apply Nat.le_refl
    | unwound => apply Nat.le_refl
  | clear => exact absurd rfl keeps
  | _ => apply Nat.le_refl

theorem Consistent.size_act_le (consistent : s.Consistent) (a : Action ν ε) :
  (s.act a).cache.size ≤ (s.act a).cache.capacity
  := (consistent.run [a]).bounded

/-- A full cache stays full unless it is cleared. -/
theorem Full.act (full : s.Full) (consistent : s.Consistent) (keeps : a ≠ .clear) :
  (s.act a).Full
  := by
  apply Nat.le_antisymm (consistent.size_act_le a)
  rw [capacity_act, ← full]
  apply consistent.size_le_act keeps

/-- A cache that loses a value without being cleared is full from then on. -/
theorem full_of_lost {key : String} (keeps : a ≠ .clear) (consistent : s.Consistent)
    (before : s.cache.contains key = true) (after : (s.act a).cache.contains key = false) :
  (s.act a).Full
  := by
  rcases evicts_or_clear before after with clears | evicts
  · exact absurd clears keeps
  obtain ⟨other, -, i, call, flight, value, rfl, at_i, stage, rfl, outcome⟩ := evicts.creates
  have pushed : (s.act (.advance i)).cache.entries
      = Recency.push s.cache.capacity call.key value s.cache.entries := by
    rw [act_advance at_i]
    simp only [Call.step, stage, outcome, Cache.settle, Cache.release]
  rw [contains_eq_false_iff, pushed] at after
  rw [Cache.contains, OrderedMap.lookup_isSome_iff] at before
  apply Nat.le_antisymm (consistent.size_act_le _)
  apply Nat.le_of_not_lt
  intro room
  rw [capacity_act, Cache.size, pushed] at room
  apply after (Recency.mem_map_fst_push_of_lt room before)

end Act

/-! ### What calls have given -/

/-- Whether a call has handed over a value to the cache, or returned it. -/
def Gave (call : Call ν ε) (value : ν) : Prop :=
  (∃ flight, call.stage = .settled flight) ∧ call.outcome = .value value
    ∨ call.stage = .returned (.value value)

/-- Whether a cache keeps a value for the key of every call that has given one. -/
def Keeps (s : Calls ν ε) : Prop :=
  ∀ i call value, s.At i call → Gave call value → s.cache.contains call.key = true

/-- A call that was chosen to create a flight has still to publish it, or has returned its own
outcome. -/
theorem Created.owned?_or_returned {first : Calls ν ε} {actions : List (Action ν ε)}
    {i flight : Nat} (created : Created first actions i flight) :
  ∃ call, (first.run actions).At i call
    ∧ (call.owned? = some flight ∨ call.stage = .returned call.outcome)
  := by
  induction actions using List.reverseRecOn with
  | nil =>
    obtain ⟨early, call, before, at_i, stage⟩ := created
    rw [List.prefix_nil.mp before] at at_i
    use call, at_i
    left
    rw [Call.owned?, stage]
  | append_singleton actions a ih =>
    rw [run_concat]
    rcases created_concat_iff.mp created with earlier | ⟨call, at_i, stage⟩
    · obtain ⟨old, at_old, state⟩ := ih earlier
      obtain ⟨new, at_new, continues⟩ := exists_at_act at_old a
      use new, at_new
      rcases at_act_cases at_new with same | ⟨-, beyond⟩ | ⟨before, at_before, turn⟩
      · rw [same.unique at_old]
        apply state
      · exact absurd at_old.lt (Nat.not_lt.mpr beyond)
      · obtain rfl := at_before.unique at_old
        rcases state with owned | returned
        · rw [continues.outcome]
          apply (turn.owned?_or_publish owned).imp_right And.right
        · cases turn <;> simp_all
    · use call, at_i
      left
      rw [Call.owned?, stage]

section Keeps

variable {s : Calls ν ε} {cache : Cache ν ε} {i : Nat} {old new : Call ν ε} {value : ν}

/-- A call that goes on leaves what is kept, if the cache loses nothing and keeps what the call
gives. -/
theorem Keeps.set (keeps : s.Keeps) (at_i : s.At i old)
    (kept : ∀ key, s.cache.contains key = true → cache.contains key = true)
    (given : ∀ value, Gave new value → cache.contains new.key = true) :
  Keeps ⟨cache, s.calls.set i new⟩
  := by
  intro j call value at_j gave
  rw [at_set_iff at_i] at at_j
  split at at_j
  · subst at_j
    apply given value gave
  · apply kept call.key (keeps j call value at_j gave)

/-- A call that receives a value receives it from a call that gave it. -/
theorem Chronicle.contains_of_received {first : Calls ν ε} {actions : List (Action ν ε)}
    (h : Chronicle first actions) (keeps : (first.run actions).Keeps) {flight : Nat}
    {call : Call ν ε} (at_i : (first.run actions).At i call) (stage : call.stage = .waiting flight)
    (published : (first.run actions).cache.published? flight = some (.value value)) :
  (first.run actions).cache.contains call.key = true
  := by
  obtain ⟨j, creator, created, at_j, key⟩ := h.waiting i call flight at_i stage
  obtain ⟨same, at_same, state⟩ := created.owned?_or_returned
  obtain rfl := at_same.unique at_j
  rw [← key]
  apply keeps j same value at_j
  right
  rcases state with owned | returned
  · have pending := (h.consistent.pending flight).mpr ⟨j, same, at_j, owned⟩
    rw [Cache.published?_eq_some_iff.mp published] at pending
    cases pending
  · rw [returned, (h.outcome_eq created at_j published).1]

/-- An action that loses nothing leaves a value for the key of every call that has given one. -/
theorem Keeps.act {first : Calls ν ε} {actions : List (Action ν ε)} (h : Chronicle first actions)
    (keeps : (first.run actions).Keeps) (a : Action ν ε)
    (kept : ∀ key, (first.run actions).cache.contains key = true →
      ((first.run actions).act a).cache.contains key = true) :
  ((first.run actions).act a).Keeps
  := by
  rcases (first.run actions).act_cases a with same | step
  · rw [same]
    apply keeps
  generalize (first.run actions).act a = later at kept step
  cases step with
  | begin key outcome =>
    intro j call value at_j gave
    rcases (at_append_iff _ _ _ j call).mp at_j with before | ⟨-, rfl⟩
    · apply keeps j call value before gave
    · simp [Gave, Call.start] at gave
  | hit at_i _ found =>
    apply keeps.set at_i kept
    intro value _
    apply kept
    rw [Cache.contains, found]
    rfl
  | @receive i flight call outcome at_i stage published _ =>
    apply keeps.set at_i kept
    intro value gave
    have received : outcome = .value value := by simpa [Gave] using gave
    rw [received] at published
    apply h.contains_of_received keeps at_i stage published
  | @settle i flight call at_i stage =>
    apply keeps.set at_i kept
    intro value gave
    have outcome : call.outcome = .value value := by simpa [Gave] using gave
    rw [Cache.contains, OrderedMap.lookup_isSome_iff, outcome]
    apply List.mem_map_of_mem (Recency.mem_push _ call.key value _)
    apply Cache.capacity_pos
  | @publish i flight call at_i stage =>
    apply keeps.set at_i kept
    intro value gave
    have outcome : call.outcome = .value value := by simpa [Gave] using gave
    apply keeps i call value at_i
    left
    exact ⟨⟨flight, stage⟩, outcome⟩
  | join at_i _ _ | create at_i _ _ _ | retry at_i _ _ | finish at_i _ =>
    apply keeps.set at_i kept
    intro value gave
    simp [Gave] at gave
  | read key | clear =>
    intro j call value at_j gave
    apply kept call.key (keeps j call value at_j gave)

end Keeps

/-- In a run from an empty cache that does not clear it, the cache is full in the end, or it keeps a
value for the key of every call that has given one. -/
theorem full_or_keeps_run (capacity : Nat) (h : 0 < capacity) {actions : List (Action ν ε)}
    (uncleared : .clear ∉ actions) :
  ((idle capacity h).run actions).Full ∨ ((idle capacity h).run actions).Keeps
  := by
  induction actions using List.reverseRecOn with
  | nil =>
    right
    intro i call value at_i
    cases at_i
  | append_singleton actions a ih =>
    rw [List.mem_append, not_or, List.mem_singleton] at uncleared
    obtain ⟨earlier, keeps⟩ := uncleared
    have chronicle := chronicle_run capacity h actions
    rw [run_concat]
    rw [or_iff_not_imp_left]
    intro room
    rcases ih earlier with full | kept
    · exact absurd (full.act chronicle.consistent (Ne.symm keeps)) room
    · apply kept.act chronicle
      intro key there
      apply eq_true_of_ne_false
      intro lost
      exact room (full_of_lost (Ne.symm keeps) chronicle.consistent there lost)

end Calls

end LinkedSchema
