import LinkedSchema.Schema.Link
import LinkedSchema.Proofs.OrderedMap

/-!
# Root operations

An operation has a type if the type of its name is there and is an object type.  If there is a type
for queries, nothing is found wrong with the operations if and only if every operation that has
been given a type by name has one, and no two operations have the same
(`Loader.operationFaults_eq_nil_iff`).
-/

namespace LinkedSchema.Loader

open Document (Operation)

variable (types : TypeTable) (roots : OrderedMap Operation Root)

/-- An operation has a type if and only if the name of it is that of an object type. -/
theorem rootPlace?_isSome_iff (operation : Operation) :
  (rootPlace? types roots operation).isSome
    ↔ ∃ type, types.get? (rootName roots operation) = some type ∧ type.kind = .object
  := by
  rw [rootPlace?]
  cases placed : types.indexOf? (rootName roots operation) with
  | none =>
    simp [OrderedMap.get?_eq_none_of_indexOf? placed]
  | some place =>
    obtain ⟨type, entry, found⟩ := OrderedMap.entryAt?_of_indexOf? placed
    simp [Option.filter_some, entry, found]

/-- The type of an operation stands in the place of its name. -/
theorem indexOf?_of_rootPlace? {operation : Operation} {place : Nat}
    (placed : rootPlace? types roots operation = some place) :
  types.indexOf? (rootName roots operation) = some place
  := (Option.filter_eq_some_iff.mp placed).1

/-- In the place of the type of an operation stands an object type of its name. -/
theorem exists_entry_of_rootPlace? {operation : Operation} {place : Nat}
    (placed : rootPlace? types roots operation = some place) :
  ∃ type, types.entryAt? place = some (rootName roots operation, type) ∧ type.kind = .object
  := by
  obtain ⟨indexed, object⟩ := Option.filter_eq_some_iff.mp placed
  obtain ⟨type, entry, -⟩ := OrderedMap.entryAt?_of_indexOf? indexed
  rw [entry] at object
  exact ⟨type, entry, beq_iff_eq.mp object⟩

/-- What stands in the place of the type of an operation is the type of its name, if that is an
object type. -/
theorem bind_rootPlace? (operation : Operation) :
  ((rootPlace? types roots operation).bind fun place => (types.entryAt? place).map Prod.snd)
    = (types.get? (rootName roots operation)).filter fun type => type.kind == .object
  := by
  rw [rootPlace?]
  cases placed : types.indexOf? (rootName roots operation) with
  | none =>
    rw [OrderedMap.get?_eq_none_of_indexOf? placed]
    rfl
  | some place =>
    obtain ⟨type, entry, found⟩ := OrderedMap.entryAt?_of_indexOf? placed
    rw [found, Option.filter_some, Option.filter_some, entry]
    cases object : type.kind == .object <;> simp [object, entry]

/-- Two operations that have types are not found to share one if and only if the names are
distinct. -/
theorem sharedFaults_eq_nil_iff (first second : Operation) :
  sharedFaults types roots first second = []
    ↔ ((rootPlace? types roots first).isSome → (rootPlace? types roots second).isSome →
      rootName roots first ≠ rootName roots second)
  := by
  rw [sharedFaults]
  cases first_placed : rootPlace? types roots first with
  | none => simp
  | some place =>
    cases second_placed : rootPlace? types roots second with
    | none => simp
    | some other =>
      have first_index := indexOf?_of_rootPlace? types roots first_placed
      have second_index := indexOf?_of_rootPlace? types roots second_placed
      have same_iff : place = other ↔ rootName roots first = rootName roots second := by
        constructor
        · rintro rfl
          apply OrderedMap.eq_of_indexOf? first_index second_index
        · intro same
          rw [same, second_index] at first_index
          cases first_index
          rfl
      simp [← same_iff]

/-- An operation is not found wrong if and only if it has a type in case one was named. -/
theorem rootFaults_eq_nil_iff (operation : Operation) :
  rootFaults types roots operation = []
    ↔ ((roots.get? operation).isSome → (rootPlace? types roots operation).isSome)
  := by
  rw [rootFaults]
  cases roots.get? operation with
  | none => simp
  | some root => cases rootPlace? types roots operation <;> simp

/-- If there is a type for queries, nothing is found wrong with the operations if and only if every
operation for which a type was named has one, and no two operations have the same. -/
theorem operationFaults_eq_nil_iff (query : (rootPlace? types roots .query).isSome) :
  operationFaults types roots = []
    ↔ (∀ operation, (roots.get? operation).isSome →
        (rootPlace? types roots operation).isSome)
      ∧ ∀ operation other, operation ≠ other → (rootPlace? types roots operation).isSome →
        (rootPlace? types roots other).isSome →
        rootName roots operation ≠ rootName roots other
  := by
  have no_fault : queryFaults types roots = [] := by
    rw [queryFaults, ← Option.not_isSome, query]
    rfl
  have all : ∀ operation, operation ∈ Operation.all := by
    intro operation
    cases operation <;> decide
  simp only [operationFaults, List.append_eq_nil_iff, List.flatMap_eq_nil_iff, all, true_implies,
    rootFaults_eq_nil_iff, sharedFaults_eq_nil_iff, no_fault, and_true, and_assoc]
  apply and_congr_right
  intro _
  constructor
  · rintro ⟨query_mutation, query_subscription, mutation_subscription⟩ operation other different
      placed other_placed same
    cases operation <;> cases other
    all_goals grind
  · intro distinct
    and_intros
    · apply distinct .query .mutation (by decide)
    · apply distinct .query .subscription (by decide)
    · apply distinct .mutation .subscription (by decide)

end LinkedSchema.Loader
