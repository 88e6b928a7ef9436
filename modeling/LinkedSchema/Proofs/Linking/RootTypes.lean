import LinkedSchema.Proofs.Acceptance.Acceptance
import LinkedSchema.Proofs.Linking.WellFormed

/-!
# Root types

The type of an operation in a schema is the object type of the name that a schema block gives it, or
else of its own name (`Loader.Loads.rootType?_eq`).  Hence the root types are distinct object types
of the table, and those that are declared are the declared ones (`Loader.Loads.soundRoots`).  An
operation that no block declares falls back to its own name even if there are blocks
(`Loader.Loads.falls_back_of_undeclared`).
-/

namespace LinkedSchema

open Document

namespace Schema

/-- The place of the type of an operation. -/
def rootPlace? (s : Schema) : Operation → Option Nat
  | .query => some s.query
  | .mutation => s.mutation
  | .subscription => s.subscription

/-- The type of an operation. -/
def rootType? (s : Schema) : Operation → Option TypeDefinition
  | .query => s.queryType?
  | .mutation => s.mutationType?
  | .subscription => s.subscriptionType?

theorem rootType?_eq_bind (s : Schema) (operation : Operation) :
  s.rootType? operation = (s.rootPlace? operation).bind s.typeAt?
  := by cases operation <;> rfl

/-- Whether the types of operations in a schema are sound for the definitions that were loaded. -/
structure SoundRoots (s : Schema) (ds : List Definition) : Prop where
  /-- The type for queries stands in the table. -/
  query : s.query < s.types.size
  /-- Every operation that has been given a place has the object type there. -/
  objects : ∀ operation place, s.rootPlace? operation = some place →
    ∃ type, s.rootType? operation = some type ∧ type.kind = .object
  /-- No two operations have the same place, nor types of the same name. -/
  distinct : ∀ operation other, operation ≠ other →
    (∀ place, s.rootPlace? operation = some place → s.rootPlace? other ≠ some place)
      ∧ ∀ type other_type, s.rootType? operation = some type → s.rootType? other = some other_type →
        type.name ≠ other_type.name
  /-- An operation for which a schema block names a type has that type. -/
  declared : ∀ operation, ∀ name ∈ declaredRoots ds operation,
    ∃ type, s.type? name = some type ∧ s.rootType? operation = some type
  /-- If there is no schema block, an operation has the type of its own name if that is an object
  type, and otherwise none. -/
  default : (∀ d ∈ ds, d.schema? = none) → ∀ operation type,
    s.rootType? operation = some type
      ↔ s.type? operation.title = some type ∧ type.kind = .object

end Schema

/-! ### Names of root types -/

/-- The built-in definitions name no type for an operation. -/
theorem declaredRoots_builtIn_append (ds : List Definition) (operation : Operation) :
  declaredRoots (BuiltIn.definitions ++ ds) operation = declaredRoots ds operation
  := by
  have none_declared : declaredRoots BuiltIn.definitions operation = [] := by
    cases operation <;> rfl
  rw [declaredRoots, List.filterMap_append, ← declaredRoots, none_declared, List.nil_append,
    declaredRoots]

theorem rootName_builtIn_append (ds : List Definition) (operation : Operation) :
  Document.rootName (BuiltIn.definitions ++ ds) operation = Document.rootName ds operation
  := by rw [Document.rootName, declaredRoots_builtIn_append, Document.rootName]

/-- No built-in type is an object type. -/
theorem definesKind_object_builtIn_append (ds : List Definition) (name : String) :
  DefinesKind (BuiltIn.definitions ++ ds) name .object ↔ DefinesKind ds name .object
  := by
  have scalars : ∀ node ∈ typeNodes BuiltIn.definitions, node.kind ≠ .object := by decide
  simp only [DefinesKind, typeNodes, List.filterMap_append, List.mem_append]
  constructor
  · rintro ⟨node, builtIn | loaded, named, object⟩
    · exact absurd object (scalars node builtIn)
    · exact ⟨node, loaded, named, object⟩
  · rintro ⟨node, loaded, named, object⟩
    exact ⟨node, .inr loaded, named, object⟩

/-- An operation that no schema block declares goes by its own name. -/
theorem rootName_of_undeclared {ds : List Definition} {operation : Operation}
    (undeclared : declaredRoots ds operation = []) :
  Document.rootName ds operation = operation.title
  := by rw [Document.rootName, undeclared]; rfl

/-- If no operation is declared twice, one that is declared goes by the declared name. -/
theorem rootName_of_mem_declaredRoots {ds : List Definition} {operation : Operation}
    (once : (declaredRoots ds operation).length ≤ 1) {name : String}
    (declared : name ∈ declaredRoots ds operation) :
  Document.rootName ds operation = name
  := by
  obtain ⟨other, only⟩ : ∃ other, declaredRoots ds operation = [other] := by
    apply List.length_eq_one_iff.mp
    have := List.length_pos_of_mem declared
    omega
  rw [only] at declared
  rw [Document.rootName, only, List.mem_singleton.mp declared]
  rfl

namespace Loader

/-- The places of the types of operations in a schema are those that have been chosen. -/
theorem rootPlace?_of_link {l : Loader} {s : Schema} (linked : l.link = .ok s)
    (operation : Operation) :
  s.rootPlace? operation = rootPlace? s.types l.roots operation
  := by
  obtain ⟨-, -, -, -, query, types, -, mutation, subscription⟩ := (link_eq_ok_iff l s).mp linked
  rw [types]
  cases operation with
  | query => apply query.symm
  | mutation => apply mutation
  | subscription => apply subscription

/-- In the place of the type of an operation in a schema stands an object type of its name. -/
theorem exists_entry_of_link {l : Loader} {s : Schema} (linked : l.link = .ok s)
    {operation : Operation} {place : Nat} (chosen : s.rootPlace? operation = some place) :
  ∃ type, s.types.entryAt? place = some (rootName l.roots operation, type) ∧ type.kind = .object
  := by
  rw [rootPlace?_of_link linked] at chosen
  apply exists_entry_of_rootPlace? _ _ chosen

/-- The operations of a schema that have types go by distinct names. -/
theorem rootName_ne_of_link {l : Loader} {s : Schema} (linked : l.link = .ok s)
    {operation other : Operation} (different : operation ≠ other)
    (placed : (s.rootPlace? operation).isSome) (other_placed : (s.rootPlace? other).isSome) :
  rootName l.roots operation ≠ rootName l.roots other
  := by
  rw [rootPlace?_of_link linked] at placed other_placed
  obtain ⟨-, -, -, checked, query, types, -⟩ := (link_eq_ok_iff l s).mp linked
  have faultless := (List.append_eq_nil_iff.mp checked).2
  rw [operationFaults_eq_nil_iff _ _ (by rw [query]; rfl), ← types] at faultless
  apply faultless.2 operation other different placed other_placed

/-- The types of two operations in a schema have distinct places. -/
theorem rootPlace?_ne_of_link {l : Loader} {s : Schema} (linked : l.link = .ok s)
    {operation other : Operation} (different : operation ≠ other) {place : Nat}
    (chosen : s.rootPlace? operation = some place) :
  s.rootPlace? other ≠ some place
  := by
  intro other_chosen
  obtain ⟨type, entry, -⟩ := exists_entry_of_link linked chosen
  obtain ⟨other_type, other_entry, -⟩ := exists_entry_of_link linked other_chosen
  rw [entry] at other_entry
  apply rootName_ne_of_link linked different
  · rw [chosen]; rfl
  · rw [other_chosen]; rfl
  · apply congrArg Prod.fst (Option.some.inj other_entry)

section Linked

variable {options : Options} {ds : List Definition} {l : Loader} (loads : Loads options ds l)
  {s : Schema} (linked : l.link = .ok s)

include loads linked

/-- The name of the type of an operation is that of the definitions that were loaded, of which no
two name a type for one operation. -/
theorem Loads.rootName_eq (operation : Operation) :
  rootName l.roots operation = Document.rootName ds operation
    ∧ (declaredRoots ds operation).length ≤ 1
  := by
  obtain ⟨clean, -⟩ := (link_eq_ok_iff l s).mp linked
  obtain ⟨-, -, loadable, holds⟩ := loads.accounts
  have roots := (loadable.mp clean).roots operation
  rw [declaredRoots_builtIn_append] at roots
  rw [(holds clean).rootName_eq, rootName_builtIn_append]
  exact ⟨rfl, roots⟩

/-- The type of an operation in a schema is the type of its name, if that is an object type. -/
theorem Loads.rootType?_eq (operation : Operation) :
  s.rootType? operation
    = (s.type? (Document.rootName ds operation)).filter fun type => type.kind == .object
  := by
  obtain ⟨named, -⟩ := loads.rootName_eq linked operation
  rw [Schema.rootType?_eq_bind, rootPlace?_of_link linked, ← named]
  apply bind_rootPlace?

/-- An operation for which a schema block names a type has a type. -/
theorem Loads.exists_rootType_of_declared {operation : Operation}
    (declared : declaredRoots ds operation ≠ []) :
  ∃ type, s.rootType? operation = some type
  := by
  obtain ⟨clean, -, -, checked, query, types, -⟩ := (link_eq_ok_iff l s).mp linked
  obtain ⟨-, -, -, holds⟩ := loads.accounts
  have given : (l.roots.get? operation).isSome := by
    rw [(holds clean).isSome_root_iff, declaredRoots_builtIn_append]
    apply declared
  have faultless := (List.append_eq_nil_iff.mp checked).2
  rw [operationFaults_eq_nil_iff _ _ (by rw [query]; rfl)] at faultless
  have placed := faultless.1 operation given
  rw [rootPlace?_isSome_iff, ← types] at placed
  obtain ⟨type, found, object⟩ := placed
  use type
  rw [loads.rootType?_eq linked, ← (loads.rootName_eq linked operation).1, Schema.type?, found]
  simp [object]

/-- The type of an operation in a schema has the name of the operation's type. -/
theorem Loads.name_of_rootType? {operation : Operation} {type : TypeDefinition}
    (typed : s.rootType? operation = some type) :
  type.name = rootName l.roots operation
  := by
  rw [loads.rootType?_eq linked, ← (loads.rootName_eq linked operation).1] at typed
  have found := OrderedMap.mem_of_lookup (Option.filter_eq_some_iff.mp typed).1
  apply ((loads.reachable.wellFormed_of_link linked).types.of_mem found).1

/-- The types of two operations in a schema have distinct names. -/
theorem Loads.name_ne_of_rootType? {operation other : Operation} (different : operation ≠ other)
    {type other_type : TypeDefinition} (typed : s.rootType? operation = some type)
    (other_typed : s.rootType? other = some other_type) :
  type.name ≠ other_type.name
  := by
  rw [loads.name_of_rootType? linked typed, loads.name_of_rootType? linked other_typed]
  rw [Schema.rootType?_eq_bind] at typed other_typed
  apply rootName_ne_of_link linked different
  · apply Option.isSome_of_isSome_bind (by rw [typed]; rfl)
  · apply Option.isSome_of_isSome_bind (by rw [other_typed]; rfl)

/-- The types of operations in a schema are sound for the definitions that were loaded. -/
theorem Loads.soundRoots :
  s.SoundRoots ds
  := by
  constructor
  · have chosen : s.rootPlace? .query = some s.query := rfl
    obtain ⟨type, entry, -⟩ := exists_entry_of_link linked chosen
    apply (List.getElem?_eq_some_iff.mp entry).1
  · intro operation place chosen
    obtain ⟨type, entry, object⟩ := exists_entry_of_link linked chosen
    use type
    rw [Schema.rootType?_eq_bind, chosen, Option.bind_some, Schema.typeAt?, entry]
    exact ⟨rfl, object⟩
  · intro operation other different
    constructor
    · intro place chosen
      apply rootPlace?_ne_of_link linked different chosen
    · intro type other_type typed other_typed
      apply loads.name_ne_of_rootType? linked different typed other_typed
  · intro operation name declared
    obtain ⟨type, typed⟩ := loads.exists_rootType_of_declared linked (List.ne_nil_of_mem declared)
    use type
    rw [and_iff_left typed]
    rw [loads.rootType?_eq linked, rootName_of_mem_declaredRoots (loads.rootName_eq linked _).2
      declared] at typed
    apply (Option.filter_eq_some_iff.mp typed).1
  · intro no_block operation type
    have undeclared : declaredRoots ds operation = [] := by
      apply List.filterMap_eq_nil_iff.mpr
      intro d member
      rw [Definition.root?, no_block d member]
      rfl
    rw [loads.rootType?_eq linked, rootName_of_undeclared undeclared, Option.filter_eq_some_iff,
      beq_iff_eq]

end Linked

/-- The schema of three documents, of which the first and the last one have a schema block: the
types are defined after one block and before the other, and an enum type is no type for
subscriptions. -/
theorem soundRoots_blocks_apart :
  ∃ ds l s, Loads {} ds l ∧ l.link = .ok s
    ∧ (s.rootType? .query).map TypeDefinition.name = some "Q"
    ∧ (s.rootType? .mutation).map TypeDefinition.name = some "M"
    ∧ s.subscription = none ∧ s.SoundRoots ds
  := by
  have run : ((start {}).load (some "a") "schema{query:Q}").toOption.any fun first =>
      (first.load none "type M{a:Int}type Q{a:Int}enum Subscription{A}").toOption.any fun second =>
      (second.load (some "b") "schema{mutation:M}").toOption.any fun l =>
      l.link.toOption.any fun s =>
        decide ((s.rootType? .query).map TypeDefinition.name = some "Q"
          ∧ (s.rootType? .mutation).map TypeDefinition.name = some "M"
          ∧ s.subscription = none) := by
    decide +kernel
  obtain ⟨first, first_loaded, run⟩ := Except.exists_ok_of_any run
  obtain ⟨second, second_loaded, run⟩ := Except.exists_ok_of_any run
  obtain ⟨l, loaded, run⟩ := Except.exists_ok_of_any run
  obtain ⟨s, linked, run⟩ := Except.exists_ok_of_any run
  obtain ⟨query, mutation, subscription⟩ := of_decide_eq_true run
  obtain ⟨_, _, first_parsed, -⟩ := load_eq_ok first_loaded
  obtain ⟨_, _, second_parsed, -⟩ := load_eq_ok second_loaded
  obtain ⟨_, _, parsed, -⟩ := load_eq_ok loaded
  have loads := ((Loads.start.load first_parsed first_loaded).load second_parsed
    second_loaded).load parsed loaded
  exact ⟨_, l, s, loads, linked, query, mutation, subscription, loads.soundRoots linked⟩

end Loader

end LinkedSchema
