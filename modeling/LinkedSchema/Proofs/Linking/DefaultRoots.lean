import LinkedSchema.Proofs.Linking.Rejection
import LinkedSchema.Proofs.Linking.RootTypes
import LinkedSchema.Proofs.Linking.Verdicts

/-!
# Default root types

An operation that no schema block declares goes by its own name, whether or not there are schema
blocks.  It has the type of that name if this is an object type, and is found to share it if a block
declares the same type for another operation (`Loader.Loads.falls_back_of_undeclared`).
-/

namespace LinkedSchema

open Document

/-- Whether a fault is that of an operation that has its type in common with another one. -/
def Fault.Shares (operation : Operation) : Fault → Prop
  | .sharedRoot first second _ => operation = first ∨ operation = second
  | _ => False

/-- A fault of an operation that shares its type is late. -/
theorem Fault.Shares.isLate {operation : Operation} {fault : Fault} (h : fault.Shares operation) :
  fault.isLate
  := by
  cases fault with
  | sharedRoot => rfl
  | _ => cases h

namespace Loader

section Shares

variable (types : TypeTable) (roots : OrderedMap Operation Root)

theorem mem_sharedFaults_iff (first second : Operation) (fault : Fault) :
  fault ∈ sharedFaults types roots first second
    ↔ fault = .sharedRoot first second (rootName roots first)
      ∧ (rootPlace? types roots first).isSome ∧ (rootPlace? types roots second).isSome
      ∧ rootName roots first = rootName roots second
  := by
  have shared := not_congr (sharedFaults_eq_nil_iff types roots first second)
  simp only [Classical.not_imp, not_not, ne_eq] at shared
  rw [← shared]
  have at_most : sharedFaults types roots first second = []
      ∨ sharedFaults types roots first second
        = [.sharedRoot first second (rootName roots first)] := by
    rw [sharedFaults]
    split
    · split <;> simp
    · left; rfl
  rcases at_most with none_found | found
  · simp [none_found]
  · simp [found]

/-- The pairs of operations that are looked at. -/
def pairs : List (Operation × Operation) :=
  [(.query, .mutation), (.query, .subscription), (.mutation, .subscription)]

/-- Two operations are looked at in one order or in the other. -/
theorem mem_pairs_of_ne {operation other : Operation} (different : other ≠ operation) :
  (operation, other) ∈ pairs ∨ (other, operation) ∈ pairs
  := by
  revert different
  cases operation <;> cases other <;> decide

theorem ne_of_mem_pairs {pair : Operation × Operation} (member : pair ∈ pairs) :
  pair.1 ≠ pair.2
  := by
  revert pair
  decide

/-- The faults of operations that share their types are those of the pairs. -/
theorem mem_operationFaults_of_shares_iff {operation : Operation} {fault : Fault}
    (shares : fault.Shares operation) :
  fault ∈ operationFaults types roots
    ↔ ∃ pair ∈ pairs, fault ∈ sharedFaults types roots pair.1 pair.2
  := by
  have of_root : ∀ other, fault ∉ rootFaults types roots other := by
    intro other member
    rw [rootFaults] at member
    split at member
    · rw [List.mem_singleton.mp member] at shares
      cases shares
    · cases member
  have of_query : fault ∉ queryFaults types roots := by
    intro member
    rw [queryFaults] at member
    split at member
    · rw [List.mem_singleton.mp member] at shares
      cases shares
    · cases member
  simp only [operationFaults, List.mem_append, List.mem_flatMap, of_root, of_query, and_false,
    exists_false, false_or, or_false, or_assoc, pairs, List.mem_cons, List.not_mem_nil,
    exists_eq_or_imp, exists_eq_left]

/-- An operation is found to share its type if and only if it has one, and another operation of the
same name has one. -/
theorem exists_shares_operationFaults_iff (operation : Operation) :
  (∃ fault ∈ operationFaults types roots, fault.Shares operation)
    ↔ ∃ other, other ≠ operation ∧ (rootPlace? types roots operation).isSome
      ∧ (rootPlace? types roots other).isSome ∧ rootName roots operation = rootName roots other
  := by
  constructor
  · rintro ⟨fault, member, shares⟩
    obtain ⟨pair, looked_at, member⟩ :=
      (mem_operationFaults_of_shares_iff types roots shares).mp member
    have different := ne_of_mem_pairs looked_at
    obtain ⟨rfl, first, second, same⟩ := (mem_sharedFaults_iff types roots _ _ _).mp member
    rcases shares with rfl | rfl
    · exact ⟨pair.2, different.symm, first, second, same⟩
    · exact ⟨pair.1, different, second, first, same.symm⟩
  · rintro ⟨other, different, placed, other_placed, same⟩
    have found : ∀ pair ∈ pairs, operation = pair.1 ∨ operation = pair.2 →
        (rootPlace? types roots pair.1).isSome → (rootPlace? types roots pair.2).isSome →
        rootName roots pair.1 = rootName roots pair.2 →
        ∃ fault ∈ operationFaults types roots, fault.Shares operation := by
      intro pair looked_at involved first second same
      have shares : Fault.Shares operation (.sharedRoot pair.1 pair.2 (rootName roots pair.1)) :=
        involved
      have shared := (mem_sharedFaults_iff types roots _ _ _).mpr ⟨rfl, first, second, same⟩
      exact ⟨_, (mem_operationFaults_of_shares_iff types roots shares).mpr
        ⟨pair, looked_at, shared⟩, shares⟩
    rcases mem_pairs_of_ne different with looked_at | looked_at
    · apply found _ looked_at (.inl rfl) placed other_placed same
    · apply found _ looked_at (.inr rfl) other_placed placed same.symm

end Shares

/-- A loader's operation is found to share its type if and only if everything is taken up, merged
and bound without a fault, and it shares its type. -/
theorem History.exists_shares_iff {options : Options} {ds : List (String × Definition)}
    {l : Loader} (h : History options ds l) {faults : List Fault}
    (rejected : l.link = .error faults) (operation : Operation) :
  (∃ fault ∈ faults, fault.Shares operation)
    ↔ l.faults ++ l.merged.2 = [] ∧ l.dangling = []
      ∧ ∃ fault ∈ operationFaults l.merged.1 l.roots, fault.Shares operation
  := by
  obtain ⟨found, rfl⟩ | ⟨clean, failed⟩ | ⟨clean, bindings, bound, rfl, -⟩ :=
    link_eq_error rejected
  · have early := allEarly_definitionFaults options ds l
    rw [h.definitionFaults_eq] at early
    simp only [found, false_and, iff_false]
    rintro ⟨fault, member, shares⟩
    have late := shares.isLate
    rw [early fault member] at late
    cases late
  · obtain ⟨found, rfl⟩ := bind_eq_error failed
    simp only [found, false_and, and_false, iff_false]
    rintro ⟨fault, member, shares⟩
    obtain ⟨declaration, -, rfl⟩ := List.mem_map.mp member
    cases shares
  · have of_annotations : ∀ fault ∈ AnnotationCheck.faults l.directives
        l.options.misplacedDirective l.merged.1, ¬ fault.Shares operation := by
      apply AnnotationCheck.forall_mem_faults
      all_goals
        intros
        exact id
    have of_kinds : ∀ fault ∈ KindCheck.faults l.merged.1 bindings l.directives,
        ¬ fault.Shares operation := by
      apply KindCheck.forall_mem_faults
      intro mentioner r
      cases mentioner <;> exact id
    rw [and_iff_right clean, and_iff_right (dangling_eq_nil_of_bind bound)]
    constructor
    · rintro ⟨fault, member, shares⟩
      rw [checkFaults, List.mem_append, List.mem_append] at member
      obtain (member | member) | member := member
      · exact absurd shares (of_annotations fault member)
      · exact absurd shares (of_kinds fault member)
      · exact ⟨fault, member, shares⟩
    · rintro ⟨fault, member, shares⟩
      exact ⟨fault, List.mem_append_right _ member, shares⟩

/-- The own name of an operation is that of the type of another one if and only if a schema block
declares it for the other, if no operation is declared twice. -/
theorem rootName_eq_title_iff {ds : List Definition}
    (once : ∀ operation, (declaredRoots ds operation).length ≤ 1) {operation other : Operation}
    (different : other ≠ operation) :
  operation.title = Document.rootName ds other ↔ operation.title ∈ declaredRoots ds other
  := by
  have titles : operation.title ≠ other.title := by
    revert different
    cases operation <;> cases other <;> decide
  constructor
  · intro named
    cases declared : declaredRoots ds other with
    | nil =>
      rw [rootName_of_undeclared declared] at named
      exact absurd named titles
    | cons name rest =>
      rw [named, Document.rootName, declared]
      apply List.mem_cons_self
  · intro declared
    rw [rootName_of_mem_declaredRoots (once other) declared]

/-- If everything is taken up and merged without a fault, an operation has a type if and only if the
definitions that were loaded define an object type of its type's name. -/
theorem Loads.isSome_rootPlace?_iff {options : Options} {ds : List Definition} {l : Loader}
    (loads : Loads options ds l) (clean : l.faults = []) (merged : l.merged.2 = [])
    (operation : Operation) :
  (rootPlace? l.merged.1 l.roots operation).isSome
    ↔ DefinesKind ds (Document.rootName ds operation) .object
  := by
  obtain ⟨-, -, loadable, holds⟩ := loads.accounts
  rw [(holds clean).hasRoot_iff (loadable.mp clean) merged, HasRoot, rootName_builtIn_append,
    definesKind_object_builtIn_append]

/-- An operation that no schema block declares has the type of its own name if that is an object
type, whether or not there are schema blocks, and otherwise none; and it is found to share its type
if and only if nothing is found wrong earlier, the type of its own name is an object type, and a
schema block declares that type for another operation. -/
theorem Loads.falls_back_of_undeclared {options : Options} {ds : List Definition} {l : Loader}
    (loads : Loads options ds l) {operation : Operation}
    (undeclared : declaredRoots ds operation = []) :
  (∀ s, l.link = .ok s →
      (∀ type, s.rootType? operation = some type
        ↔ s.type? operation.title = some type ∧ type.kind = .object)
      ∧ (s.rootPlace? operation = none ↔ ¬ DefinesKind ds operation.title .object))
    ∧ ∀ faults, l.link = .error faults →
      ((∃ fault ∈ faults, fault.Shares operation)
        ↔ l.faults ++ l.merged.2 = [] ∧ l.dangling = []
          ∧ DefinesKind ds operation.title .object
          ∧ ∃ other, operation.title ∈ declaredRoots ds other)
  := by
  have named := rootName_of_undeclared undeclared
  constructor
  · intro s linked
    obtain ⟨clean, merged, -, -, -, types, -⟩ := (link_eq_ok_iff l s).mp linked
    constructor
    · intro type
      rw [loads.rootType?_eq linked, named, Option.filter_eq_some_iff, beq_iff_eq]
    · rw [rootPlace?_of_link linked, types, ← Option.not_isSome_iff_eq_none,
        loads.isSome_rootPlace?_iff clean merged, named]
  · intro faults rejected
    obtain ⟨-, -, loadable, holds⟩ := loads.accounts
    have placed_iff := loads.isSome_rootPlace?_iff
    obtain ⟨placed, rfl, history⟩ := loads.exists_history
    rw [history.exists_shares_iff rejected, exists_shares_operationFaults_iff]
    apply and_congr_right
    intro clean
    obtain ⟨clean, merged⟩ := List.append_eq_nil_iff.mp clean
    have once (other : Operation) :
        (declaredRoots (placed.map Prod.snd) other).length ≤ 1 := by
      rw [← declaredRoots_builtIn_append]
      apply (loadable.mp clean).roots other
    simp only [placed_iff clean merged, (holds clean).rootName_eq, rootName_builtIn_append, named]
    apply and_congr_right
    intro _
    constructor
    · rintro ⟨other, different, defined, -, same⟩
      exact ⟨defined, other, (rootName_eq_title_iff once different).mp same⟩
    · rintro ⟨defined, other, declared⟩
      have different : other ≠ operation := by
        rintro rfl
        rw [undeclared] at declared
        cases declared
      have same := (rootName_eq_title_iff once different).mpr declared
      exact ⟨other, different, defined, same ▸ defined, same⟩

/-- A text in which a schema block declares the type of the name of another operation. -/
def textWithSharedDefault : String := "schema{query:Mutation}type Mutation{a:Int}"

/-- The mutations of that text, which its block does not declare, are found to share their type. -/
theorem falls_back_shared :
  ∃ ds l, Loads {} ds l ∧ declaredRoots ds .mutation = []
    ∧ l.link = .error [.sharedRoot .query .mutation "Mutation"]
    ∧ DefinesKind ds "Mutation" .object ∧ ∃ other, "Mutation" ∈ declaredRoots ds other
  := by
  have run : ((start {}).load none textWithSharedDefault).toOption.any fun l =>
      decide (l.link = .error [.sharedRoot .query .mutation "Mutation"]) := by decide +kernel
  have undeclared : (Document.parseSchema textWithSharedDefault).toOption.any fun ds =>
      decide (declaredRoots ds .mutation = []) := by decide +kernel
  obtain ⟨l, loaded, run⟩ := Except.exists_ok_of_any run
  obtain ⟨ds, n, parsed, -⟩ := load_eq_ok loaded
  rw [parsed] at undeclared
  have undeclared := of_decide_eq_true undeclared
  have rejected := of_decide_eq_true run
  have loads := Loads.start.load parsed loaded
  obtain ⟨-, -, defined, declared⟩ := ((loads.falls_back_of_undeclared undeclared).2 _ rejected).mp
    ⟨_, List.mem_singleton_self _, .inr rfl⟩
  exact ⟨ds, l, loads, undeclared, rejected, defined, declared⟩

/-- A text with a schema block that declares no type for mutations, and a type called `Mutation`. -/
def textBesideBlock : String :=
  "schema { query: Query }\ntype Query { a: Int }\ntype Mutation { b: Int }"

/-- A schema block does not keep a type called `Mutation` from being the type for mutations,
although it declares none. -/
theorem falls_back_beside_block :
  ∃ ds l s, Document.parseSchema textBesideBlock = .ok ds ∧ Loads {} ds l ∧ l.link = .ok s
    ∧ (∃ d ∈ ds, d.schema?.isSome) ∧ declaredRoots ds .mutation = []
    ∧ (s.rootType? .mutation).map TypeDefinition.name = some "Mutation"
  := by
  have run : ((start {}).load none textBesideBlock).toOption.any fun l =>
      l.link.toOption.any fun s =>
        decide ((s.rootType? .mutation).map TypeDefinition.name = some "Mutation") := by
    decide +kernel
  have declares : (Document.parseSchema textBesideBlock).toOption.any fun ds =>
      decide ((∃ d ∈ ds, d.schema?.isSome) ∧ declaredRoots ds .mutation = []) := by
    decide +kernel
  obtain ⟨l, loaded, run⟩ := Except.exists_ok_of_any run
  obtain ⟨s, linked, typed⟩ := Except.exists_ok_of_any run
  obtain ⟨ds, n, parsed, -⟩ := load_eq_ok loaded
  rw [parsed] at declares
  obtain ⟨block, undeclared⟩ := of_decide_eq_true declares
  exact ⟨ds, l, s, parsed, Loads.start.load parsed loaded, linked, block, undeclared,
    of_decide_eq_true typed⟩

end Loader

end LinkedSchema
