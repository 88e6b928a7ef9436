import LinkedSchema.Schema.Loader
import LinkedSchema.Proofs.Building.References

/-!
# Visits

What taking up one definition does to a loader.  `Loader.visitType_cases`,
`Loader.visitExtension_cases` and `Loader.visitDirective_cases` say all that can happen when a
type, an extension or a directive is taken up, and `Loader.visitSchema_cases` that a schema block
changes the faults and the roots alone.  No visit takes back a fault (`Loader.faults_visit`).  A
visit does not look at the options, at the faults found before it, nor at the number of documents
without a file name (`Loader.visit_amid`).
-/

namespace LinkedSchema.Loader

open Document (Definition SchemaNode TypeNode DirectiveNode Operation)

/-! ### Types -/

/-- The loader after building declared more and reported something. -/
def failedWith (l : Loader) (registry : Registry) (faults : List Fault) : Loader :=
  { l with registry := registry, faults := l.faults ++ faults }

/-- The loader after a sound node declared its declarations. -/
def declaring (l : Loader) (declarations : List Declaration) : Loader :=
  { l with registry := ⟨l.registry.declared ++ declarations⟩ }

/-- A type is built and kept if it is sound and its name is new; otherwise it is reported. -/
theorem visitType_cases (file : String) (l : Loader) (node : TypeNode) :
  (¬ node.Sound ∧ ∃ registry faults, faults ≠ []
      ∧ l.registry.declared <+: registry.declared
      ∧ l.visitType file node
        = { l.failedWith registry faults with failed := l.failed ++ [node.name] })
    ∨ (node.Sound ∧ (∃ existing, l.types.get? node.name = some existing
      ∧ l.visitType file node = (l.declaring (node.declarations (some file))).report
        [.duplicateType node.name existing.location (node.location (some file))]))
    ∨ (node.Sound ∧ node.name ∉ l.types.keys
      ∧ l.visitType file node = { l.declaring (node.declarations (some file)) with
          types := l.types.insert node.name (node.define (some file) l.registry.size) })
  := by
  by_cases sound : node.Sound
  · right
    have built := TypeNode.build_of_sound sound (some file) l.registry
    cases found : l.types.get? node.name with
    | some existing =>
      left
      use sound, existing, rfl
      have visited : l.types.get? (node.define (some file) l.registry.size).name
          = some existing := found
      rw [visitType, built]
      simp only [visited]
      rfl
    | none =>
      right
      have visited : l.types.get? (node.define (some file) l.registry.size).name = none := found
      use sound, (OrderedMap.get?_eq_none_iff _ _).mp found
      rw [visitType, built]
      simp only [visited]
      rfl
  · left
    obtain ⟨faults, registry, built, reported, grows⟩ :=
      TypeNode.build_of_not_sound sound (some file) l.registry
    use sound, registry, faults, reported, grows
    rw [visitType, built]
    rfl

/-- An extension is built and held back if it is sound; otherwise it is reported. -/
theorem visitExtension_cases (file : String) (l : Loader) (node : TypeNode) :
  (¬ node.Sound ∧ ∃ registry faults, faults ≠ []
      ∧ l.registry.declared <+: registry.declared
      ∧ l.visitExtension file node = l.failedWith registry faults)
    ∨ (node.Sound ∧ l.visitExtension file node
      = { l.declaring (node.declarations (some file)) with
          extensions := l.extensions ++ [node.define (some file) l.registry.size] })
  := by
  by_cases sound : node.Sound
  · right
    use sound
    rw [visitExtension, TypeNode.build_of_sound sound (some file) l.registry]
    rfl
  · left
    obtain ⟨faults, registry, built, reported, grows⟩ :=
      TypeNode.build_of_not_sound sound (some file) l.registry
    use sound, registry, faults, reported, grows
    rw [visitExtension, built]
    rfl

/-- A directive is reported and not built if its name is taken; otherwise it is built and kept if
it is sound, and reported if not. -/
theorem visitDirective_cases (file : String) (l : Loader) (node : DirectiveNode) :
  (node.name ∈ l.directives.keys ∧ ∃ fault, l.visitDirective file node = l.report [fault])
    ∨ (node.name ∉ l.directives.keys ∧ ¬ node.Sound ∧ ∃ registry faults, faults ≠ []
      ∧ l.registry.declared <+: registry.declared
      ∧ l.visitDirective file node = l.failedWith registry faults)
    ∨ (node.name ∉ l.directives.keys ∧ node.Sound
      ∧ l.visitDirective file node = { l.declaring (node.declarations (some file)) with
          directives := l.directives.insert node.name
            (node.define (some file) l.registry.size) })
  := by
  cases found : l.directives.get? node.name with
  | some existing =>
    left
    constructor
    · apply OrderedMap.mem_keys_of_get? found
    · rw [visitDirective, found]
      simp only
      split
      · exact ⟨_, rfl⟩
      · exact ⟨_, rfl⟩
  | none =>
    right
    have new := (OrderedMap.get?_eq_none_iff _ _).mp found
    by_cases sound : node.Sound
    · right
      use new, sound
      rw [visitDirective, found]
      simp only [DirectiveNode.build_of_sound sound (some file) l.registry]
      rfl
    · left
      obtain ⟨faults, registry, built, reported, grows⟩ :=
        DirectiveNode.build_of_not_sound sound (some file) l.registry
      use new, sound, registry, faults, reported, grows
      rw [visitDirective, found]
      simp only [built]
      rfl

/-! ### Schema blocks -/

/-- Whether a schema block names a type for an operation that has one already. -/
def Clashes (l : Loader) (node : SchemaNode) (operation : Operation) : Prop :=
  (OrderedMap.lookup operation node.roots).isSome ∧ (l.roots.get? operation).isSome

/-- Whether a later loader comes from taking up operations of a schema block: it has reported
something if one of them clashes, and otherwise added their types to the roots. -/
def TakesRoots (l : Loader) (node : SchemaNode) (operations : List Operation) (later : Loader) :
    Prop :=
  ∃ faults roots, later = { l with faults := l.faults ++ faults, roots := roots }
    ∧ ((∃ operation ∈ operations, l.Clashes node operation) ∧ faults ≠ []
      ∨ (∀ operation ∈ operations, ¬ l.Clashes node operation) ∧ faults = []
        ∧ ∀ operation, (roots.get? operation).map Root.type
          = ((l.roots.get? operation).map Root.type).or
            (if operation ∈ operations then OrderedMap.lookup operation node.roots else none))

namespace TakesRoots

variable {l later : Loader} {node : SchemaNode} {operation : Operation}
  {operations : List Operation}

theorem nil (l : Loader) (node : SchemaNode) :
  l.TakesRoots node [] l
  := by
  use [], l.roots
  simp

/-- An operation that the block does not name changes nothing. -/
theorem cons_of_none (named : OrderedMap.lookup operation node.roots = none)
    (h : l.TakesRoots node operations later) :
  l.TakesRoots node (operation :: operations) later
  := by
  obtain ⟨faults, roots, taken, done⟩ := h
  use faults, roots, taken
  have clear : ¬ l.Clashes node operation := by simp [Clashes, named]
  rcases done with ⟨⟨other, member, clash⟩, some_fault⟩ | ⟨clean, none_found, same⟩
  · left
    exact ⟨⟨other, List.mem_cons_of_mem _ member, clash⟩, some_fault⟩
  · right
    use List.forall_mem_cons.mpr ⟨clear, clean⟩, none_found
    intro other
    rw [same]
    by_cases first : other = operation
    · subst first
      simp [named]
    · simp [first]

/-- An operation that clashes is reported. -/
theorem cons_of_clash (clash : l.Clashes node operation) {fault : Fault}
    (h : (l.report [fault]).TakesRoots node operations later) :
  l.TakesRoots node (operation :: operations) later
  := by
  obtain ⟨faults, roots, taken, -⟩ := h
  use fault :: faults, roots
  constructor
  · apply taken.trans
    rw [report, List.append_assoc]
    rfl
  · left
    exact ⟨⟨operation, List.mem_cons_self, clash⟩, List.cons_ne_nil _ _⟩

/-- An operation that has no type yet is given the one that the block names. -/
theorem cons_of_free {root : Root}
    (named : OrderedMap.lookup operation node.roots = some root.type)
    (free : l.roots.get? operation = none) (new : operation ∉ operations)
    (h : TakesRoots { l with roots := l.roots.insert operation root } node operations later) :
  l.TakesRoots node (operation :: operations) later
  := by
  obtain ⟨faults, roots, taken, done⟩ := h
  use faults, roots, taken
  have clear : ¬ l.Clashes node operation := by simp [Clashes, free]
  have others : ∀ other ∈ operations,
      (l.roots.insert operation root).get? other = l.roots.get? other := by
    intro other member
    rw [OrderedMap.get?_insert, if_neg]
    rintro rfl
    apply new member
  rcases done with ⟨⟨other, member, clash⟩, some_fault⟩ | ⟨clean, none_found, same⟩
  · left
    rw [Clashes, others other member] at clash
    exact ⟨⟨other, List.mem_cons_of_mem _ member, clash⟩, some_fault⟩
  · right
    constructor
    · intro other member
      rcases List.mem_cons.mp member with rfl | later
      · apply clear
      · have unclashed := clean other later
        rw [Clashes, others other later] at unclashed
        apply unclashed
    · use none_found
      intro other
      rw [same, OrderedMap.get?_insert]
      by_cases first : other = operation
      · subst first
        simp [named, free, new]
      · simp [first]

end TakesRoots

/-- Taking up operations of a schema block one after another reports something if one of them
clashes, and otherwise adds their types to the roots. -/
theorem takesRoots_foldl (file : String) (node : SchemaNode) (operations : List Operation)
    (distinct : operations.Nodup) (l : Loader) :
  l.TakesRoots node operations (operations.foldl (fun l operation =>
      match OrderedMap.lookup operation node.roots with
      | none => l
      | some type => l.visitRoot operation ⟨type, .source (some file) node.position⟩) l)
  := by
  induction operations generalizing l with
  | nil => apply TakesRoots.nil
  | cons operation rest ih =>
    rw [List.nodup_cons] at distinct
    rw [List.foldl_cons]
    cases named : OrderedMap.lookup operation node.roots with
    | none => apply TakesRoots.cons_of_none named (ih distinct.2 l)
    | some type =>
      simp only
      cases free : l.roots.get? operation with
      | some existing =>
        have clash : l.Clashes node operation := by simp [Clashes, named, free]
        rw [visitRoot, free]
        apply TakesRoots.cons_of_clash clash (ih distinct.2 _)
      | none =>
        rw [visitRoot, free]
        apply TakesRoots.cons_of_free named free distinct.1 (ih distinct.2 _)

/-- A schema block is reported if one of its operations clashes; otherwise their types are added
to the roots.  Nothing but the faults and the roots changes. -/
theorem visitSchema_cases (file : String) (l : Loader) (node : SchemaNode) :
  ∃ faults roots, l.visitSchema file node
      = { l with faults := l.faults ++ faults, roots := roots }
    ∧ ((∃ operation, l.Clashes node operation) ∧ faults ≠ []
      ∨ (∀ operation, ¬ l.Clashes node operation) ∧ faults = []
        ∧ ∀ operation, (roots.get? operation).map Root.type
          = ((l.roots.get? operation).map Root.type).or
            (OrderedMap.lookup operation node.roots))
  := by
  have all : ∀ operation, operation ∈ Operation.all := by
    intro operation
    cases operation <;> decide
  obtain ⟨faults, roots, visited, done⟩ :=
    takesRoots_foldl file node Operation.all (by decide) l
  use faults, roots, visited
  simpa only [all, true_and, true_implies, if_true] using done

/-! ### All definitions -/

/-- No visit takes back a fault. -/
theorem faults_visit (file : String) (l : Loader) (definition : Definition) :
  l.faults <+: (l.visit file definition).faults
  := by
  cases definition with
  | schema node =>
    obtain ⟨faults, roots, visited, -⟩ := l.visitSchema_cases file node
    rw [visit, visited]
    apply List.prefix_append
  | type node =>
    rw [visit]
    obtain ⟨-, registry, faults, -, -, visited⟩ | ⟨-, existing, -, visited⟩ | ⟨-, -, visited⟩ :=
      l.visitType_cases file node
    · rw [visited]
      apply List.prefix_append
    · rw [visited]
      apply List.prefix_append
    · rw [visited]
      apply List.prefix_refl
  | extension node =>
    rw [visit]
    obtain ⟨-, registry, faults, -, -, visited⟩ | ⟨-, visited⟩ := l.visitExtension_cases file node
    · rw [visited]
      apply List.prefix_append
    · rw [visited]
      apply List.prefix_refl
  | directive node =>
    rw [visit]
    obtain ⟨-, fault, visited⟩ | ⟨-, -, registry, faults, -, -, visited⟩ | ⟨-, -, visited⟩ :=
      l.visitDirective_cases file node
    · rw [visited]
      apply List.prefix_append
    · rw [visited]
      apply List.prefix_append
    · rw [visited]
      apply List.prefix_refl

/-- Every visit keeps the options. -/
theorem options_visit (file : String) (l : Loader) (definition : Definition) :
  (l.visit file definition).options = l.options
  := by
  cases definition with
  | schema node =>
    obtain ⟨faults, roots, visited, -⟩ := l.visitSchema_cases file node
    rw [visit, visited]
  | type node =>
    rw [visit]
    obtain ⟨-, registry, faults, -, -, visited⟩ | ⟨-, existing, -, visited⟩ | ⟨-, -, visited⟩ :=
      l.visitType_cases file node
    all_goals
      rw [visited]
      rfl
  | extension node =>
    rw [visit]
    obtain ⟨-, registry, faults, -, -, visited⟩ | ⟨-, visited⟩ := l.visitExtension_cases file node
    all_goals
      rw [visited]
      rfl
  | directive node =>
    rw [visit]
    obtain ⟨-, fault, visited⟩ | ⟨-, -, registry, faults, -, -, visited⟩ | ⟨-, -, visited⟩ :=
      l.visitDirective_cases file node
    all_goals
      rw [visited]
      rfl

/-! ### What a visit does not look at -/

/-- A loader with other options, that had found some faults before its own and has taken up some
number of documents without a file name. -/
def amid (l : Loader) (options : Options) (faults : List Fault) (unnamed : UInt16) : Loader :=
  { l with options := options, faults := faults ++ l.faults, unnamed := unnamed }

section Amid

variable (l : Loader) (options : Options) (faults : List Fault) (n : UInt16)

@[simp]
theorem types_amid :
  (l.amid options faults n).types = l.types
  := rfl

@[simp]
theorem directives_amid :
  (l.amid options faults n).directives = l.directives
  := rfl

@[simp]
theorem roots_amid :
  (l.amid options faults n).roots = l.roots
  := rfl

@[simp]
theorem registry_amid :
  (l.amid options faults n).registry = l.registry
  := rfl

theorem report_amid (more : List Fault) :
  (l.amid options faults n).report more = (l.report more).amid options faults n
  := by simp only [report, amid, List.append_assoc]

theorem visitRoot_amid (operation : Operation) (root : Root) :
  (l.amid options faults n).visitRoot operation root
    = (l.visitRoot operation root).amid options faults n
  := by
  simp only [visitRoot, report_amid, roots_amid]
  cases l.roots.get? operation <;> rfl

/-- A visit does not look at the options, at the faults found before, nor at the number of
documents. -/
theorem visit_amid (file : String) (d : Definition) :
  (l.amid options faults n).visit file d = (l.visit file d).amid options faults n
  := by
  cases d with
  | schema node =>
    rw [visit, visit, visitSchema, visitSchema]
    induction Operation.all generalizing l with
    | nil => rfl
    | cons operation rest ih =>
      rw [List.foldl_cons, List.foldl_cons, ← ih]
      congr 1
      split
      · rfl
      · apply visitRoot_amid
  | type node =>
    simp only [visit, visitType, registry_amid, types_amid]
    cases (node.build (some file) l.registry).1 with
    | error more => simp only [report, amid, List.append_assoc]
    | ok type =>
      simp only
      cases l.types.get? type.name with
      | some existing => simp only [report, amid, List.append_assoc]
      | none => rfl
  | extension node =>
    simp only [visit, visitExtension, registry_amid]
    cases (node.build (some file) l.registry).1 with
    | error more => simp only [report, amid, List.append_assoc]
    | ok extension => rfl
  | directive node =>
    simp only [visit, visitDirective, registry_amid, directives_amid]
    cases l.directives.get? node.name with
    | some existing =>
      simp only [report_amid]
      split <;> rfl
    | none =>
      simp only
      cases (node.build (some file) l.registry).1 with
      | error more => simp only [report, amid, List.append_assoc]
      | ok directive => rfl

end Amid

/-- No visit counts a document. -/
theorem unnamed_visit (l : Loader) (file : String) (d : Definition) :
  (l.visit file d).unnamed = l.unnamed
  := by
  calc (l.visit file d).unnamed
    _ = ((l.amid l.options [] l.unnamed).visit file d).unnamed := rfl
    _ = l.unnamed := by rw [visit_amid, amid]

end LinkedSchema.Loader
