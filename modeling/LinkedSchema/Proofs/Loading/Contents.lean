import LinkedSchema.Proofs.Building.Descriptions
import LinkedSchema.Proofs.Loading.Reachable
import Mathlib.Tactic.MkIffOfInductiveProp

/-!
# Contents of loaders

A loader that has taken up definitions without a fault holds exactly these (`Loader.Holds`).  The
loader that knows nothing but the built-in definitions holds them, and one more definition is
taken up without a fault if and only if it fits those before it (`Loader.Holds.takesUp`).
Hence texts are loaded without a fault if and only if their definitions are loadable, and the
loader then holds these (`Loader.Loads.accounts`).
-/

namespace LinkedSchema

open Document

/-! ### Loadable definitions -/

/-- Whether nothing is wrong with definitions that can be seen when they are taken up one after
another. -/
@[mk_iff]
structure Loadable (ds : List Definition) : Prop where
  types : ∀ node ∈ typeNodes ds ++ extensionNodes ds, node.Sound
  directives : ∀ node ∈ directiveNodes ds, node.Sound
  typeNames : ((typeNodes ds).map TypeNode.name).Nodup
  directiveNames : ((directiveNodes ds).map DirectiveNode.name).Nodup
  roots : ∀ operation, (declaredRoots ds operation).length ≤ 1

/-- Whether a definition can follow others. -/
def Document.Definition.Fits (ds : List Definition) : Definition → Prop
  | .schema node => ∀ operation, (OrderedMap.lookup operation node.roots).isSome →
      declaredRoots ds operation = []
  | .type node => node.Sound ∧ node.name ∉ (typeNodes ds).map TypeNode.name
  | .extension node => node.Sound
  | .directive node => node.Sound ∧ node.name ∉ (directiveNodes ds).map DirectiveNode.name

/-- What one more definition adds to those of a sort. -/
theorem filterMap_concat {α β : Type} (f : α → Option β) (as : List α) (a : α) :
  (as ++ [a]).filterMap f = as.filterMap f ++ (f a).toList
  := by
  rw [List.filterMap_append]
  cases image : f a <;> simp [image]

theorem typeNodes_concat (ds : List Definition) (d : Definition) :
  typeNodes (ds ++ [d]) = typeNodes ds ++ d.type?.toList
  := filterMap_concat _ ds d

theorem extensionNodes_concat (ds : List Definition) (d : Definition) :
  extensionNodes (ds ++ [d]) = extensionNodes ds ++ d.extension?.toList
  := filterMap_concat _ ds d

theorem directiveNodes_concat (ds : List Definition) (d : Definition) :
  directiveNodes (ds ++ [d]) = directiveNodes ds ++ d.directive?.toList
  := filterMap_concat _ ds d

theorem declaredRoots_concat (ds : List Definition) (d : Definition) (operation : Operation) :
  declaredRoots (ds ++ [d]) operation = declaredRoots ds operation ++ (d.root? operation).toList
  := filterMap_concat _ ds d

/-- A list of names with one more is without repetition if and only if the list is and the name
is new. -/
theorem nodup_concat_iff {names : List String} {name : String} :
  (names ++ [name]).Nodup ↔ names.Nodup ∧ name ∉ names
  := by
  rw [← List.concat_eq_append, List.nodup_concat, and_comm]

/-- Operations have at most one type each with a schema block at the end if and only if they have
without it and the block names types only for operations that have none. -/
theorem length_declaredRoots_concat_le_one_iff (ds : List Definition) (node : SchemaNode)
    (operation : Operation) :
  (declaredRoots (ds ++ [.schema node]) operation).length ≤ 1
    ↔ (declaredRoots ds operation).length ≤ 1
      ∧ ((OrderedMap.lookup operation node.roots).isSome → declaredRoots ds operation = [])
  := by
  have root : (Definition.schema node).root? operation = OrderedMap.lookup operation node.roots :=
    rfl
  rw [declaredRoots_concat, root, List.length_append]
  cases OrderedMap.lookup operation node.roots with
  | none => simp
  | some type =>
    cases declaredRoots ds operation <;> simp

/-- Definitions are loadable with one more at the end if and only if they are without it and it
fits them. -/
theorem loadable_concat_iff (ds : List Definition) (d : Definition) :
  Loadable (ds ++ [d]) ↔ Loadable ds ∧ d.Fits ds
  := by
  have sorts := And.intro (typeNodes_concat ds d)
    (And.intro (extensionNodes_concat ds d) (directiveNodes_concat ds d))
  cases d with
  | schema node =>
    simp only [Definition.type?, Definition.extension?, Definition.directive?, Option.toList_none,
      List.append_nil] at sorts
    simp only [loadable_iff, length_declaredRoots_concat_le_one_iff, forall_and, Definition.Fits,
      sorts, and_assoc]
  | type node =>
    have roots : ∀ operation, (Definition.type node).root? operation = none := fun _ => rfl
    simp only [Definition.type?, Definition.extension?, Definition.directive?, Option.toList_none,
      Option.toList_some, List.append_nil] at sorts
    simp only [loadable_iff, declaredRoots_concat, roots, Definition.Fits, sorts,
      Option.toList_none, List.append_nil, List.map_append, List.map_cons, List.map_nil,
      nodup_concat_iff, List.mem_append, List.mem_singleton]
    grind
  | extension node =>
    have roots : ∀ operation, (Definition.extension node).root? operation = none := fun _ => rfl
    simp only [Definition.type?, Definition.extension?, Definition.directive?, Option.toList_none,
      Option.toList_some, List.append_nil] at sorts
    simp only [loadable_iff, declaredRoots_concat, roots, Definition.Fits, sorts,
      Option.toList_none, List.append_nil, List.mem_append, List.mem_singleton]
    grind
  | directive node =>
    have roots : ∀ operation, (Definition.directive node).root? operation = none := fun _ => rfl
    simp only [Definition.type?, Definition.extension?, Definition.directive?, Option.toList_none,
      Option.toList_some, List.append_nil] at sorts
    simp only [loadable_iff, declaredRoots_concat, roots, Definition.Fits, sorts,
      Option.toList_none, List.append_nil, List.map_append, List.map_cons, List.map_nil,
      nodup_concat_iff, List.mem_append, List.mem_singleton]
    grind

/-! ### Loaders that hold definitions -/

namespace Loader

/-- Whether a loader has taken up definitions, the built-in ones among them, and nothing else. -/
structure Holds (l : Loader) (ds : List Definition) : Prop where
  types : l.types.Tabulates TypeNode.name TypeNode.Describes (typeNodes ds)
  directives : l.directives.Tabulates DirectiveNode.name DirectiveNode.Describes (directiveNodes ds)
  extensions : List.Forall₂ (fun extension node => TypeNode.Describes node extension)
    l.extensions (extensionNodes ds)
  failed : l.failed = []
  declared : ∀ name, name ∈ l.registry.declared.map Declaration.name
    ↔ name ∈ (ds.flatMap Definition.mentions).map Prod.snd
  roots : ∀ operation, (l.roots.get? operation).map Root.type
    = (declaredRoots ds operation).head?

/-- What more declarations add to those of the mentions of definitions. -/
theorem Holds.declared_concat {l : Loader} {ds : List Definition} (h : l.Holds ds)
    {d : Definition} {declarations : List Declaration}
    (same : ∀ name, name ∈ declarations.map Declaration.name ↔ name ∈ d.mentions.map Prod.snd)
    (name : String) :
  name ∈ (l.registry.declared ++ declarations).map Declaration.name
    ↔ name ∈ ((ds ++ [d]).flatMap Definition.mentions).map Prod.snd
  := by
  rw [List.flatMap_append, List.map_append, List.map_append, List.mem_append, List.mem_append,
    h.declared, same, List.flatMap_singleton]

theorem Holds.types_of_none {l : Loader} {ds : List Definition} (h : l.Holds ds) {d : Definition}
    (none : d.type? = none) :
  l.types.Tabulates TypeNode.name TypeNode.Describes (typeNodes (ds ++ [d]))
  := by
  rw [typeNodes_concat, none, Option.toList_none, List.append_nil]
  apply h.types

theorem Holds.directives_of_none {l : Loader} {ds : List Definition} (h : l.Holds ds)
    {d : Definition} (none : d.directive? = none) :
  l.directives.Tabulates DirectiveNode.name DirectiveNode.Describes (directiveNodes (ds ++ [d]))
  := by
  rw [directiveNodes_concat, none, Option.toList_none, List.append_nil]
  apply h.directives

theorem Holds.extensions_of_none {l : Loader} {ds : List Definition} (h : l.Holds ds)
    {d : Definition} (none : d.extension? = none) :
  List.Forall₂ (fun extension node => TypeNode.Describes node extension) l.extensions
    (extensionNodes (ds ++ [d]))
  := by
  rw [extensionNodes_concat, none, Option.toList_none, List.append_nil]
  apply h.extensions

theorem Holds.roots_of_none {l : Loader} {ds : List Definition} (h : l.Holds ds) {d : Definition}
    (none : d.schema? = none) (operation : Operation) :
  (l.roots.get? operation).map Root.type = (declaredRoots (ds ++ [d]) operation).head?
  := by
  rw [declaredRoots_concat, Definition.root?, none, Option.bind_none, Option.toList_none,
    List.append_nil]
  apply h.roots

/-- After a schema block that names types for operations without one, the loader holds it. -/
theorem Holds.schema {l : Loader} {ds : List Definition} (h : l.Holds ds) (node : SchemaNode)
    {roots : OrderedMap Operation Root}
    (added : ∀ operation, (roots.get? operation).map Root.type
      = ((l.roots.get? operation).map Root.type).or (OrderedMap.lookup operation node.roots)) :
  Holds { l with roots := roots } (ds ++ [.schema node])
  where
  types := h.types_of_none rfl
  directives := h.directives_of_none rfl
  extensions := h.extensions_of_none rfl
  failed := h.failed
  declared name := by
    simpa only [List.flatMap_append, List.flatMap_singleton, Definition.mentions, List.append_nil]
      using h.declared name
  roots operation := by
    rw [added, h.roots, declaredRoots_concat, List.head?_append, Option.head?_toList]
    rfl

/-- After a type that is sound and new, the loader holds it. -/
theorem Holds.type {l : Loader} {ds : List Definition} (h : l.Holds ds) (file : String)
    (node : TypeNode) (new : node.name ∉ l.types.keys) :
  Holds { l.declaring (node.declarations (some file)) with
    types := l.types.insert node.name (node.define (some file) l.registry.size) }
    (ds ++ [.type node])
  where
  types := by
    rw [typeNodes_concat]
    apply h.types.insert new (TypeNode.describes_define _ _ _)
  directives := h.directives_of_none rfl
  extensions := h.extensions_of_none rfl
  failed := h.failed
  declared := h.declared_concat fun _ => (node.map_name_declarations (some file)).mem_iff
  roots := h.roots_of_none rfl

/-- After an extension that is sound, the loader holds it. -/
theorem Holds.extension {l : Loader} {ds : List Definition} (h : l.Holds ds) (file : String)
    (node : TypeNode) :
  Holds { l.declaring (node.declarations (some file)) with
    extensions := l.extensions ++ [node.define (some file) l.registry.size] }
    (ds ++ [.extension node])
  where
  types := h.types_of_none rfl
  directives := h.directives_of_none rfl
  extensions := by
    rw [extensionNodes_concat]
    apply List.rel_append h.extensions
    exact .cons (TypeNode.describes_define _ _ _) .nil
  failed := h.failed
  declared := h.declared_concat fun _ => (node.map_name_declarations (some file)).mem_iff
  roots := h.roots_of_none rfl

/-- After a directive that is sound and new, the loader holds it. -/
theorem Holds.directive {l : Loader} {ds : List Definition} (h : l.Holds ds) (file : String)
    (node : DirectiveNode) (new : node.name ∉ l.directives.keys) :
  Holds { l.declaring (node.declarations (some file)) with
    directives := l.directives.insert node.name (node.define (some file) l.registry.size) }
    (ds ++ [.directive node])
  where
  types := h.types_of_none rfl
  directives := by
    rw [directiveNodes_concat]
    apply h.directives.insert new (DirectiveNode.describes_define _ _ _)
  extensions := h.extensions_of_none rfl
  failed := h.failed
  declared := by
    apply h.declared_concat
    intro name
    rw [node.map_name_declarations]
    rfl
  roots := h.roots_of_none rfl

/-- Whether a later loader has taken up one more definition after those that a loader holds: without
a fault, and holding it too, if it fits them, and otherwise with a fault. -/
def TakesUp (l : Loader) (ds : List Definition) (d : Definition) (later : Loader) : Prop :=
  (d.Fits ds ∧ later.faults = l.faults ∧ later.Holds (ds ++ [d]))
    ∨ (¬ d.Fits ds ∧ later.faults ≠ [])

section TakesUp

variable {l : Loader} {ds : List Definition} (h : l.Holds ds) (file : String)

include h

theorem Holds.takesUp_schema (node : SchemaNode) :
  l.TakesUp ds (.schema node) (l.visitSchema file node)
  := by
  have clashes_iff : ∀ operation, l.Clashes node operation
      ↔ (OrderedMap.lookup operation node.roots).isSome ∧ declaredRoots ds operation ≠ [] := by
    intro operation
    rw [Clashes, ← Option.isSome_map (f := Root.type), h.roots, List.isSome_head?]
  obtain ⟨faults, roots, visited, done⟩ := l.visitSchema_cases file node
  rw [visited]
  rcases done with ⟨⟨operation, clash⟩, some_fault⟩ | ⟨clean, rfl, added⟩
  · right
    rw [clashes_iff] at clash
    constructor
    · intro fits
      apply clash.2 (fits operation clash.1)
    · simp [some_fault]
  · left
    and_intros
    · intro operation named
      by_contra taken
      apply clean operation
      rw [clashes_iff]
      exact ⟨named, taken⟩
    · apply List.append_nil
    · rw [List.append_nil]
      apply h.schema node added

theorem Holds.takesUp_type (node : TypeNode) :
  l.TakesUp ds (.type node) (l.visitType file node)
  := by
  obtain ⟨unsound, registry, faults, some_fault, -, visited⟩ | ⟨-, existing, found, visited⟩
      | ⟨sound, new, visited⟩ := l.visitType_cases file node
  · right
    rw [visited]
    constructor
    · intro fits
      apply unsound fits.1
    · simp [failedWith, some_fault]
  · right
    rw [visited]
    constructor
    · intro fits
      apply fits.2
      rw [← h.types.keys_eq]
      apply OrderedMap.mem_keys_of_get? found
    · simp [report]
  · left
    rw [visited]
    refine ⟨⟨sound, ?_⟩, rfl, h.type file node new⟩
    rw [← h.types.keys_eq]
    apply new

theorem Holds.takesUp_extension (node : TypeNode) :
  l.TakesUp ds (.extension node) (l.visitExtension file node)
  := by
  obtain ⟨unsound, registry, faults, some_fault, -, visited⟩ | ⟨sound, visited⟩ :=
    l.visitExtension_cases file node
  · right
    rw [visited]
    use unsound
    simp [failedWith, some_fault]
  · left
    rw [visited]
    use sound, rfl
    apply h.extension file node

theorem Holds.takesUp_directive (node : DirectiveNode) :
  l.TakesUp ds (.directive node) (l.visitDirective file node)
  := by
  obtain ⟨taken, fault, visited⟩ | ⟨-, unsound, registry, faults, some_fault, -, visited⟩
      | ⟨new, sound, visited⟩ := l.visitDirective_cases file node
  · right
    rw [visited]
    constructor
    · intro fits
      apply fits.2
      rw [← h.directives.keys_eq]
      apply taken
    · simp [report]
  · right
    rw [visited]
    constructor
    · intro fits
      apply unsound fits.1
    · simp [failedWith, some_fault]
  · left
    rw [visited]
    refine ⟨⟨sound, ?_⟩, rfl, h.directive file node new⟩
    rw [← h.directives.keys_eq]
    apply new

/-- A definition that fits those a loader holds is taken up without a fault, and the loader then
holds it too; any other definition is reported. -/
theorem Holds.takesUp (d : Definition) :
  l.TakesUp ds d (l.visit file d)
  := by
  cases d with
  | schema node => apply h.takesUp_schema
  | type node => apply h.takesUp_type
  | extension node => apply h.takesUp_extension
  | directive node => apply h.takesUp_directive

end TakesUp

/-! ### Accounts of loaders -/

/-- The built-in definitions are loadable. -/
theorem loadable_definitions :
  Loadable BuiltIn.definitions
  where
  types := by
    simp only [← TypeNode.build_isOk_iff none _ .empty]
    decide
  directives := by
    simp only [← DirectiveNode.build_isOk_iff none _ .empty]
    decide
  typeNames := by decide
  directiveNames := by decide
  roots operation := by
    cases operation <;> decide

/-- The loader that knows nothing but the built-in definitions holds them. -/
theorem holds_start (options : Options) :
  (start options).Holds BuiltIn.definitions
  where
  types := by
    have nodes : typeNodes BuiltIn.definitions
        = BuiltIn.scalarTexts.map fun text => BuiltIn.scalarNode text.1 text.2 := rfl
    rw [nodes]
    apply List.forall₂_map_left_iff.mpr
    apply List.forall₂_map_right_iff.mpr
    apply List.forall₂_same.mpr
    rintro ⟨name, description⟩ -
    exact ⟨rfl, BuiltIn.describes_scalar name description⟩
  directives := by
    have nodes : directiveNodes BuiltIn.definitions
        = BuiltIn.directiveTexts.map BuiltIn.directiveNode := rfl
    rw [nodes, start, BuiltIn.directives_eq]
    apply List.forall₂_map_left_iff.mpr
    apply List.forall₂_map_right_iff.mpr
    apply forall₂_numbered
    intro n text
    exact ⟨rfl, BuiltIn.describes_defineDirective n text⟩
  extensions := .nil
  failed := rfl
  declared name := by
    rw [start, BuiltIn.directives_eq]
    rfl
  roots operation := by
    cases operation <;> rfl

/-- Whether definitions, the built-in ones among them, say what a loader has taken up: it has found
no fault if and only if they are loadable, and then it holds them. -/
structure Accounts (options : Options) (ds : List Definition) (l : Loader) : Prop where
  options : l.options = options
  declared : l.Declared
  loadable : l.faults = [] ↔ Loadable ds
  holds : l.faults = [] → l.Holds ds

/-- The built-in definitions account for the start. -/
theorem accounts_start (options : Options) :
  Accounts options BuiltIn.definitions (start options)
  where
  options := rfl
  declared := declared_start options
  loadable := ⟨fun _ => loadable_definitions, fun _ => rfl⟩
  holds _ := holds_start options

/-- One more definition accounts for a visit of it. -/
theorem Accounts.visit {options : Options} {ds : List Definition} {l : Loader}
    (h : Accounts options ds l) (file : String) (d : Definition) :
  Accounts options (ds ++ [d]) (l.visit file d)
  := by
  have same_options := (options_visit file l d).trans h.options
  have declared := h.declared.visit file d
  by_cases loaded : l.faults = []
  · obtain ⟨fits, same, held⟩ | ⟨misfit, some_fault⟩ := (h.holds loaded).takesUp file d
    · have loadable : Loadable (ds ++ [d]) :=
        (loadable_concat_iff ds d).mpr ⟨h.loadable.mp loaded, fits⟩
      exact ⟨same_options, declared, ⟨fun _ => loadable, fun _ => same.trans loaded⟩, fun _ => held⟩
    · have unloadable : ¬ Loadable (ds ++ [d]) := by
        rw [loadable_concat_iff]
        intro both
        apply misfit both.2
      exact ⟨same_options, declared,
        ⟨fun none => absurd none some_fault, fun loadable => absurd loadable unloadable⟩,
        fun none => absurd none some_fault⟩
  · -- A fault that has been found before is not taken back.
    have some_fault : (l.visit file d).faults ≠ [] := by
      intro none
      apply loaded
      apply List.prefix_nil.mp
      rw [← none]
      apply faults_visit
    have unloadable : ¬ Loadable (ds ++ [d]) := by
      rw [loadable_concat_iff, ← h.loadable]
      intro both
      apply loaded both.1
    exact ⟨same_options, declared,
      ⟨fun none => absurd none some_fault, fun loadable => absurd loadable unloadable⟩,
      fun none => absurd none some_fault⟩

/-- More definitions account for visits of them. -/
theorem Accounts.visitAll {options : Options} {ds : List Definition} {l : Loader}
    (h : Accounts options ds l) (file : String) (more : List Definition) :
  Accounts options (ds ++ more) (l.visitAll file more)
  := by
  induction more generalizing ds l with
  | nil =>
    rw [List.append_nil]
    apply h
  | cons d rest ih =>
    rw [List.append_cons]
    apply ih (h.visit file d)

/-- Definitions account for a loader whatever the number of documents without a file name. -/
theorem Accounts.unnamed {options : Options} {ds : List Definition} {l : Loader}
    (h : Accounts options ds l) (n : UInt16) :
  Accounts options ds { l with unnamed := n }
  where
  options := h.options
  declared := ⟨h.declared.types, h.declared.extensions, h.declared.directives⟩
  loadable := h.loadable
  holds loaded := by
    have held := h.holds loaded
    exact ⟨held.types, held.directives, held.extensions, held.failed, held.declared, held.roots⟩

/-- The definitions of texts that are loaded account for the loader, after the built-in ones. -/
theorem Loads.accounts {options : Options} {ds : List Definition} {l : Loader}
    (h : Loads options ds l) :
  Accounts options (BuiltIn.definitions ++ ds) l
  := by
  induction h with
  | start =>
    rw [List.append_nil]
    apply accounts_start
  | @load ds more l later file text _ parsed loaded ih =>
    rw [← List.append_assoc]
    cases file with
    | some file =>
      obtain ⟨others, same, rfl⟩ := (loadNamed_eq_ok_iff _ _ _ _).mp loaded
      rw [parsed] at same
      cases same
      apply ih.visitAll
    | none =>
      obtain ⟨others, same, rfl⟩ := (loadNamed_eq_ok_iff _ _ _ _).mp loaded
      rw [parsed] at same
      cases same
      apply (ih.unnamed _).visitAll

end Loader

end LinkedSchema
