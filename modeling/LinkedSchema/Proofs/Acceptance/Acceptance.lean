import LinkedSchema.Proofs.Acceptance.Merged
import LinkedSchema.Proofs.Linking.Resolution
import LinkedSchema.Proofs.Linking.Roots

/-!
# Acceptance

The texts that are loaded make a schema if and only if their definitions fit together
(`Loader.Loads.link_isOk_iff_coherent`).  Each phase of linking is said of the nodes in turn:
binding in `Loader.Holds.bind_isOk_iff`, the checks in `Loader.Holds.annotations_iff` and
`Loader.Holds.kinds_iff`, and the choice of the root types in `Loader.Holds.hasRoot_iff`.
-/

namespace LinkedSchema

open Document

/-- What is said of all mentions of references in a schema by role and name is said of those of
types and of those of directives. -/
theorem forall_mentioned_iff (types : TypeTable) (directives : DirectiveTable)
    (P : Role × String → Prop) :
  (∀ role r, Mentioned types directives role r → P (role, r.name))
    ↔ (∀ type ∈ types.values, ∀ mention ∈ type.mentions, P mention)
      ∧ ∀ directive ∈ directives.values, ∀ mention ∈ directive.mentions, P mention
  := by
  simp only [TypeDefinition.mentions, FieldDefinition.mentions, DirectiveDefinition.mentions,
    List.forall_mem_append, List.forall_mem_flatMap, List.forall_mem_cons, List.forall_mem_map,
    InputDefinition.mention]
  constructor
  · intro all
    constructor
    · intro type member
      and_intros
      · intro r interface
        apply all _ _ (.interface member interface)
      · intro r union
        apply all _ _ (.member member union)
      · intro field field_member
        constructor
        · apply all _ _ (.field member field_member)
        · intro argument argument_member
          apply all _ _ (.argument member field_member argument_member)
      · intro field field_member
        apply all _ _ (.inputField member field_member)
    · intro directive member argument argument_member
      apply all _ _ (.directiveArgument member argument_member)
  · rintro ⟨of_types, of_directives⟩ role r mentioned
    cases mentioned with
    | interface type r => apply (of_types _ type).1.1.1 _ r
    | member type r => apply (of_types _ type).1.1.2 _ r
    | field type field => apply ((of_types _ type).1.2 _ field).1
    | argument type field argument => apply ((of_types _ type).1.2 _ field).2 _ argument
    | inputField type field => apply (of_types _ type).2 _ field
    | directiveArgument directive argument => apply of_directives _ directive _ argument

/-- What is said of all mentions of definitions is said of those of types and extensions and of
those of directives. -/
theorem forall_mentions_iff (ds : List Definition) (P : Role × String → Prop) :
  (∀ mention ∈ ds.flatMap Definition.mentions, P mention)
    ↔ (∀ node ∈ typeNodes ds ++ extensionNodes ds, ∀ mention ∈ node.mentions, P mention)
      ∧ ∀ node ∈ directiveNodes ds, ∀ mention ∈ node.mentions, P mention
  := by
  induction ds with
  | nil => simp [typeNodes, extensionNodes, directiveNodes]
  | cons d rest ih =>
    rw [List.flatMap_cons, List.forall_mem_append, ih]
    cases d with
    | schema node =>
      simp only [Definition.mentions, List.not_mem_nil, false_implies, implies_true, true_and]
      rfl
    | type node =>
      change (∀ mention ∈ node.mentions, P mention) ∧ _
        ↔ (∀ other ∈ (node :: typeNodes rest) ++ extensionNodes rest, _) ∧ _
      rw [List.cons_append, List.forall_mem_cons, and_assoc]
      rfl
    | extension node =>
      change (∀ mention ∈ node.mentions, P mention) ∧ _
        ↔ (∀ other ∈ typeNodes rest ++ (node :: extensionNodes rest), _) ∧ _
      simp only [List.forall_mem_append, List.forall_mem_cons]
      tauto
    | directive node =>
      change (∀ mention ∈ node.mentions, P mention) ∧ _
        ↔ _ ∧ ∀ other ∈ node :: directiveNodes rest, _
      rw [List.forall_mem_cons]
      tauto

namespace Loader

section Merged

variable {l : Loader} {ds : List Definition} (holds : l.Holds ds) (loadable : Loadable ds)
  (clean : l.merged.2 = [])

include holds loadable clean

/-! ### Mentions -/

/-- What is said of all mentions in the merged types and in the directives is said of all those of
the definitions. -/
theorem Holds.forall_mentions_iff (P : Role × String → Prop) :
  (∀ role r, Mentioned l.merged.1 l.directives role r → P (role, r.name))
    ↔ ∀ mention ∈ ds.flatMap Definition.mentions, P mention
  := by
  have of_types := holds.forall_parts_iff loadable clean
    TypeDefinition.mem_mentions_extendAll TypeNode.Describes.mentions P
  have of_directives := holds.directives.forall_values_iff
    (p := fun directive => ∀ mention ∈ directive.mentions, P mention)
    (q := fun node => ∀ mention ∈ node.mentions, P mention)
    fun node directive same => by rw [same.mentions]
  rw [forall_mentioned_iff, LinkedSchema.forall_mentions_iff, of_types, of_directives]

/-- The references can be bound if and only if every name that is mentioned is defined. -/
theorem Holds.bind_isOk_iff :
  (l.registry.bind l.merged.1).isOk
    ↔ ∀ mention ∈ ds.flatMap Definition.mentions, ∃ kind, DefinesKind ds mention.2 kind
  := by
  have defined_iff : ∀ name, name ∈ l.merged.1.keys ↔ ∃ kind, DefinesKind ds name kind := by
    intro name
    simp only [holds.definesKind_iff_merged loadable clean, ← OrderedMap.lookup_isSome_iff,
      OrderedMap.keys, Option.isSome_iff_exists]
    simp [OrderedMap.get?]
  rw [Registry.bind_isOk_iff, ← List.forall_mem_map (P := fun name => name ∈ l.merged.1.keys)]
  simp only [holds.declared, defined_iff, List.forall_mem_map]

/-- Once the references are bound, a reference is bound to a type of a legal kind if and only if
its name is defined to be one. -/
theorem Holds.legal_iff {bindings : Bindings}
    (bound : l.registry.bind l.merged.1 = .ok bindings) {r : Reference}
    (declares : l.registry.Declares r) (role : Role) :
  KindCheck.Legal l.merged.1 bindings role r
    ↔ ∃ kind, DefinesKind ds r.name kind ∧ role.legal kind
  := by
  obtain ⟨bound_to, defined⟩ := Registry.get?_of_bind bound declares
  obtain ⟨place, placed⟩ := Option.isSome_iff_exists.mp
    ((OrderedMap.indexOf?_isSome_iff _ r.name).mpr defined)
  obtain ⟨type, entry, found⟩ := OrderedMap.entryAt?_of_indexOf? placed
  have kind_of : KindCheck.kindOf? l.merged.1 bindings r = some type.kind := by
    rw [KindCheck.kindOf?, bound_to, placed, Option.bind_some, entry]
    rfl
  simp [KindCheck.Legal, kind_of, holds.definesKind_iff_merged loadable clean, found]

/-- The check of kinds finds nothing if and only if every mention is of a type of a legal kind. -/
theorem Holds.kinds_iff (declared : l.Declared) {bindings : Bindings}
    (bound : l.registry.bind l.merged.1 = .ok bindings) :
  KindCheck.faults l.merged.1 bindings l.directives = []
    ↔ ∀ mention ∈ ds.flatMap Definition.mentions,
      ∃ kind, DefinesKind ds mention.2 kind ∧ mention.1.legal kind
  := by
  rw [KindCheck.faults_eq_nil_iff, ← holds.forall_mentions_iff loadable clean
    fun mention => ∃ kind, DefinesKind ds mention.2 kind ∧ mention.1.legal kind]
  apply forall_congr'
  intro role
  apply forall_congr'
  intro r
  apply imp_congr_right
  intro mentioned
  apply holds.legal_iff loadable clean bound (declared.declares_of_mentioned mentioned)

end Merged

/-! ### Annotations -/

section Annotations

variable {l : Loader} {ds : List Definition} (holds : l.Holds ds) (loadable : Loadable ds)

include holds loadable

/-- The table has a directive with a name about which something is said if and only if one is
defined. -/
theorem Holds.exists_directive_iff (name : String) (P : Bool → List Site → Prop) :
  (∃ directive, l.directives.get? name = some directive
      ∧ P directive.repeatable directive.sites)
    ↔ ∃ node ∈ directiveNodes ds, node.name = name ∧ P node.repeatable node.sites
  := by
  constructor
  · rintro ⟨directive, found, said⟩
    obtain ⟨node, member, named, described⟩ := holds.directives.exists_node found
    use node, member, named
    rw [← described.repeatable, ← described.sites]
    apply said
  · rintro ⟨node, member, rfl, said⟩
    have distinct : l.directives.keys.Nodup := by
      rw [holds.directives.keys_eq]
      apply loadable.directiveNames
    obtain ⟨directive, found, described⟩ := holds.directives.exists_get? distinct member
    use directive, found
    rw [described.repeatable, described.sites]
    apply said

/-- A directive may not be repeated if and only if it is defined so. -/
theorem Holds.mayRepeat_eq_false_iff (name : String) :
  TypeDefinition.mayRepeat l.directives name = false
    ↔ ∃ node ∈ directiveNodes ds, node.name = name ∧ node.repeatable = false
  := by
  rw [← holds.exists_directive_iff loadable name fun repeatable _ => repeatable = false]
  apply TypeDefinition.mayRepeat_eq_false_iff

/-- Annotations with given names and sites are in order if and only if the directives are applied
well. -/
theorem Holds.wellMarked_iff (options : Options) (list : List (String × Site)) :
  AnnotationCheck.WellMarked l.directives options.misplacedDirective list
    ↔ AppliedWell options ds list
  := by
  have placed_iff : ∀ mark, AnnotationCheck.Placed l.directives options.misplacedDirective mark
      ↔ ∃ node ∈ directiveNodes ds, node.name = mark.1
        ∧ (mark.2 ∈ node.sites ∨ options.misplacedDirective = .warn) := by
    intro mark
    apply holds.exists_directive_iff loadable mark.1
      fun _ sites => mark.2 ∈ sites ∨ options.misplacedDirective = .warn
  have once_iff : (AnnotationCheck.once l.directives (list.map Prod.fst)).Nodup
      ↔ ∀ node ∈ directiveNodes ds, node.repeatable = false →
        (list.map Prod.fst).count node.name ≤ 1 := by
    rw [AnnotationCheck.once, nodup_filter_iff]
    constructor
    · intro distinct node member once
      apply distinct
      rw [(holds.mayRepeat_eq_false_iff loadable _).mpr ⟨node, member, rfl, once⟩]
      rfl
    · intro once name may_not
      obtain ⟨node, member, rfl, not_repeatable⟩ :=
        (holds.mayRepeat_eq_false_iff loadable _).mp ((Bool.not_eq_true' _).mp may_not)
      apply once node member not_repeatable
  constructor
  · rintro ⟨placed, once⟩
    constructor
    · intro mark member
      apply (placed_iff mark).mp (placed mark member)
    · apply once_iff.mp once
  · rintro ⟨placed, once⟩
    constructor
    · intro mark member
      apply (placed_iff mark).mpr (placed mark member)
    · apply once_iff.mpr once

/-- The check of annotations finds nothing if and only if directives are applied well to everything
defined. -/
theorem Holds.annotations_iff (clean : l.merged.2 = []) (options : Options) :
  AnnotationCheck.faults l.directives options.misplacedDirective l.merged.1 = []
    ↔ ∀ list ∈ applications ds, AppliedWell options ds list
  := by
  have of_types := holds.forall_marks_iff loadable clean (AppliedWell options ds)
  have of_members := holds.forall_parts_iff loadable clean
    TypeDefinition.mem_memberMarks_extendAll TypeNode.Describes.memberMarks (AppliedWell options ds)
  have of_directives := holds.directives.forall_values_iff
    (p := fun directive => ∀ list ∈ directive.marks, AppliedWell options ds list)
    (q := fun node => ∀ list ∈ node.applications, AppliedWell options ds list)
    fun node directive same => by rw [same.marks]
  rw [AnnotationCheck.faults_eq_nil_iff]
  simp only [holds.wellMarked_iff loadable, imp_and, forall_and, of_types, of_members,
    of_directives, applications, List.forall_mem_append, List.forall_mem_map,
    List.forall_mem_flatMap]

/-- If directives are applied well to a type by all of its parts together, no two parts apply one
that may not be repeated. -/
theorem Holds.pairwise_onceApplied {options : Options} {parts : List TypeNode}
    (well : AppliedWell options ds (parts.flatMap TypeNode.applied)) :
  parts.Pairwise fun part other =>
    (onceApplied l.directives part).Disjoint (onceApplied l.directives other)
  := by
  have once := ((holds.wellMarked_iff loadable options _).mpr well).once
  rw [AnnotationCheck.once, List.map_flatMap, List.filter_flatMap] at once
  apply (List.nodup_flatMap.mp once).2

end Annotations

/-! ### Root operations -/

section Roots

variable {l : Loader} {ds : List Definition} (holds : l.Holds ds)

include holds

/-- The name of the type of an operation is that of the definitions. -/
theorem Holds.rootName_eq (operation : Operation) :
  Loader.rootName l.roots operation = Document.rootName ds operation
  := by
  rw [Document.rootName, ← holds.roots, Loader.rootName]
  cases l.roots.get? operation <;> rfl

/-- A type has been named for an operation if and only if a schema block names one. -/
theorem Holds.isSome_root_iff (operation : Operation) :
  (l.roots.get? operation).isSome ↔ declaredRoots ds operation ≠ []
  := by
  rw [← Option.isSome_map (f := Root.type), holds.roots, List.isSome_head?]

/-- An operation has a type if and only if it has an object type in the definitions. -/
theorem Holds.hasRoot_iff (loadable : Loadable ds) (clean : l.merged.2 = [])
    (operation : Operation) :
  (rootPlace? l.merged.1 l.roots operation).isSome ↔ HasRoot ds operation
  := by
  rw [rootPlace?_isSome_iff, HasRoot, holds.rootName_eq,
    holds.definesKind_iff_merged loadable clean]

end Roots

/-! ### Acceptance -/

/-- Definitions that fit together are loadable. -/
theorem loadable_of_coherent {options : Options} {ds : List Definition}
    (coherent : Coherent options ds) :
  Loadable ds
  where
  types node member := (TypeNode.build_isOk_iff _ node _).mp (coherent.types node member)
  directives node member :=
    (DirectiveNode.build_isOk_iff _ node _).mp (coherent.directives node member)
  typeNames := coherent.typeNames
  directiveNames := coherent.directiveNames
  roots := coherent.roots

/-- The checks find nothing if and only if kinds, annotations and root types are in order. -/
theorem Holds.checkFaults_eq_nil_iff {l : Loader} {ds : List Definition} (holds : l.Holds ds)
    (loadable : Loadable ds) (clean : l.merged.2 = []) (declared : l.Declared)
    {bindings : Bindings} (bound : l.registry.bind l.merged.1 = .ok bindings)
    (query : HasRoot ds .query) :
  l.checkFaults l.merged.1 bindings = []
    ↔ (∀ list ∈ applications ds, AppliedWell l.options ds list)
      ∧ (∀ mention ∈ ds.flatMap Definition.mentions,
        ∃ kind, DefinesKind ds mention.2 kind ∧ mention.1.legal kind)
      ∧ (∀ operation, declaredRoots ds operation ≠ [] → HasRoot ds operation)
      ∧ ∀ operation other, operation ≠ other → HasRoot ds operation → HasRoot ds other →
        Document.rootName ds operation ≠ Document.rootName ds other
  := by
  have placed := (holds.hasRoot_iff loadable clean .query).mpr query
  rw [checkFaults, List.append_eq_nil_iff, List.append_eq_nil_iff,
    holds.annotations_iff loadable clean, holds.kinds_iff loadable clean declared bound,
    operationFaults_eq_nil_iff _ _ placed, and_assoc]
  simp only [holds.hasRoot_iff loadable clean, holds.isSome_root_iff, holds.rootName_eq]

/-- Definitions that are loaded, merged, bound and checked without a fault fit together. -/
theorem Holds.coherent {l : Loader} {ds : List Definition} (holds : l.Holds ds)
    (loadable : Loadable ds) (clean : l.merged.2 = []) (declared : l.Declared)
    {bindings : Bindings} (bound : l.registry.bind l.merged.1 = .ok bindings)
    (checked : l.checkFaults l.merged.1 bindings = [])
    (placed : (rootPlace? l.merged.1 l.roots .query).isSome) :
  Coherent l.options ds
  := by
  have query := (holds.hasRoot_iff loadable clean .query).mp placed
  obtain ⟨extensions, apart⟩ := (holds.mergeable_iff loadable).mp (holds.merged_spec.1.mp clean)
  obtain ⟨applications, mentions, rootKinds, distinctRoots⟩ :=
    (holds.checkFaults_eq_nil_iff loadable clean declared bound query).mp checked
  exact {
    types := fun node member => (TypeNode.build_isOk_iff _ node _).mpr (loadable.types node member)
    directives := fun node member =>
      (DirectiveNode.build_isOk_iff _ node _).mpr (loadable.directives node member)
    typeNames := loadable.typeNames
    directiveNames := loadable.directiveNames
    roots := loadable.roots
    extensions := extensions
    fields := fun node member => (apart node member).fields
    inputFields := fun node member => (apart node member).inputFields
    values := fun node member => (apart node member).values
    mentions := mentions
    applications := applications
    query := query
    rootKinds := rootKinds
    distinctRoots := distinctRoots }

/-- Extensions that fit together with all definitions can be merged. -/
theorem Holds.mergeable_of_coherent {l : Loader} {ds : List Definition} (holds : l.Holds ds)
    {options : Options} (coherent : Coherent options ds) :
  Mergeable l.directives l.types l.extensions
  := by
  have loadable := loadable_of_coherent coherent
  rw [holds.mergeable_iff loadable]
  use coherent.extensions
  intro node member
  have well : AppliedWell options ds ((partsOf ds node.name).flatMap TypeNode.applied) := by
    apply coherent.applications
    rw [applications, List.append_assoc]
    apply List.mem_append_left
    apply List.mem_map_of_mem member
  exact ⟨holds.pairwise_onceApplied loadable well, coherent.fields node member,
    coherent.inputFields node member, coherent.values node member⟩

/-- References of definitions that fit together can be bound. -/
theorem Holds.exists_bind_of_coherent {l : Loader} {ds : List Definition} (holds : l.Holds ds)
    (clean : l.merged.2 = []) {options : Options} (coherent : Coherent options ds) :
  ∃ bindings, l.registry.bind l.merged.1 = .ok bindings
  := by
  have bindable : (l.registry.bind l.merged.1).isOk := by
    rw [holds.bind_isOk_iff (loadable_of_coherent coherent) clean]
    intro mention member
    obtain ⟨kind, defined, -⟩ := coherent.mentions mention member
    use kind
  cases bound : l.registry.bind l.merged.1 with
  | error faults =>
    rw [bound] at bindable
    cases bindable
  | ok bindings => use bindings

/-- The texts that are loaded make a schema if and only if their definitions fit together with the
built-in ones. -/
theorem Loads.link_isOk_iff_coherent {options : Options} {ds : List Definition} {l : Loader}
    (loads : Loads options ds l) :
  l.link.isOk ↔ Coherent options (BuiltIn.definitions ++ ds)
  := by
  obtain ⟨rfl, declared, loaded_iff, held⟩ := loads.accounts
  generalize BuiltIn.definitions ++ ds = all at *
  rw [link_isOk_iff]
  constructor
  · rintro ⟨loaded, clean, bindings, bound, checked, placed⟩
    apply (held loaded).coherent (loaded_iff.mp loaded) clean declared bound checked placed
  · intro coherent
    have loadable := loadable_of_coherent coherent
    have loaded := loaded_iff.mpr loadable
    have holds := held loaded
    have clean := holds.merged_spec.1.mpr (holds.mergeable_of_coherent coherent)
    obtain ⟨bindings, bound⟩ := holds.exists_bind_of_coherent clean coherent
    use loaded, clean, bindings, bound
    rw [holds.checkFaults_eq_nil_iff loadable clean declared bound coherent.query,
      holds.hasRoot_iff loadable clean]
    exact ⟨⟨coherent.applications, coherent.mentions, coherent.rootKinds,
      coherent.distinctRoots⟩, coherent.query⟩

/-- A text in which an extension stands before the type that it extends makes a schema, and its
definitions fit together. -/
theorem coherent_extension_first :
  ∃ ds l, Document.parseSchema "extend type Query{b:Node} type Query{a:Int} interface Node{id:ID}"
      = .ok ds
    ∧ (start {}).load none "extend type Query{b:Node} type Query{a:Int} interface Node{id:ID}"
      = .ok l
    ∧ l.link.isOk ∧ Coherent {} (BuiltIn.definitions ++ ds)
  := by
  have run : (match (start {}).load none
      "extend type Query{b:Node} type Query{a:Int} interface Node{id:ID}" with
    | .ok l => l.link.isOk
    | .error _ => false) = true := by decide +kernel
  split at run
  · next l loaded =>
    obtain ⟨ds, parsed, -⟩ := (loadNamed_eq_ok_iff _ _ _ _).mp loaded
    use ds, l, parsed, loaded, run
    apply (Loads.load .start parsed loaded).link_isOk_iff_coherent.mp run
  · cases run

end Loader

end LinkedSchema
