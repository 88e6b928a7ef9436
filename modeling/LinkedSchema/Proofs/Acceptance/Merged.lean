import LinkedSchema.Proofs.Acceptance.Conditions
import LinkedSchema.Proofs.Linking.Annotations
import LinkedSchema.Proofs.Loading.Contents

/-!
# Merged definitions

The table of types of a loader that holds definitions, after the extensions have been merged into
it, said of the nodes.  The extensions can be merged if and only if every one of them extends a
type of its kind, and the members of no type conflict (`Loader.Holds.mergeable_iff`); then the
table has a type for every type that is defined, and this has what its parts have
(`Loader.Merges.forall_values_iff`).
-/

namespace LinkedSchema

open Document
open TypeDefinition (Apart)

/-- The only member of a list without repeated names that has the name of a given member is that
member. -/
theorem filter_eq_singleton {α : Type} {name : α → String} {list : List α}
    (distinct : (list.map name).Nodup) {a : α} (member : a ∈ list) :
  list.filter (fun other => name other = name a) = [a]
  := by
  induction list with
  | nil => cases member
  | cons first rest ih =>
    rw [List.map_cons, List.nodup_cons] at distinct
    rcases List.mem_cons.mp member with rfl | later
    · have others : rest.filter (fun other => name other = name a) = [] := by
        rw [List.filter_eq_nil_iff]
        intro other member same
        apply distinct.1
        rw [← of_decide_eq_true same]
        apply List.mem_map_of_mem member
      simp [others]
    · have different : name first ≠ name a := by
        intro same
        apply distinct.1
        rw [same]
        apply List.mem_map_of_mem later
      rw [List.filter_cons_of_neg (by simpa using different)]
      apply ih distinct.2 later

namespace Loader

/-- The names of directives that a node applies to a type and that may not be applied again. -/
def onceApplied (directives : DirectiveTable) (node : TypeNode) : List String :=
  AnnotationCheck.once directives (node.applied.map Prod.fst)

section Holds

variable {l : Loader} {ds : List Definition} (holds : l.Holds ds) (loadable : Loadable ds)

include holds loadable

/-- No key stands twice in the table of types. -/
theorem Holds.nodup_types :
  l.types.keys.Nodup
  := by
  rw [holds.types.keys_eq]
  apply loadable.typeNames

/-- A name is defined to be a type of a kind if and only if the table has such a type. -/
theorem Holds.definesKind_iff (name : String) (kind : Kind) :
  DefinesKind ds name kind ↔ ∃ type, l.types.get? name = some type ∧ type.kind = kind
  := by
  constructor
  · rintro ⟨node, member, rfl, rfl⟩
    obtain ⟨type, found, described⟩ :=
      holds.types.exists_get? (holds.nodup_types loadable) member
    use type, found, described.kind
  · rintro ⟨type, found, rfl⟩
    obtain ⟨node, member, named, described⟩ := holds.types.exists_node found
    use node, member, named, described.kind.symm

/-- The parts of a type in the loader are described by the nodes that are its parts. -/
theorem Holds.describes_parts {node : TypeNode} (member : node ∈ typeNodes ds)
    {base : TypeDefinition} (described : node.Describes base) :
  List.Forall₂ (fun type node => TypeNode.Describes node type)
    (base :: extensionsOf l.extensions node.name) (partsOf ds node.name)
  := by
  rw [partsOf, filter_eq_singleton loadable.typeNames member, List.singleton_append]
  constructor
  · apply described
  · apply List.rel_filter _ holds.extensions
    intro type other describes
    simp only [decide_eq_true_eq, describes.name]

/-- Every extension is one of a type of its name and kind if and only if every node of an extension
extends a type of its kind. -/
theorem Holds.extensions_iff :
  ((∀ extension ∈ l.extensions, extension.name ∈ l.types.keys)
      ∧ ∀ name base, l.types.get? name = some base → ∀ extension ∈ extensionsOf l.extensions name,
        base.name = extension.name ∧ base.kind = extension.kind)
    ↔ ∀ node ∈ extensionNodes ds, DefinesKind ds node.name node.kind
  := by
  constructor
  · rintro ⟨defined, same⟩ node member
    obtain ⟨extension, held, described⟩ := holds.extensions.exists_left member
    rw [holds.definesKind_iff loadable, ← described.name, ← described.kind]
    obtain ⟨base, found⟩ := Option.isSome_iff_exists.mp
      ((OrderedMap.lookup_isSome_iff _ _).mpr (defined extension held))
    use base, found
    apply (same _ base found extension _).2
    simp [extensionsOf, held]
  · intro extends_type
    have of_extension : ∀ extension ∈ l.extensions, ∃ base,
        l.types.get? extension.name = some base ∧ base.kind = extension.kind := by
      intro extension held
      obtain ⟨node, member, described⟩ := holds.extensions.exists_right held
      rw [described.name, described.kind, ← holds.definesKind_iff loadable]
      apply extends_type node member
    constructor
    · intro extension held
      obtain ⟨base, found, -⟩ := of_extension extension held
      apply OrderedMap.mem_keys_of_get? found
    · intro name base found extension held
      rw [extensionsOf, List.mem_filter, decide_eq_true_eq] at held
      obtain ⟨held, rfl⟩ := held
      obtain ⟨other, other_found, kind⟩ := of_extension extension held
      rw [found] at other_found
      cases other_found
      obtain ⟨node, -, named, described⟩ := holds.types.exists_node found
      exact ⟨described.name.trans named, kind⟩

end Holds

/-! ### Parts that do not conflict -/

/-- Whether the parts of a type have no member in common, and no directive that may not be applied
again. -/
structure PartsApart (directives : DirectiveTable) (parts : List TypeNode) : Prop where
  once : parts.Pairwise fun part other =>
    (onceApplied directives part).Disjoint (onceApplied directives other)
  fields : (parts.flatMap TypeNode.fieldNames).Nodup
  inputFields : (parts.flatMap TypeNode.inputFieldNames).Nodup
  values : (parts.flatMap TypeNode.valueNames).Nodup

/-- The directives that a type may not be given again are those of the node that describes it. -/
theorem onceApplied_of_describes (directives : DirectiveTable) {type : TypeDefinition}
    {node : TypeNode} (described : node.Describes type) :
  type.onceApplied directives = onceApplied directives node
  := by
  rw [onceApplied, ← described.marks, TypeDefinition.marks, List.map_map]
  rfl

/-- Parts conflict in nothing if and only if the nodes that describe them do not. -/
theorem pairwise_apart_iff (directives : DirectiveTable) {types : List TypeDefinition}
    {parts : List TypeNode} (sound : ∀ part ∈ parts, part.Sound)
    (described : List.Forall₂ (fun type node => TypeNode.Describes node type) types parts) :
  types.Pairwise (Apart directives) ↔ PartsApart directives parts
  := by
  have nodup_iff : ∀ f : TypeNode → List String, (∀ part ∈ parts, (f part).Nodup) →
      ((parts.flatMap f).Nodup ↔ parts.Pairwise fun part other => (f part).Disjoint (f other)) := by
    intro f distinct
    rw [List.nodup_flatMap, and_iff_right distinct]
  rw [List.Pairwise.iff (TypeDefinition.apart_iff directives), List.pairwise_and_iff,
    List.pairwise_and_iff, List.pairwise_and_iff,
    described.pairwise_iff (fun _ _ same => onceApplied_of_describes directives same) List.Disjoint,
    described.pairwise_iff (fun _ _ same => same.fields) List.Disjoint,
    described.pairwise_iff (fun _ _ same => same.inputFields) List.Disjoint,
    described.pairwise_iff (fun _ _ same => same.values) List.Disjoint,
    ← nodup_iff TypeNode.fieldNames fun part member => (sound part member).fields.2,
    ← nodup_iff TypeNode.inputFieldNames fun part member => (sound part member).inputFields.2,
    ← nodup_iff TypeNode.valueNames fun part member => (sound part member).values.2]
  exact ⟨fun ⟨once, fields, inputFields, values⟩ => ⟨once, fields, inputFields, values⟩,
    fun ⟨once, fields, inputFields, values⟩ => ⟨once, fields, inputFields, values⟩⟩

theorem mem_partsOf_iff (ds : List Definition) (name : String) (part : TypeNode) :
  part ∈ partsOf ds name ↔ part ∈ typeNodes ds ++ extensionNodes ds ∧ part.name = name
  := by
  simp only [partsOf, List.mem_append, List.mem_filter, decide_eq_true_eq, or_and_right]

/-- The parts of types are sound. -/
theorem sound_of_mem_partsOf {ds : List Definition} (loadable : Loadable ds) {name : String}
    {part : TypeNode} (member : part ∈ partsOf ds name) :
  part.Sound
  := loadable.types part ((mem_partsOf_iff ds name part).mp member).1

/-- No name stands twice in an extension of a type that is defined. -/
theorem Holds.distinct_of_mem_extensionsOf {l : Loader} {ds : List Definition}
    (holds : l.Holds ds) (loadable : Loadable ds) {node : TypeNode} (member : node ∈ typeNodes ds)
    {base : TypeDefinition} (described : node.Describes base) :
  ∀ extension ∈ extensionsOf l.extensions node.name, extension.Distinct
  := by
  intro extension held
  obtain ⟨part, part_member, same⟩ := (holds.describes_parts loadable member described).exists_right
    (List.mem_cons_of_mem base held)
  have sound := sound_of_mem_partsOf loadable part_member
  constructor
  · rw [same.fields]
    apply sound.fields.2
  · rw [same.inputFields]
    apply sound.inputFields.2
  · rw [same.values]
    apply sound.values.2

/-- The extensions can be merged if and only if every one of them extends a type of its kind, and
the parts of no type conflict. -/
theorem Holds.mergeable_iff {l : Loader} {ds : List Definition} (holds : l.Holds ds)
    (loadable : Loadable ds) :
  Mergeable l.directives l.types l.extensions
    ↔ (∀ node ∈ extensionNodes ds, DefinesKind ds node.name node.kind)
      ∧ ∀ node ∈ typeNodes ds, PartsApart l.directives (partsOf ds node.name)
  := by
  have apart_iff : (∀ name base, l.types.get? name = some base →
      (base :: extensionsOf l.extensions name).Pairwise (Apart l.directives))
        ↔ ∀ node ∈ typeNodes ds, PartsApart l.directives (partsOf ds node.name) := by
    constructor
    · intro apart node member
      obtain ⟨base, found, described⟩ :=
        holds.types.exists_get? (holds.nodup_types loadable) member
      rw [← pairwise_apart_iff l.directives (fun _ => sound_of_mem_partsOf loadable)
        (holds.describes_parts loadable member described)]
      apply apart node.name base found
    · intro apart name base found
      obtain ⟨node, member, rfl, described⟩ := holds.types.exists_node found
      rw [pairwise_apart_iff l.directives (fun _ => sound_of_mem_partsOf loadable)
        (holds.describes_parts loadable member described)]
      apply apart node member
  rw [← holds.extensions_iff loadable, ← apart_iff, Mergeable, and_assoc]
  simp only [TypeDefinition.acceptsAll_iff, imp_and, forall_and]

/-! ### The merged table -/

/-- Merging finds no fault if and only if the extensions can be merged; then it keeps the keys of
the table, and every type is given all of its extensions. -/
theorem Holds.merged_spec {l : Loader} {ds : List Definition} (holds : l.Holds ds) :
  (l.merged.2 = [] ↔ Mergeable l.directives l.types l.extensions)
    ∧ (l.merged.2 = [] → l.merged.1.keys = l.types.keys ∧ ∀ name, l.merged.1.get? name
      = (l.types.get? name).map fun base => base.extendAll (extensionsOf l.extensions name))
  := by
  obtain ⟨merged, conflicts, run, iff, same⟩ :=
    foldl_mergeExtension l.directives l.extensions l.types []
  rw [Loader.merged, holds.failed, run]
  exact ⟨iff, same⟩

section Merged

variable {l : Loader} {ds : List Definition} (holds : l.Holds ds) (loadable : Loadable ds)
  (clean : l.merged.2 = [])

include holds loadable clean

/-- The merged table has a type of a kind if and only if the name is defined to be one. -/
theorem Holds.definesKind_iff_merged (name : String) (kind : Kind) :
  DefinesKind ds name kind ↔ ∃ type, l.merged.1.get? name = some type ∧ type.kind = kind
  := by
  rw [holds.definesKind_iff loadable, (holds.merged_spec.2 clean).2]
  simp only [Option.map_eq_some_iff, exists_exists_and_eq_and, TypeDefinition.kind_extendAll]

/-- What is said of all types in the merged table is said of the type of every node with all of its
extensions. -/
theorem Holds.forall_merged_iff (P : TypeDefinition → Prop) :
  (∀ type ∈ l.merged.1.values, P type)
    ↔ ∀ node ∈ typeNodes ds, ∀ base, node.Describes base → l.types.get? node.name = some base →
      P (base.extendAll (extensionsOf l.extensions node.name))
  := by
  obtain ⟨keys, merged⟩ := holds.merged_spec.2 clean
  have distinct : l.merged.1.keys.Nodup := by
    rw [keys]
    apply holds.nodup_types loadable
  simp only [OrderedMap.mem_values_iff distinct, merged, Option.map_eq_some_iff]
  constructor
  · intro all node _ base _ found
    apply all
    use node.name, base, found
  · rintro all type ⟨name, base, found, rfl⟩
    obtain ⟨node, member, rfl, described⟩ := holds.types.exists_node found
    apply all node member base described found

/-- What is said of the annotations of all types in the merged table is said of what the parts of
every type apply to it. -/
theorem Holds.forall_marks_iff (P : List (String × Site) → Prop) :
  (∀ type ∈ l.merged.1.values, P type.marks)
    ↔ ∀ node ∈ typeNodes ds, P ((partsOf ds node.name).flatMap TypeNode.applied)
  := by
  have marks : ∀ node ∈ typeNodes ds, ∀ base, node.Describes base →
      (base.extendAll (extensionsOf l.extensions node.name)).marks
        = (partsOf ds node.name).flatMap TypeNode.applied := by
    intro node member base described
    rw [TypeDefinition.marks_extendAll]
    apply (holds.describes_parts loadable member described).flatMap_eq
    intro type part same
    apply same.marks
  rw [holds.forall_merged_iff loadable clean fun type => P type.marks]
  constructor
  · intro all node member
    obtain ⟨base, found, described⟩ := holds.types.exists_get? (holds.nodup_types loadable) member
    rw [← marks node member base described]
    apply all node member base described found
  · intro all node member base described found
    rw [marks node member base described]
    apply all node member

/-- What is said of everything that types in the merged table have is said of everything that the
nodes of types and extensions have, if a type has what its parts have, and a definition what the
node that describes it has. -/
theorem Holds.forall_parts_iff {α : Type} {f : TypeDefinition → List α} {g : TypeNode → List α}
    (extend : ∀ {base extensions}, (base :: extensions).Pairwise (Apart l.directives) →
      (∀ extension ∈ extensions, TypeDefinition.Distinct extension) →
      ∀ a, a ∈ f (base.extendAll extensions) ↔ ∃ part ∈ base :: extensions, a ∈ f part)
    (agree : ∀ {node : TypeNode} {type}, node.Describes type → f type = g node) (P : α → Prop) :
  (∀ type ∈ l.merged.1.values, ∀ a ∈ f type, P a)
    ↔ ∀ node ∈ typeNodes ds ++ extensionNodes ds, ∀ a ∈ g node, P a
  := by
  obtain ⟨extends_type, apart⟩ :=
    (holds.mergeable_iff loadable).mp (holds.merged_spec.1.mp clean)
  have of_node : ∀ node ∈ typeNodes ds, ∀ base, node.Describes base →
      ((∀ a ∈ f (base.extendAll (extensionsOf l.extensions node.name)), P a)
        ↔ ∀ part ∈ partsOf ds node.name, ∀ a ∈ g part, P a) := by
    intro node member base described
    have parts := holds.describes_parts loadable member described
    have pairwise := (pairwise_apart_iff l.directives (fun _ => sound_of_mem_partsOf loadable)
      parts).mpr (apart node member)
    have distinct := holds.distinct_of_mem_extensionsOf loadable member described
    rw [← parts.forall_iff (p := fun type => ∀ a ∈ f type, P a)]
    · simp only [extend pairwise distinct]
      grind
    · intro type part same
      rw [agree same]
  rw [holds.forall_merged_iff loadable clean fun type => ∀ a ∈ f type, P a]
  constructor
  · intro all part member
    have defined : ∃ node ∈ typeNodes ds, node.name = part.name := by
      rcases List.mem_append.mp member with of_type | of_extension
      · exact ⟨part, of_type, rfl⟩
      · obtain ⟨node, member, named, -⟩ := extends_type part of_extension
        exact ⟨node, member, named⟩
    obtain ⟨node, node_member, named⟩ := defined
    obtain ⟨base, found, described⟩ :=
      holds.types.exists_get? (holds.nodup_types loadable) node_member
    apply (of_node node node_member base described).mp (all node node_member base described found)
    rw [mem_partsOf_iff]
    exact ⟨member, named.symm⟩
  · intro all node member base described _
    apply (of_node node member base described).mpr
    intro part part_member
    apply all part ((mem_partsOf_iff ds _ part).mp part_member).1

end Merged

end Loader

end LinkedSchema
