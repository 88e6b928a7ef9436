import LinkedSchema.Proofs.Acceptance.Conditions
import Mathlib.Data.List.Perm.Basic

/-!
# Coherence in any order

Whether definitions fit together does not depend on their order (`coherent_iff_of_perm`), nor do the
types of operations (`Document.rootName_eq_of_perm`), as long as no operation has been given two.
-/

namespace LinkedSchema

open Document

/-- A list with at most one member is the same in any order. -/
theorem eq_of_perm_of_length_le_one {α : Type} {as bs : List α} (perm : as.Perm bs)
    (short : as.length ≤ 1) :
  as = bs
  := by
  match as with
  | [] => rw [List.nil_perm.mp perm]
  | [a] => rw [List.singleton_perm.mp perm]
  | _ :: _ :: _ => exact absurd short (by simp)

section Perm

variable {ds es : List Definition} (rearranged : ds.Perm es)

include rearranged

/-! ### Parts of definitions -/

namespace Document

theorem typeNodes_perm :
  (typeNodes ds).Perm (typeNodes es)
  := rearranged.filterMap _

theorem extensionNodes_perm :
  (extensionNodes ds).Perm (extensionNodes es)
  := rearranged.filterMap _

theorem directiveNodes_perm :
  (directiveNodes ds).Perm (directiveNodes es)
  := rearranged.filterMap _

theorem declaredRoots_perm (operation : Operation) :
  (declaredRoots ds operation).Perm (declaredRoots es operation)
  := rearranged.filterMap _

theorem partsOf_perm (name : String) :
  (partsOf ds name).Perm (partsOf es name)
  := ((typeNodes_perm rearranged).filter _).append ((extensionNodes_perm rearranged).filter _)

/-- Everything defined has the same directives applied to it in any order. -/
theorem exists_applications_perm {list : List (String × Site)} (member : list ∈ applications es) :
  ∃ other ∈ applications ds, other.Perm list
  := by
  have members : (typeNodes ds ++ extensionNodes ds).flatMap TypeNode.memberApplications
      |>.Perm ((typeNodes es ++ extensionNodes es).flatMap TypeNode.memberApplications) :=
    ((typeNodes_perm rearranged).append (extensionNodes_perm rearranged)).flatMap_right _
  have arguments := (directiveNodes_perm rearranged).flatMap_right DirectiveNode.applications
  rw [applications, List.mem_append, List.mem_append] at member
  rcases member with (of_type | of_member) | of_directive
  · obtain ⟨node, node_member, rfl⟩ := List.mem_map.mp of_type
    use (partsOf ds node.name).flatMap TypeNode.applied
    constructor
    · rw [applications, List.append_assoc]
      apply List.mem_append_left
      apply List.mem_map_of_mem ((typeNodes_perm rearranged).mem_iff.mpr node_member)
    · apply (partsOf_perm rearranged node.name).flatMap_right
  · refine ⟨list, ?_, List.Perm.refl list⟩
    rw [applications, List.mem_append, List.mem_append]
    left; right
    apply members.mem_iff.mpr of_member
  · refine ⟨list, ?_, List.Perm.refl list⟩
    rw [applications, List.mem_append]
    right
    apply arguments.mem_iff.mpr of_directive

end Document

/-! ### Types of operations -/

theorem definesKind_iff_of_perm (name : String) (kind : Kind) :
  DefinesKind ds name kind ↔ DefinesKind es name kind
  := by simp only [DefinesKind, (typeNodes_perm rearranged).mem_iff]

section Roots

variable (roots : ∀ operation, (declaredRoots ds operation).length ≤ 1)

include roots

/-- The types named for operations are the same in any order. -/
theorem Document.declaredRoots_eq_of_perm (operation : Operation) :
  declaredRoots ds operation = declaredRoots es operation
  := eq_of_perm_of_length_le_one (declaredRoots_perm rearranged operation) (roots operation)

theorem Document.rootName_eq_of_perm (operation : Operation) :
  rootName ds operation = rootName es operation
  := by rw [rootName, rootName, declaredRoots_eq_of_perm rearranged roots]

theorem hasRoot_iff_of_perm (operation : Operation) :
  HasRoot ds operation ↔ HasRoot es operation
  := by
  rw [HasRoot, HasRoot, rootName_eq_of_perm rearranged roots, definesKind_iff_of_perm rearranged]

end Roots

/-! ### Coherence -/

/-- Directives are applied well in any order of the applications. -/
theorem AppliedWell.of_perm {options : Options} {list other : List (String × Site)}
    (h : AppliedWell options ds list) (same : list.Perm other) :
  AppliedWell options es other
  where
  defined application member := by
    simp only [← (directiveNodes_perm rearranged).mem_iff]
    apply h.defined application (same.mem_iff.mpr member)
  once node member single := by
    rw [← (same.map Prod.fst).count_eq]
    apply h.once node ((directiveNodes_perm rearranged).mem_iff.mpr member) single

/-- Definitions that fit together do so in any order. -/
theorem Coherent.of_perm {options : Options} (h : Coherent options ds) :
  Coherent options es
  where
  types node member := by
    apply h.types
    apply ((typeNodes_perm rearranged).append (extensionNodes_perm rearranged)).mem_iff.mpr member
  directives node member := h.directives node ((directiveNodes_perm rearranged).mem_iff.mpr member)
  typeNames := ((typeNodes_perm rearranged).map _).nodup_iff.mp h.typeNames
  directiveNames := ((directiveNodes_perm rearranged).map _).nodup_iff.mp h.directiveNames
  roots operation := by
    rw [← (declaredRoots_perm rearranged operation).length_eq]
    apply h.roots
  extensions node member := by
    rw [← definesKind_iff_of_perm rearranged]
    apply h.extensions node ((extensionNodes_perm rearranged).mem_iff.mpr member)
  fields node member := by
    apply ((partsOf_perm rearranged node.name).flatMap_right _).nodup_iff.mp
    apply h.fields node ((typeNodes_perm rearranged).mem_iff.mpr member)
  inputFields node member := by
    apply ((partsOf_perm rearranged node.name).flatMap_right _).nodup_iff.mp
    apply h.inputFields node ((typeNodes_perm rearranged).mem_iff.mpr member)
  values node member := by
    apply ((partsOf_perm rearranged node.name).flatMap_right _).nodup_iff.mp
    apply h.values node ((typeNodes_perm rearranged).mem_iff.mpr member)
  mentions mention member := by
    simp only [← definesKind_iff_of_perm rearranged]
    apply h.mentions mention ((rearranged.flatMap_right _).mem_iff.mpr member)
  applications list member := by
    obtain ⟨other, other_member, same⟩ := exists_applications_perm rearranged member
    apply (h.applications other other_member).of_perm rearranged same
  query := (hasRoot_iff_of_perm rearranged h.roots .query).mp h.query
  rootKinds operation named := by
    rw [← hasRoot_iff_of_perm rearranged h.roots]
    apply h.rootKinds
    rw [declaredRoots_eq_of_perm rearranged h.roots]
    apply named
  distinctRoots operation other different has other_has := by
    simp only [← hasRoot_iff_of_perm rearranged h.roots] at has other_has
    simp only [← rootName_eq_of_perm rearranged h.roots]
    apply h.distinctRoots operation other different has other_has

/-- Definitions fit together in one order if and only if they do in another. -/
theorem coherent_iff_of_perm (options : Options) :
  Coherent options ds ↔ Coherent options es
  := ⟨Coherent.of_perm rearranged, Coherent.of_perm rearranged.symm⟩

end Perm

end LinkedSchema
