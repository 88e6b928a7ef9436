import LinkedSchema.Proofs.Building.References
import Mathlib.Data.List.Nodup
import Mathlib.Data.List.Perm.Subperm

/-!
# Symbols

Building a node numbers the references of what it makes: their symbols are the numbers of the
declarations that it adds to the registry, each of them once, and the declaration of each reference
stands in the place that its symbol says (`Registry.Numbers`).  So it is whatever the order in which
references are declared and listed, and however many wrappers stand around them
(`TypeNode.numbers_build`).  A registry tells references apart if they are declared under distinct
symbols (`Registry.Distinguishes`); it still does so when some of them are dropped and when numbered
ones are added.
-/

namespace LinkedSchema

open Document (TypeNode)

/-- The symbols of the references of declarations are their numbers. -/
theorem Declaration.map_symbol_references (start : Nat) (ds : List Declaration) :
  (references start ds).map Reference.symbol = List.range' start ds.length
  := by
  induction ds generalizing start with
  | nil => rfl
  | cons d rest ih => rw [references_cons, List.map_cons, ih, List.length_cons, List.range'_succ]

namespace Registry

variable {registry later : Registry} {references others : List Reference}

/-- A reference that is declared has the number of a declaration for a symbol. -/
theorem Declares.symbol_lt {r : Reference} (h : registry.Declares r) :
  r.symbol < registry.size
  := (List.getElem?_eq_some_iff.mp h).1

/-! ### Numbered references -/

/-- Whether references are those of the declarations by which a later registry is longer: their
symbols are the numbers of these declarations, each once, and each of them is declared. -/
structure Numbers (registry later : Registry) (references : List Reference) : Prop where
  bounded : registry.size ≤ later.size
  symbols : (references.map Reference.symbol).Perm
    (List.range' registry.size (later.size - registry.size))
  declared : ∀ r ∈ references, later.Declares r

/-- Declarations made at the end of a registry number their references, in whatever order these
are listed. -/
theorem numbers_of_perm {ds : List Declaration}
    (same : references.Perm (Declaration.references registry.size ds)) :
  registry.Numbers ⟨registry.declared ++ ds⟩ references
  where
  bounded := by
    rw [size, size, List.length_append]
    apply Nat.le_add_right
  symbols := by
    have added : size ⟨registry.declared ++ ds⟩ - registry.size = ds.length := by
      rw [size, size, List.length_append, Nat.add_sub_cancel_left]
    rw [added, ← Declaration.map_symbol_references]
    apply same.map
  declared r member := by
    apply declares_of_mem_references
    apply same.mem_iff.mp member

/-- The symbols of numbered references are not those of earlier declarations. -/
theorem Numbers.size_le_symbol (h : registry.Numbers later references) {r : Reference}
    (member : r ∈ references) :
  registry.size ≤ r.symbol
  := (List.mem_range'_1.mp (h.symbols.mem_iff.mp (List.mem_map_of_mem member))).1

/-! ### References told apart -/

/-- Whether references are declared, no two of them under the same symbol. -/
structure Distinguishes (registry : Registry) (references : List Reference) : Prop where
  distinct : (references.map Reference.symbol).Nodup
  declared : ∀ r ∈ references, registry.Declares r

/-- Fewer references are told apart by a registry with more declarations. -/
theorem Distinguishes.mono (h : registry.Distinguishes references)
    (fewer : others.Subperm references) (grows : registry.declared <+: later.declared) :
  later.Distinguishes others
  where
  distinct := by
    obtain ⟨same, perm, sublist⟩ := fewer
    apply (perm.map _).nodup_iff.mp
    apply h.distinct.sublist (sublist.map _)
  declared r member := (h.declared r (fewer.subset member)).mono grows

/-- References that are told apart still are with numbered ones added. -/
theorem Distinguishes.append (h : registry.Distinguishes references)
    (grows : registry.declared <+: later.declared) (numbered : registry.Numbers later others) :
  later.Distinguishes (references ++ others)
  where
  distinct := by
    rw [List.map_append, List.nodup_append']
    use h.distinct, numbered.symbols.nodup_iff.mpr List.nodup_range'
    -- The symbols of the first ones are numbers of earlier declarations.
    apply List.disjoint_left.mpr
    intro symbol old new
    obtain ⟨r, member, rfl⟩ := List.mem_map.mp old
    obtain ⟨s, added, same⟩ := List.mem_map.mp new
    have early := (h.declared r member).symbol_lt
    have late := numbered.size_le_symbol added
    omega
  declared r member := by
    rcases List.mem_append.mp member with old | new
    · apply (h.declared r old).mono grows
    · apply numbered.declared r new

end Registry

/-! ### Building nodes -/

/-- A step that is run to completion keeps the declarations before it.  It numbers the references of
what it gives if these are those of what it declares. -/
theorem Drafting.Makes.numbers_complete {α : Type} {step : Drafting α} {sound : Prop}
    {value : Nat → α} {declared : List Declaration} (h : Makes step sound value declared)
    {f : α → List Reference}
    (same : ∀ n, (f (value n)).Perm (Declaration.references n declared)) (registry : Registry) :
  registry.declared <+: (step.complete registry).2.declared
    ∧ ∀ made, (step.complete registry).1 = .ok made →
      registry.Numbers (step.complete registry).2 (f made)
  := by
  by_cases holds : sound
  · rw [h.complete_of_sound holds]
    constructor
    · apply List.prefix_append
    · rintro made ⟨⟩
      apply Registry.numbers_of_perm
      apply same
  · obtain ⟨faults, later, completed, -, grows⟩ := h.complete_of_not_sound holds registry
    rw [completed]
    exact ⟨grows, nofun⟩

namespace Document

/-- Building a type or an extension keeps the declarations before it, and numbers the references of
what it makes. -/
theorem TypeNode.numbers_build (file : Option String) (node : TypeNode) (registry : Registry) :
  registry.declared <+: (node.build file registry).2.declared
    ∧ ∀ type, (node.build file registry).1 = .ok type →
      registry.Numbers (node.build file registry).2 type.references
  := (Drafting.typeDefinition_makes file node).numbers_complete (references_define file node)
    registry

end Document

end LinkedSchema
