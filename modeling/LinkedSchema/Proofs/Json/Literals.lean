import LinkedSchema.Proofs.Document.Literals
import LinkedSchema.Proofs.Json.Forms
import LinkedSchema.Proofs.Linking.WellFormed

/-!
# Literals of types

What holds of all literals of a node holds of all literals of what is built from it
(`Document.TypeNode.AllLiterals.satisfies`), and what holds of all literals of a type and of an
extension holds of those of the extended type (`TypeDefinition.satisfies_extendWith`).
-/

namespace LinkedSchema

open Document (AppliedDirective InputNode FieldNode EnumValueNode TypeNode)

/-- Whether something is so of a leaf if it is a literal. -/
def Leaf.Satisfies (P : Value → Prop) : Leaf → Prop
  | literal value => P value
  | number _ => True

variable {P : Value → Prop}

/-! ### What nodes make -/

theorem Location.satisfies (location : Location) :
  ∀ leaf ∈ location.leaves, leaf.Satisfies P
  := by
  cases location with
  | builtIn => nofun
  | source file position => simp [leaves, Leaf.Satisfies]

theorem Reference.satisfies (r : Reference) :
  ∀ leaf ∈ r.leaves, leaf.Satisfies P
  := List.forall_mem_cons.mpr ⟨trivial, r.location.satisfies⟩

theorem Reference.satisfies_flatMap (references : List Reference) :
  ∀ leaf ∈ references.flatMap leaves, leaf.Satisfies P
  := List.forall_mem_flatMap.mpr fun r _ => r.satisfies

/-- An annotation keeps some of the arguments that its directive is given. -/
theorem Annotation.satisfies_ofDirectives {directives : List AppliedDirective}
    (all : ∀ d ∈ directives, d.AllLiterals P) (owner : Location) (site : Site) (ancestry : Path) :
  ∀ leaf ∈ (ofDirectives owner site ancestry directives).flatMap leaves, leaf.Satisfies P
  := by
  simp only [List.forall_mem_flatMap]
  intro a member
  obtain ⟨d, kept, rfl⟩ := List.mem_map.mp member
  simp only [leaves, List.forall_mem_append, OrderedMap.values, List.forall_mem_map]
  refine ⟨?_, Location.satisfies _⟩
  intro entry held
  apply all d (List.mem_of_mem_filter kept)
  exact (OrderedMap.mem_insertAll held).resolve_left List.not_mem_nil

/-- What is so of all literals of what is made for each of some nodes is so of those in the table
of it. -/
theorem satisfies_numbered {ν δ : Type} {width : ν → Nat} {name : ν → String}
    {make : Nat → ν → δ} {leaves : δ → List Leaf} {nodes : List ν}
    (all : ∀ node ∈ nodes, ∀ n, ∀ leaf ∈ leaves (make n node), leaf.Satisfies P) (start : Nat) :
  ∀ leaf ∈ (OrderedMap.mk (numbered width (fun n node => (name node, make n node)) start
      nodes)).values.flatMap leaves,
    leaf.Satisfies P
  := by
  simp only [List.forall_mem_flatMap, OrderedMap.values, List.forall_mem_map]
  intro entry member
  obtain ⟨node, node_member, n, rfl⟩ := exists_of_mem_numbered member
  apply all node node_member

namespace Document

theorem InputNode.AllLiterals.satisfies {node : InputNode} (h : node.AllLiterals P) (site : Site)
    (ancestry : Path) (location : Location) (n : Nat) :
  ∀ leaf ∈ (node.define site ancestry location n).leaves, leaf.Satisfies P
  := by
  simp only [InputDefinition.leaves, List.forall_mem_append, List.forall_mem_map,
    Option.mem_toList]
  and_intros
  · apply h.defaultValue
  · apply Reference.satisfies
  · apply Annotation.satisfies_ofDirectives h.directives
  · apply Location.satisfies

theorem FieldNode.AllLiterals.satisfies {node : FieldNode} (h : node.AllLiterals P) (owner : Path)
    (location : Location) (n : Nat) :
  ∀ leaf ∈ (node.define owner location n).leaves, leaf.Satisfies P
  := by
  simp only [FieldDefinition.leaves, List.forall_mem_append]
  and_intros
  · apply satisfies_numbered
    intro argument member n
    apply (h.arguments argument member).satisfies
  · apply Reference.satisfies
  · apply Annotation.satisfies_ofDirectives h.directives
  · apply Location.satisfies

theorem EnumValueNode.AllLiterals.satisfies {node : EnumValueNode} (h : node.AllLiterals P)
    (owner : Path) (location : Location) :
  ∀ leaf ∈ (node.define owner location).leaves, leaf.Satisfies P
  := by
  simp only [EnumValueDefinition.leaves, List.forall_mem_append]
  and_intros
  · apply Annotation.satisfies_ofDirectives h
  · apply Location.satisfies

/-- What is so of all literals of a node is so of those of what it makes. -/
theorem TypeNode.AllLiterals.satisfies {node : TypeNode} (h : node.AllLiterals P)
    (file : Option String) (n : Nat) :
  ∀ leaf ∈ (node.define file n).leaves, leaf.Satisfies P
  := by
  simp only [TypeDefinition.leaves, List.forall_mem_append]
  and_intros
  · apply satisfies_numbered
    intro field member n
    apply (h.body.fields field member).satisfies
  · apply satisfies_numbered
    intro field member n
    apply (h.body.inputFields field member).satisfies
  · rw [define, EnumValueNode.defineAll, ← Drafting.numbered_eq_map (fun _ => 0) _ 0]
    apply satisfies_numbered
    intro value member n
    apply (h.body.values value member).satisfies
  · apply Reference.satisfies_flatMap
  · apply Reference.satisfies_flatMap
  · apply Annotation.satisfies_ofDirectives h.directives
  · apply Location.satisfies

end Document

/-! ### Extended types -/

namespace TypeDefinition

theorem satisfies_insertAll {α : Type} {leaves : α → List Leaf} {m added : OrderedMap String α}
    (own : ∀ leaf ∈ m.values.flatMap leaves, leaf.Satisfies P)
    (more : ∀ leaf ∈ added.values.flatMap leaves, leaf.Satisfies P) :
  ∀ leaf ∈ (m.insertAll added.entries).values.flatMap leaves, leaf.Satisfies P
  := by
  simp only [List.forall_mem_flatMap] at own more ⊢
  intro a member
  rcases mem_values_insertAll member with before | new
  · apply own a before
  · apply more a new

/-- What is so of all literals of a type and of its extension is so of those of the extended
type. -/
theorem satisfies_extendWith {base extension : TypeDefinition}
    (own : ∀ leaf ∈ base.leaves, leaf.Satisfies P)
    (more : ∀ leaf ∈ extension.leaves, leaf.Satisfies P) :
  ∀ leaf ∈ (base.extendWith extension).leaves, leaf.Satisfies P
  := by
  simp only [leaves, List.forall_mem_append] at own more ⊢
  obtain ⟨⟨⟨⟨⟨⟨fields, inputFields⟩, values⟩, -⟩, -⟩, directives⟩, location⟩ := own
  obtain ⟨⟨⟨⟨⟨⟨more_fields, more_inputFields⟩, more_values⟩, -⟩, -⟩, more_directives⟩, -⟩ := more
  and_intros
  · apply satisfies_insertAll fields more_fields
  · apply satisfies_insertAll inputFields more_inputFields
  · apply satisfies_insertAll values more_values
  · apply Reference.satisfies_flatMap
  · apply Reference.satisfies_flatMap
  · rw [extendWith, List.flatMap_append]
    exact List.forall_mem_append.mpr ⟨directives, more_directives⟩
  · apply location

end TypeDefinition

end LinkedSchema
