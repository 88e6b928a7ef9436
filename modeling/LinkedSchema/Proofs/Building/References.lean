import LinkedSchema.Proofs.Building.Nodes

/-!
# The references of definitions

The references of the definition that a node makes are those of its declarations, each exactly
once (`TypeNode.references_define`, `DirectiveNode.references_define`).  Hence each of them is
declared in the registry that building leaves (`TypeNode.declares_of_mem_define`).
-/

namespace LinkedSchema

open Document (InputNode FieldNode TypeNode DirectiveNode)

/-- Whether a registry has the declaration of a reference in the place that its symbol says. -/
def Registry.Declares (registry : Registry) (r : Reference) : Prop :=
  registry.declared[r.symbol]? = some ⟨r.name, r.location⟩

/-- A registry with more declarations still declares what it did. -/
theorem Registry.Declares.mono {registry later : Registry} {r : Reference}
    (h : registry.Declares r) (grows : registry.declared <+: later.declared) :
  later.Declares r
  := by
  obtain ⟨more, same⟩ := grows
  rw [Declares, ← same]
  apply List.getElem?_append_left _ |>.trans h
  apply (List.getElem?_eq_some_iff.mp h).1

/-- Declarations made at the end of a registry declare their references. -/
theorem Registry.declares_of_mem_references {registry : Registry} {ds : List Declaration}
    {r : Reference} (h : r ∈ Declaration.references registry.size ds) :
  Declares ⟨registry.declared ++ ds⟩ r
  := by
  obtain ⟨past, found⟩ := Declaration.getElem?_of_mem_references h
  apply (List.getElem?_append_right past).trans found

/-- If what is made for a node has the references of its declarations, so has what is made for
several nodes. -/
theorem references_numbered {ν δ : Type} {make : Nat → ν → δ} {f : δ → List Reference}
    {declarations : ν → List Declaration}
    (h : ∀ n node, (f (make n node)).Perm (Declaration.references n (declarations node)))
    (n : Nat) (nodes : List ν) :
  ((numbered (fun node => (declarations node).length) make n nodes).flatMap f).Perm
    (Declaration.references n (nodes.flatMap declarations))
  := by
  induction nodes generalizing n with
  | nil => apply List.Perm.refl
  | cons node rest ih =>
    rw [numbered, List.flatMap_cons, List.flatMap_cons, Declaration.references_append]
    apply (h n node).append (ih _)

namespace Document

theorem InputNode.references_defineAll (site : Site) (ancestry : Path) (parent : Location)
    (n : Nat) (nodes : List InputNode) :
  ((InputNode.defineAll site ancestry parent n nodes).values.map fun input =>
      input.type.innermost).Perm
    (Declaration.references n (InputNode.allDeclarations parent nodes))
  := by
  rw [OrderedMap.values, List.map_map, List.map_eq_flatMap]
  apply references_numbered
    (f := fun entry : String × InputDefinition => [entry.2.type.innermost])
  intro n node
  rw [InputNode.define, TypeExpr.innermost_map]
  apply List.Perm.refl

/-- The definition of a field has the references of its declarations. -/
theorem FieldNode.references_define (owner : Path) (location : Location) (n : Nat)
    (node : FieldNode) :
  (node.define owner location n).references.Perm
    (Declaration.references n (node.declarations location))
  := by
  have arguments := InputNode.references_defineAll .argumentDefinition
    (owner ++ [.field node.name]) location n node.arguments
  rw [FieldNode.declarations, Declaration.references_append]
  -- The type of a field is declared after its arguments, and mentioned before them.
  apply List.Perm.trans _ (arguments.append_right _)
  rw [FieldDefinition.references, FieldNode.define, TypeExpr.innermost_map]
  apply (List.perm_append_singleton _ _).symm

theorem FieldNode.references_defineAll (owner : Path) (parent : Location) (n : Nat)
    (nodes : List FieldNode) :
  ((FieldNode.defineAll owner parent n nodes).values.flatMap FieldDefinition.references).Perm
    (Declaration.references n (FieldNode.allDeclarations parent nodes))
  := by
  rw [OrderedMap.values, List.flatMap_map]
  apply references_numbered
    (f := fun entry : String × FieldDefinition => entry.2.references)
  intro n node
  apply FieldNode.references_define

/-- The definition of a type has the references of its declarations. -/
theorem TypeNode.references_define (file : Option String) (node : TypeNode) (n : Nat) :
  (node.define file n).references.Perm (Declaration.references n (node.declarations file))
  := by
  simp only [TypeNode.declarations, Declaration.references_append, TypeDefinition.references,
    TypeNode.define, List.append_assoc]
  apply List.Perm.append (List.Perm.refl _)
  apply List.Perm.append (List.Perm.refl _)
  apply List.Perm.append
  · apply FieldNode.references_defineAll
  · apply InputNode.references_defineAll

/-- The definition of a directive has the references of its declarations. -/
theorem DirectiveNode.references_define (file : Option String) (node : DirectiveNode) (n : Nat) :
  (node.define file n).references.Perm (Declaration.references n (node.declarations file))
  := by
  apply InputNode.references_defineAll

/-- Every reference of a type that is built is declared. -/
theorem TypeNode.declares_of_mem_define {file : Option String} {node : TypeNode}
    {registry : Registry} {r : Reference} (h : r ∈ (node.define file registry.size).references) :
  Registry.Declares ⟨registry.declared ++ node.declarations file⟩ r
  := by
  apply Registry.declares_of_mem_references
  apply (TypeNode.references_define file node registry.size).mem_iff.mp h

/-- Every reference of a directive that is built is declared. -/
theorem DirectiveNode.declares_of_mem_define {file : Option String} {node : DirectiveNode}
    {registry : Registry} {r : Reference} (h : r ∈ (node.define file registry.size).references) :
  Registry.Declares ⟨registry.declared ++ node.declarations file⟩ r
  := by
  apply Registry.declares_of_mem_references
  apply (DirectiveNode.references_define file node registry.size).mem_iff.mp h

end Document

end LinkedSchema
