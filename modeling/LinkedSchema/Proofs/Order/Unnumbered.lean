import LinkedSchema.Proofs.Loading.Gathering

/-!
# Definitions without numbers

The symbols of references number them in the order of declaration, which is the order in which
definitions are visited.  Without its symbols, what a node makes depends on the node and its file
alone (`TypeNode.unnumbered_define`, `DirectiveNode.unnumbered_define`), so that what visits build,
without symbols, can be read off the definitions that are visited
(`Loader.Gathers.map_unnumbered_bases`).
-/

namespace LinkedSchema

open Document (Definition InputNode FieldNode EnumValueNode TypeNode DirectiveNode)

/-- The map with a function applied to all values. -/
def OrderedMap.mapValues {κ ν μ : Type} (f : ν → μ) (m : OrderedMap κ ν) : OrderedMap κ μ :=
  ⟨m.entries.map fun entry => (entry.1, f entry.2)⟩

/-! ### Leaving out symbols -/

/-- A reference without its symbol. -/
def Reference.unnumbered (r : Reference) : Reference := { r with symbol := 0 }

/-- An argument or input field whose reference has no symbol. -/
def InputDefinition.unnumbered (input : InputDefinition) : InputDefinition :=
  { input with type := input.type.map Reference.unnumbered }

/-- A field whose references have no symbols. -/
def FieldDefinition.unnumbered (field : FieldDefinition) : FieldDefinition :=
  { field with
    type := field.type.map Reference.unnumbered
    arguments := field.arguments.mapValues InputDefinition.unnumbered }

/-- A type whose references have no symbols. -/
def TypeDefinition.unnumbered (type : TypeDefinition) : TypeDefinition :=
  { type with
    interfaces := type.interfaces.map Reference.unnumbered
    members := type.members.map Reference.unnumbered
    fields := type.fields.mapValues FieldDefinition.unnumbered
    inputFields := type.inputFields.mapValues InputDefinition.unnumbered }

/-- A directive whose references have no symbols. -/
def DirectiveDefinition.unnumbered (directive : DirectiveDefinition) : DirectiveDefinition :=
  { directive with arguments := directive.arguments.mapValues InputDefinition.unnumbered }

/-! ### What nodes make -/

theorem TypeExpr.map_map {ρ σ τ : Type} (f : ρ → σ) (g : σ → τ) (t : TypeExpr ρ) :
  (t.map f).map g = t.map (g ∘ f)
  := by
  induction t with
  | named ref => rfl
  | list inner ih => rw [map, map, map, ih]
  | nonNull inner ih => rw [map, map, map, ih]

/-- Without symbols, the references of declarations do not depend on where they begin. -/
theorem Declaration.map_unnumbered_references (m n : Nat) (ds : List Declaration) :
  (references m ds).map Reference.unnumbered = (references n ds).map Reference.unnumbered
  := by
  have named (start : Nat) : (references start ds).map Reference.unnumbered
      = ds.map fun d => ⟨d.name, d.location, 0⟩ := by
    apply map_numbered
    intro n d
    rfl
  rw [named, named]

/-- Without symbols, a table of what nodes make does not depend on where it begins, if what a node
makes does not. -/
theorem mapValues_numbered {ν δ μ : Type} (width : ν → Nat) (name : ν → String)
    {make : Nat → ν → δ} {f : δ → μ} (h : ∀ m n node, f (make m node) = f (make n node))
    (m n : Nat) (nodes : List ν) :
  OrderedMap.mapValues f ⟨numbered width (fun n node => (name node, make n node)) m nodes⟩
    = OrderedMap.mapValues f ⟨numbered width (fun n node => (name node, make n node)) n nodes⟩
  := by
  have named (start : Nat) : (numbered width (fun n node => (name node, make n node)) start
      nodes).map (fun entry => (entry.1, f entry.2))
        = nodes.map fun node => (name node, f (make 0 node)) := by
    apply map_numbered
    intro n node
    rw [h n 0]
  rw [OrderedMap.mapValues, OrderedMap.mapValues, named, named]

namespace Document

theorem InputNode.unnumbered_define (site : Site) (ancestry : Path) (location : Location)
    (m n : Nat) (node : InputNode) :
  (node.define site ancestry location m).unnumbered
    = (node.define site ancestry location n).unnumbered
  := by
  simp only [InputDefinition.unnumbered, define, TypeExpr.map_map]
  rfl

theorem InputNode.unnumbered_defineAll (site : Site) (ancestry : Path) (parent : Location)
    (m n : Nat) (nodes : List InputNode) :
  (defineAll site ancestry parent m nodes).mapValues InputDefinition.unnumbered
    = (defineAll site ancestry parent n nodes).mapValues InputDefinition.unnumbered
  := by
  apply mapValues_numbered
  intro m n node
  apply unnumbered_define

theorem FieldNode.unnumbered_define (owner : Path) (location : Location) (m n : Nat)
    (node : FieldNode) :
  (node.define owner location m).unnumbered = (node.define owner location n).unnumbered
  := by
  simp only [FieldDefinition.unnumbered, define, TypeExpr.map_map]
  rw [InputNode.unnumbered_defineAll _ _ _ m n]
  rfl

theorem FieldNode.unnumbered_defineAll (owner : Path) (parent : Location) (m n : Nat)
    (nodes : List FieldNode) :
  (defineAll owner parent m nodes).mapValues FieldDefinition.unnumbered
    = (defineAll owner parent n nodes).mapValues FieldDefinition.unnumbered
  := by
  apply mapValues_numbered
  intro m n node
  apply unnumbered_define

/-- Without symbols, the type or the extension that a node makes does not depend on where the
symbols begin. -/
theorem TypeNode.unnumbered_define (file : Option String) (node : TypeNode) (m n : Nat) :
  (node.define file m).unnumbered = (node.define file n).unnumbered
  := by
  simp only [TypeDefinition.unnumbered, define]
  congr 1
  · apply Declaration.map_unnumbered_references
  · apply Declaration.map_unnumbered_references
  · apply FieldNode.unnumbered_defineAll
  · apply InputNode.unnumbered_defineAll

/-- Without symbols, the directive that a node makes does not depend on where the symbols begin. -/
theorem DirectiveNode.unnumbered_define (file : Option String) (node : DirectiveNode) (m n : Nat) :
  (node.define file m).unnumbered = (node.define file n).unnumbered
  := by
  simp only [DirectiveDefinition.unnumbered, define]
  rw [InputNode.unnumbered_defineAll _ _ _ m n]

end Document

/-! ### What visits build -/

namespace Loader

/-- Definitions of a sort, each with the name of its file. -/
def placed {α : Type} (sort : Definition → Option α) (ds : List (String × Definition)) :
    List (String × α) :=
  ds.filterMap fun d => (sort d.2).map fun node => (d.1, node)

/-- The definitions of a sort that are visited are those that are there. -/
theorem map_visits {α : Type} (sort : Definition → Option α) (l : Loader)
    (ds : List (String × Definition)) :
  ((l.visits ds).filterMap (Visit.of? sort)).map (fun v => (v.file, v.node)) = placed sort ds
  := by
  induction ds generalizing l with
  | nil => rfl
  | cons d rest ih =>
    rw [visits, placed, List.filterMap_cons, List.filterMap_cons, ← placed, ← ih (l.visit d.1 d.2)]
    rw [Visit.of?]
    cases sort d.2 <;> rfl

/-- The nodes of a sort that are visited are those that are there. -/
theorem map_node_visits {α : Type} (sort : Definition → Option α) (l : Loader)
    (ds : List (String × Definition)) :
  ((l.visits ds).filterMap (Visit.of? sort)).map Visit.node = (ds.map Prod.snd).filterMap sort
  := by
  have nodes := congrArg (List.map Prod.snd) (map_visits sort l ds)
  rw [List.map_map] at nodes
  apply nodes.trans
  rw [placed, List.map_filterMap, List.filterMap_map]
  congr 1
  funext d
  simp [Function.comp_def]

/-- Without symbols, what visits of types or extensions build can be read off what is visited. -/
theorem map_unnumbered_of_builds {visits : List (Visit TypeNode)} {types : List TypeDefinition}
    (built : List.Forall₂ Visit.Builds visits types) :
  types.map TypeDefinition.unnumbered
    = (visits.map fun v => (v.file, v.node)).map fun d => (d.2.define (some d.1) 0).unnumbered
  := by
  rw [List.map_map]
  symm
  apply built.map_eq
  intro v type builds
  rw [builds.eq_define.2]
  apply TypeNode.unnumbered_define

section Gathers

variable {l : Loader} {ds : List (String × Definition)} {bases extensions : List TypeDefinition}
  {directives : List DirectiveDefinition} (gathers : l.Gathers ds bases extensions directives)

include gathers

/-- Without symbols, the types that are built can be read off the definitions. -/
theorem Gathers.map_unnumbered_bases :
  bases.map TypeDefinition.unnumbered
    = (placed Definition.type? ds).map fun d => (d.2.define (some d.1) 0).unnumbered
  := by
  rw [map_unnumbered_of_builds gathers.bases, typeVisits, map_visits]

/-- Without symbols, the extensions that are built can be read off the definitions. -/
theorem Gathers.map_unnumbered_extensions :
  extensions.map TypeDefinition.unnumbered
    = (placed Definition.extension? ds).map fun d => (d.2.define (some d.1) 0).unnumbered
  := by
  rw [map_unnumbered_of_builds gathers.extensions, extensionVisits, map_visits]

/-- Without symbols, the directives that are built can be read off the definitions. -/
theorem Gathers.map_unnumbered_directives :
  directives.map DirectiveDefinition.unnumbered
    = (placed Definition.directive? ds).map fun d => (d.2.define (some d.1) 0).unnumbered
  := by
  rw [← map_visits _ l, List.map_map]
  symm
  apply gathers.directives.map_eq
  intro v directive built
  rw [built.eq_define]
  apply DirectiveNode.unnumbered_define

end Gathers

end Loader

end LinkedSchema
