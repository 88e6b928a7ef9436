import LinkedSchema.Proofs.Loading.Gathering

/-!
# Well-formed definitions

A definition is well formed (`TypeDefinition.WellFormed`, `DirectiveDefinition.WellFormed`) if at
every level its members stand under their own names, none of which is reserved or stands twice, it
has no members but those of its kind, and every annotation says where it stands.  The built-in
definitions are well formed, and so is what sound nodes make.  Hence everything that a reachable
loader has taken up is well formed (`Loader.Reachable.wellFormed_loader`).
-/

namespace LinkedSchema

open Document (AppliedDirective Definition InputNode FieldNode EnumValueNode TypeNode DirectiveNode)

/-! ### Well-formed definitions -/

/-- Whether a name does not start with the two underscores that are reserved for introspection. -/
def Unreserved (name : String) : Prop := ¬ ['_', '_'] <+: name.toList

/-- Whether an annotation is no binding, and stands at a site within the definitions of a path. -/
structure Annotation.WellFormed (site : Site) (ancestry : Path) (a : Annotation) : Prop where
  name : a.name ≠ bindName
  site : a.site = site
  ancestry : a.ancestry = ancestry

/-- Whether an argument or an input field within the definitions of a path is well formed. -/
structure InputDefinition.WellFormed (site : Site) (ancestry : Path) (input : InputDefinition) :
    Prop where
  name : Unreserved input.name
  directives : ∀ a ∈ input.directives, a.WellFormed site ancestry

/-- Whether a field of the type at a path is well formed. -/
structure FieldDefinition.WellFormed (ancestry : Path) (field : FieldDefinition) : Prop where
  name : Unreserved field.name
  directives : ∀ a ∈ field.directives, a.WellFormed .fieldDefinition ancestry
  arguments : field.arguments.Registers InputDefinition.name
    (InputDefinition.WellFormed .argumentDefinition (ancestry ++ [.field field.name]))

/-- Whether a value of the enum type at a path is well formed. -/
structure EnumValueDefinition.WellFormed (ancestry : Path) (value : EnumValueDefinition) :
    Prop where
  name : Unreserved value.name
  directives : ∀ a ∈ value.directives, a.WellFormed .enumValue ancestry

namespace TypeDefinition

/-- The path of a type. -/
def path (type : TypeDefinition) : Path := [.type type.kind type.name]

/-- Whether a type has no members but those that belong to its kind. -/
structure Shaped (type : TypeDefinition) : Prop where
  interfaces : type.interfaces ≠ [] → type.kind = .object ∨ type.kind = .interface
  members : type.members ≠ [] → type.kind = .union
  fields : type.fields.entries ≠ [] → type.kind = .object ∨ type.kind = .interface
  inputFields : type.inputFields.entries ≠ [] → type.kind = .inputObject
  enumValues : type.enumValues.entries ≠ [] → type.kind = .enum

/-- Whether a type or an extension is well formed. -/
structure WellFormed (type : TypeDefinition) : Prop where
  name : Unreserved type.name
  directives : ∀ a ∈ type.directives, a.WellFormed type.kind.site []
  mentions : type.MentionsOnce
  fields : type.fields.Registers FieldDefinition.name (FieldDefinition.WellFormed type.path)
  inputFields : type.inputFields.Registers InputDefinition.name
    (InputDefinition.WellFormed .inputFieldDefinition type.path)
  enumValues : type.enumValues.Registers EnumValueDefinition.name
    (EnumValueDefinition.WellFormed type.path)
  shaped : type.Shaped

end TypeDefinition

/-- Whether a directive is well formed. -/
structure DirectiveDefinition.WellFormed (directive : DirectiveDefinition) : Prop where
  name : Unreserved directive.name
  arguments : directive.arguments.Registers InputDefinition.name
    (InputDefinition.WellFormed .argumentDefinition [.directive directive.name])

/-- Whether everything that a loader has taken up is well formed. -/
structure Loader.WellFormed (l : Loader) : Prop where
  types : l.types.Registers TypeDefinition.name TypeDefinition.WellFormed
  extensions : ∀ extension ∈ l.extensions, extension.WellFormed
  directives : l.directives.Registers DirectiveDefinition.name DirectiveDefinition.WellFormed

/-! ### What sound nodes make -/

theorem isReserved_eq_false_iff (name : String) :
  Drafting.isReserved name = false ↔ Unreserved name
  := by
  rw [Drafting.isReserved, decide_eq_false_iff_not, Unreserved, List.prefix_iff_eq_take, eq_comm]
  rfl

/-- The annotations that applied directives make say where they are made. -/
theorem Annotation.wellFormed_of_mem_ofDirectives {owner : Location} {site : Site}
    {ancestry : Path} {directives : List AppliedDirective} :
  ∀ a ∈ ofDirectives owner site ancestry directives, a.WellFormed site ancestry
  := by
  intro a member
  obtain ⟨d, kept, rfl⟩ := List.mem_map.mp member
  have unbound : d.name ≠ bindName := by simpa using (List.mem_filter.mp kept).2
  exact ⟨unbound, rfl, rfl⟩

/-- What is made for nodes is made for one of them. -/
theorem exists_of_mem_numbered {ν δ : Type} {width : ν → Nat} {make : Nat → ν → δ} {start : Nat}
    {nodes : List ν} {made : δ} (member : made ∈ numbered width make start nodes) :
  ∃ node ∈ nodes, ∃ n, made = make n node
  := by
  apply List.Forall₂.exists_right _ member
  apply forall₂_numbered
  intro n node
  exact ⟨n, rfl⟩

/-- The table of what is made for nodes with distinct names registers it. -/
theorem registers_numbered {ν δ : Type} {width : ν → Nat} {name : ν → String}
    {make : Nat → ν → δ} {nameOf : δ → String} {p : δ → Prop} {nodes : List ν}
    (distinct : (nodes.map name).Nodup) (named : ∀ n node, nameOf (make n node) = name node)
    (all : ∀ n, ∀ node ∈ nodes, p (make n node)) (start : Nat) :
  (OrderedMap.mk (numbered width (fun n node => (name node, make n node)) start nodes)).Registers
    nameOf p
  where
  distinct := by
    rw [keys_numbered]
    apply distinct
  named entry member := by
    obtain ⟨node, -, n, rfl⟩ := exists_of_mem_numbered member
    exact (named n node).symm
  all entry member := by
    obtain ⟨node, node_member, n, rfl⟩ := exists_of_mem_numbered member
    apply all n node node_member

namespace Document

theorem InputNode.Sound.wellFormed_define {node : InputNode} (sound : node.Sound) (site : Site)
    (ancestry : Path) (location : Location) (n : Nat) :
  (node.define site ancestry location n).WellFormed site ancestry
  where
  name := (isReserved_eq_false_iff node.name).mp sound.1
  directives := Annotation.wellFormed_of_mem_ofDirectives

theorem InputNode.AllSound.registers_defineAll {nodes : List InputNode}
    (sound : InputNode.AllSound nodes) (site : Site) (ancestry : Path) (parent : Location)
    (n : Nat) :
  (defineAll site ancestry parent n nodes).Registers InputDefinition.name
    (InputDefinition.WellFormed site ancestry)
  := by
  apply registers_numbered sound.2
  · intro n node
    rfl
  · intro n node member
    apply (sound.1 node member).wellFormed_define

theorem FieldNode.Sound.wellFormed_define {node : FieldNode} (sound : node.Sound)
    (owner : Path) (location : Location) (n : Nat) :
  (node.define owner location n).WellFormed owner
  where
  name := (isReserved_eq_false_iff node.name).mp sound.1
  directives := Annotation.wellFormed_of_mem_ofDirectives
  arguments := sound.2.1.registers_defineAll _ _ _ _

theorem EnumValueNode.Sound.wellFormed_define {node : EnumValueNode} (sound : node.Sound)
    (owner : Path) (location : Location) :
  (node.define owner location).WellFormed owner
  where
  name := (isReserved_eq_false_iff node.name).mp sound
  directives := Annotation.wellFormed_of_mem_ofDirectives

/-- A node has no members but those of its kind, and neither has what it makes. -/
theorem TypeNode.shaped_define (file : Option String) (node : TypeNode) (n : Nat) :
  (node.define file n).Shaped
  := by
  obtain ⟨position, description, name, directives, body⟩ := node
  cases body with
  | enum values => exact ⟨nofun, nofun, nofun, nofun, fun _ => rfl⟩
  | inputObject fields => exact ⟨nofun, nofun, nofun, fun _ => rfl, nofun⟩
  | interface interfaces fields =>
    exact ⟨fun _ => .inr rfl, nofun, fun _ => .inr rfl, nofun, nofun⟩
  | object interfaces fields =>
    exact ⟨fun _ => .inl rfl, nofun, fun _ => .inl rfl, nofun, nofun⟩
  | scalar => exact ⟨nofun, nofun, nofun, nofun, nofun⟩
  | union members => exact ⟨nofun, fun _ => rfl, nofun, nofun, nofun⟩

/-- What a sound node of a type makes is well formed. -/
theorem TypeNode.Sound.wellFormed_define {node : TypeNode} (sound : node.Sound)
    (file : Option String) (n : Nat) :
  (node.define file n).WellFormed
  where
  name := (isReserved_eq_false_iff node.name).mp sound.name
  directives := Annotation.wellFormed_of_mem_ofDirectives
  mentions := sound.mentionsOnce_define file n
  fields := by
    apply registers_numbered sound.fields.2
    · intro n field
      rfl
    · intro n field member
      apply (sound.fields.1 field member).wellFormed_define
  inputFields := sound.inputFields.registers_defineAll _ _ _ _
  enumValues := by
    rw [define, EnumValueNode.defineAll, ← Drafting.numbered_eq_map (fun _ => 0) _ 0]
    apply registers_numbered sound.values.2
    · intro n value
      rfl
    · intro n value member
      apply (sound.values.1 value member).wellFormed_define
  shaped := shaped_define file node n

/-- What a sound node of a directive makes is well formed. -/
theorem DirectiveNode.Sound.wellFormed_define {node : DirectiveNode} (sound : node.Sound)
    (file : Option String) (n : Nat) :
  (node.define file n).WellFormed
  where
  name := (isReserved_eq_false_iff node.name).mp sound.1
  arguments := sound.2.registers_defineAll _ _ _ _

end Document

/-! ### Built-in definitions -/

namespace BuiltIn

theorem wellFormed_scalar {name : String} (unreserved : Unreserved name) (description : String) :
  (scalar name description).WellFormed
  where
  name := unreserved
  directives := nofun
  mentions := ⟨List.nodup_nil, List.nodup_nil⟩
  fields := .empty
  inputFields := .empty
  enumValues := .empty
  shaped := ⟨nofun, nofun, nofun, nofun, nofun⟩

theorem wellFormed_defineDirective {text : DirectiveText} (unreserved : Unreserved text.name)
    (argument : Unreserved text.argument) (n : Nat) :
  (defineDirective n text).WellFormed
  where
  name := unreserved
  arguments := by
    constructor
    · apply List.nodup_singleton text.argument
    · intro entry member
      obtain rfl := List.mem_singleton.mp member
      rfl
    · intro entry member
      obtain rfl := List.mem_singleton.mp member
      exact ⟨argument, nofun⟩

theorem registers_scalars :
  scalars.Registers TypeDefinition.name TypeDefinition.WellFormed
  := by
  have names : ∀ text ∈ scalarTexts, Drafting.isReserved text.1 = false := by decide
  have distinct : (scalarTexts.map Prod.fst).Nodup := by decide
  rw [scalars, ← Drafting.numbered_eq_map (fun _ => 0) _ 0]
  apply registers_numbered distinct
  · intro n text
    rfl
  · intro n text member
    apply wellFormed_scalar ((isReserved_eq_false_iff _).mp (names text member))

theorem registers_directives :
  directives.1.Registers DirectiveDefinition.name DirectiveDefinition.WellFormed
  := by
  have names : ∀ text ∈ directiveTexts, Drafting.isReserved text.name = false
      ∧ Drafting.isReserved text.argument = false := by decide
  have entries : directives.1
      = ⟨numbered (fun _ => 1) (fun n text => (text.name, defineDirective n text)) 0
        directiveTexts⟩ := by
    rw [directives_eq]
    rfl
  have distinct : (directiveTexts.map DirectiveText.name).Nodup := by decide
  rw [entries]
  apply registers_numbered distinct
  · intro n text
    rfl
  · intro n text member
    obtain ⟨name, argument⟩ := names text member
    apply wellFormed_defineDirective ((isReserved_eq_false_iff _).mp name)
      ((isReserved_eq_false_iff _).mp argument)

end BuiltIn

/-! ### Reachable loaders -/

namespace Loader

/-- The loader that knows nothing but the built-in definitions is well formed. -/
theorem wellFormed_start (options : Options) :
  (start options).WellFormed
  where
  types := BuiltIn.registers_scalars
  extensions := nofun
  directives := BuiltIn.registers_directives

/-- Every visit keeps what has been taken up well formed. -/
theorem WellFormed.visit {l : Loader} (h : l.WellFormed) (file : String) (d : Definition) :
  (l.visit file d).WellFormed
  := by
  cases d with
  | schema node =>
    obtain ⟨faults, roots, visited, -⟩ := l.visitSchema_cases file node
    rw [Loader.visit, visited]
    exact ⟨h.types, h.extensions, h.directives⟩
  | type node =>
    obtain ⟨-, registry, faults, -, -, visited⟩ | ⟨-, existing, -, visited⟩
        | ⟨sound, -, visited⟩ := l.visitType_cases file node
    · rw [Loader.visit, visited]
      exact ⟨h.types, h.extensions, h.directives⟩
    · rw [Loader.visit, visited]
      exact ⟨h.types, h.extensions, h.directives⟩
    · rw [Loader.visit, visited]
      exact ⟨h.types.insert (sound.wellFormed_define _ _), h.extensions, h.directives⟩
  | extension node =>
    obtain ⟨-, registry, faults, -, -, visited⟩ | ⟨sound, visited⟩ :=
      l.visitExtension_cases file node
    · rw [Loader.visit, visited]
      exact ⟨h.types, h.extensions, h.directives⟩
    · rw [Loader.visit, visited]
      refine ⟨h.types, ?_, h.directives⟩
      apply List.forall_mem_append.mpr ⟨h.extensions, ?_⟩
      apply List.forall_mem_singleton.mpr (sound.wellFormed_define _ _)
  | directive node =>
    obtain ⟨-, fault, visited⟩ | ⟨-, -, registry, faults, -, -, visited⟩ | ⟨-, sound, visited⟩ :=
      l.visitDirective_cases file node
    · rw [Loader.visit, visited]
      exact ⟨h.types, h.extensions, h.directives⟩
    · rw [Loader.visit, visited]
      exact ⟨h.types, h.extensions, h.directives⟩
    · rw [Loader.visit, visited]
      exact ⟨h.types, h.extensions, h.directives.insert (sound.wellFormed_define _ _)⟩

/-- Everything that a reachable loader has taken up is well formed. -/
theorem Reachable.wellFormed_loader {options : Options} {l : Loader} (h : Reachable options l) :
  l.WellFormed
  := by
  apply Reachable.induction (fun l file d h => h.visit file d) (wellFormed_start options) _ h
  intro l n h
  exact ⟨h.types, h.extensions, h.directives⟩

end Loader

end LinkedSchema
