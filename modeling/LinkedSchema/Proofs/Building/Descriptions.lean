import LinkedSchema.Proofs.Acceptance.Conditions
import LinkedSchema.Proofs.Building.Nodes
import Mathlib.Data.List.Perm.Basic

/-!
# Descriptions

What linking looks at in a definition: its kind and its names, the names of the types that it
mentions, and the names and sites of its annotations.  A node describes a definition if it agrees
with it in all of these (`TypeNode.Describes`, `DirectiveNode.Describes`).  A node describes what
it makes (`TypeNode.describes_define`), and the nodes of the built-in definitions describe them.
-/

namespace LinkedSchema

open Document (AppliedDirective InputNode FieldNode EnumValueNode TypeNode DirectiveNode)

/-! ### What linking looks at -/

/-- The name and the site of an annotation. -/
def Annotation.mark (a : Annotation) : String × Site := (a.name, a.site)

/-- The name of the type of an argument or input field, with the role of the mention. -/
def InputDefinition.mention (input : InputDefinition) : Role × String :=
  (.input, input.type.innermost.name)

/-- The names and sites of the annotations of an argument or input field. -/
def InputDefinition.marks (input : InputDefinition) : List (String × Site) :=
  input.directives.map Annotation.mark

namespace FieldDefinition

/-- The names of the types that a field mentions, with the roles of the mentions. -/
def mentions (field : FieldDefinition) : List (Role × String) :=
  (.output, field.type.innermost.name) :: field.arguments.values.map InputDefinition.mention

/-- The names and sites of the annotations of a field and of each of its arguments. -/
def marks (field : FieldDefinition) : List (List (String × Site)) :=
  field.directives.map Annotation.mark :: field.arguments.values.map InputDefinition.marks

end FieldDefinition

namespace TypeDefinition

/-- The names of the types that a type mentions, with the roles of the mentions. -/
def mentions (type : TypeDefinition) : List (Role × String) :=
  (type.interfaces.map Reference.name).map (fun name => (.interface, name))
    ++ (type.members.map Reference.name).map (fun name => (.member, name))
    ++ type.fields.values.flatMap FieldDefinition.mentions
    ++ type.inputFields.values.map InputDefinition.mention

/-- The names and sites of the annotations of a type itself. -/
def marks (type : TypeDefinition) : List (String × Site) := type.directives.map Annotation.mark

/-- The names and sites of the annotations of each member of a type. -/
def memberMarks (type : TypeDefinition) : List (List (String × Site)) :=
  type.fields.values.flatMap FieldDefinition.marks
    ++ type.inputFields.values.map InputDefinition.marks
    ++ type.enumValues.values.map fun value => value.directives.map Annotation.mark

end TypeDefinition

namespace DirectiveDefinition

/-- The names of the types that a directive mentions, with the roles of the mentions. -/
def mentions (directive : DirectiveDefinition) : List (Role × String) :=
  directive.arguments.values.map InputDefinition.mention

/-- The names and sites of the annotations of each argument of a directive. -/
def marks (directive : DirectiveDefinition) : List (List (String × Site)) :=
  directive.arguments.values.map InputDefinition.marks

end DirectiveDefinition

namespace Document

/-- Whether a type or an extension is what a node says, as far as linking looks at it. -/
structure TypeNode.Describes (node : TypeNode) (type : TypeDefinition) : Prop where
  kind : type.kind = node.kind
  name : type.name = node.name
  fields : type.fields.keys = node.fieldNames
  inputFields : type.inputFields.keys = node.inputFieldNames
  values : type.enumValues.keys = node.valueNames
  mentions : type.mentions = node.mentions
  marks : type.marks = node.applied
  memberMarks : type.memberMarks = node.memberApplications

/-- Whether a directive is what a node says, as far as linking looks at it. -/
structure DirectiveNode.Describes (node : DirectiveNode) (directive : DirectiveDefinition) :
    Prop where
  repeatable : directive.repeatable = node.repeatable
  sites : directive.sites = node.sites
  mentions : directive.mentions = node.mentions
  marks : directive.marks = node.applications

end Document

/-! ### Nodes describe what they make -/

/-- The marks of the annotations that applied directives make are their names, bindings apart. -/
theorem Annotation.map_mark_ofDirectives (owner : Location) (site : Site) (ancestry : Path)
    (directives : List AppliedDirective) :
  (ofDirectives owner site ancestry directives).map mark = Document.applied site directives
  := by
  rw [ofDirectives, Document.applied, List.map_map]
  rfl

/-- The references of declarations have their names. -/
theorem Declaration.map_name_references (start : Nat) (ds : List Declaration) :
  (references start ds).map Reference.name = ds.map name
  := by
  apply map_numbered
  intro n d
  rfl

theorem keys_numbered {ν δ : Type} (width : ν → Nat) (name : ν → String) (make : Nat → ν → δ)
    (start : Nat) (nodes : List ν) :
  (OrderedMap.mk (numbered width (fun n node => (name node, make n node)) start nodes)).keys
    = nodes.map name
  := by
  apply map_numbered
  intro n node
  rfl

/-- What does not depend on the numbers can be read off the nodes of a table. -/
theorem map_values_numbered {ν δ μ : Type} {width : ν → Nat} {name : ν → String}
    {make : Nat → ν → δ} {f : δ → μ} {g : ν → μ} (h : ∀ n node, f (make n node) = g node)
    (start : Nat) (nodes : List ν) :
  (OrderedMap.mk (numbered width (fun n node => (name node, make n node)) start nodes)).values.map f
    = nodes.map g
  := by
  rw [OrderedMap.values, List.map_map]
  apply map_numbered
  apply h

namespace Document

theorem InputNode.map_mention_defineAll (site : Site) (ancestry : Path) (parent : Location)
    (n : Nat) (nodes : List InputNode) :
  (defineAll site ancestry parent n nodes).values.map InputDefinition.mention
    = nodes.map InputNode.mention
  := by
  apply map_values_numbered
  intro n node
  rw [InputDefinition.mention, define, TypeExpr.innermost_map]
  rfl

theorem InputNode.map_marks_defineAll (site : Site) (ancestry : Path) (parent : Location)
    (n : Nat) (nodes : List InputNode) :
  (defineAll site ancestry parent n nodes).values.map InputDefinition.marks
    = nodes.map fun node => applied site node.directives
  := by
  apply map_values_numbered
  intro n node
  apply Annotation.map_mark_ofDirectives

theorem FieldNode.mentions_define (owner : Path) (location : Location) (n : Nat)
    (node : FieldNode) :
  (node.define owner location n).mentions = node.mentions
  := by
  rw [FieldDefinition.mentions, mentions, define, TypeExpr.innermost_map,
    InputNode.map_mention_defineAll]

theorem FieldNode.marks_define (owner : Path) (location : Location) (n : Nat)
    (node : FieldNode) :
  (node.define owner location n).marks = node.applications
  := by
  rw [FieldDefinition.marks, applications, define, Annotation.map_mark_ofDirectives,
    InputNode.map_marks_defineAll]

theorem TypeNode.map_name_declarationsOf (file : Option String) (node : TypeNode)
    (names : List String) :
  (node.declarationsOf file names).map Declaration.name = names
  := by
  rw [declarationsOf, List.map_map]
  apply List.map_id

/-- A node describes the type or the extension that it makes. -/
theorem TypeNode.describes_define (file : Option String) (node : TypeNode) (n : Nat) :
  node.Describes (node.define file n)
  where
  kind := rfl
  name := rfl
  fields := keys_numbered _ _ _ _ _
  inputFields := keys_numbered _ _ _ _ _
  values := List.map_map
  mentions := by
    rw [TypeDefinition.mentions, TypeNode.mentions, define]
    simp only [Declaration.map_name_references, map_name_declarationsOf]
    congr 1
    · congr 1
      rw [List.flatMap_def, List.flatMap_def, FieldNode.defineAll]
      congr 1
      apply map_values_numbered
      intro n field
      apply FieldNode.mentions_define
    · apply InputNode.map_mention_defineAll
  marks := Annotation.map_mark_ofDirectives _ _ _ _
  memberMarks := by
    rw [TypeDefinition.memberMarks, memberApplications, define]
    congr 1
    · congr 1
      · rw [List.flatMap_def, List.flatMap_def, FieldNode.defineAll]
        congr 1
        apply map_values_numbered
        intro n node
        apply FieldNode.marks_define
      · apply InputNode.map_marks_defineAll
    · rw [OrderedMap.values, EnumValueNode.defineAll, List.map_map, List.map_map]
      apply List.map_congr_left
      intro value _
      apply Annotation.map_mark_ofDirectives

/-- A node describes the directive that it makes. -/
theorem DirectiveNode.describes_define (file : Option String) (node : DirectiveNode) (n : Nat) :
  node.Describes (node.define file n)
  where
  repeatable := rfl
  sites := rfl
  mentions := InputNode.map_mention_defineAll _ _ _ _ _
  marks := InputNode.map_marks_defineAll _ _ _ _ _

end Document

/-! ### Nodes declare what they mention -/

namespace Document

theorem InputNode.map_name_allDeclarations (parent : Location) (nodes : List InputNode) :
  (allDeclarations parent nodes).map Declaration.name = (nodes.map mention).map Prod.snd
  := by
  rw [allDeclarations, List.map_flatMap, List.map_map, List.map_eq_flatMap]
  rfl

theorem FieldNode.map_name_declarations (location : Location) (node : FieldNode) :
  ((node.declarations location).map Declaration.name).Perm (node.mentions.map Prod.snd)
  := by
  rw [declarations, List.map_append, InputNode.map_name_allDeclarations]
  apply List.perm_append_singleton

/-- The names that a type or an extension declares are those that it mentions. -/
theorem TypeNode.map_name_declarations (file : Option String) (node : TypeNode) :
  ((node.declarations file).map Declaration.name).Perm (node.mentions.map Prod.snd)
  := by
  simp only [declarations, mentions, List.map_append, map_name_declarationsOf, List.append_assoc,
    InputNode.map_name_allDeclarations]
  apply List.Perm.append
  · rw [List.map_map]
    apply List.Perm.of_eq (List.map_id _).symm
  apply List.Perm.append
  · rw [List.map_map]
    apply List.Perm.of_eq (List.map_id _).symm
  apply List.Perm.append_right
  rw [FieldNode.allDeclarations, List.map_flatMap, List.map_flatMap]
  apply List.Perm.flatMap_left
  intro field _
  apply FieldNode.map_name_declarations

/-- The names that a directive declares are those that it mentions. -/
theorem DirectiveNode.map_name_declarations (file : Option String) (node : DirectiveNode) :
  (node.declarations file).map Declaration.name = node.mentions.map Prod.snd
  := by
  apply InputNode.map_name_allDeclarations

end Document

/-! ### Built-in definitions -/

namespace BuiltIn

/-- The node of a built-in scalar type describes it. -/
theorem describes_scalar (name description : String) :
  (scalarNode name description).Describes (scalar name description)
  where
  kind := rfl
  name := rfl
  fields := rfl
  inputFields := rfl
  values := rfl
  mentions := rfl
  marks := rfl
  memberMarks := rfl

/-- The definition of a built-in directive whose reference has the symbol `n`. -/
def defineDirective (n : Nat) (text : DirectiveText) : DirectiveDefinition where
  name := text.name
  description := some text.description
  arguments := OrderedMap.empty.insert text.argument {
    name := text.argument
    description := none
    type := text.type.map fun name => ⟨name, .builtIn, n⟩
    defaultValue := text.defaultValue
    deprecation := none
    bindTo := none
    directives := []
    location := .builtIn }
  repeatable := false
  sites := text.sites
  location := .builtIn

/-- The node of a built-in directive describes it. -/
theorem describes_defineDirective (n : Nat) (text : DirectiveText) :
  (directiveNode text).Describes (defineDirective n text)
  where
  repeatable := rfl
  sites := rfl
  mentions := by
    let reference (name : String) : Reference := ⟨name, .builtIn, n⟩
    change [(Role.input, (text.type.map reference).innermost.name)] = _
    rw [TypeExpr.innermost_map]
    rfl
  marks := rfl

/-- The declaration of a built-in directive. -/
def directiveDeclaration (text : DirectiveText) : Declaration :=
  ⟨text.type.innermost, .builtIn⟩

theorem directive_makes (text : DirectiveText) :
  Drafting.Makes (directive text) True (fun n => defineDirective n text)
    [directiveDeclaration text]
  := by
  apply ((Drafting.type_makes .builtIn text.type).andThen fun type => Drafting.Makes.pure _).of_iff
  rw [and_true]

theorem mapM_directive_makes (texts : List DirectiveText) :
  Drafting.Makes (texts.mapM directive) True
    (fun n => numbered (fun _ => 1) defineDirective n texts) (texts.map directiveDeclaration)
  := by
  induction texts with
  | nil => apply Drafting.Makes.pure
  | cons text rest ih =>
    have h := (directive_makes text).andThen fun first =>
      ih.andThen fun others => Drafting.Makes.pure (first :: others)
    rw [List.append_nil] at h
    rw [List.mapM_cons]
    apply h.of_iff
    simp only [and_true]

/-- The built-in directives are those of the texts, in order. -/
theorem directives_eq :
  directives
    = (⟨(numbered (fun _ => 1) defineDirective 0 directiveTexts).map fun d => (d.name, d)⟩,
      ⟨directiveTexts.map directiveDeclaration⟩)
  := by
  rw [directives, (mapM_directive_makes directiveTexts).run_eq trivial]
  rfl

end BuiltIn

end LinkedSchema
