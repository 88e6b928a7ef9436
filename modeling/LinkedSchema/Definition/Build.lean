import LinkedSchema.Definition.Basic

/-!
# Building definitions

`TypeNode.build` and `DirectiveNode.build` turn a node of a document into a definition.  Every
type that the node mentions is declared in a registry, and every fault in the node is reported;
a node with a fault builds nothing, but what it declared stays declared.
-/

namespace LinkedSchema

open Document (AppliedDirective InputNode FieldNode EnumValueNode TypeNode DirectiveNode)

/-- What building goes along with: the registry, and the faults reported so far. -/
structure Draft where
  registry : Registry
  faults : List Fault
deriving DecidableEq, Inhabited

/-- A step of building. -/
abbrev Drafting (α : Type) := StateM Draft α

namespace Drafting

/-- Reports faults. -/
def report (faults : List Fault) : Drafting Unit :=
  modify fun draft => { draft with faults := draft.faults ++ faults }

/-- Declares a mention of a type. -/
def declare (location : Location) (name : String) : Drafting Reference := do
  let draft ← get
  set { draft with registry := draft.registry.declare name location }
  return draft.registry.next name location

/-- Runs the building of a definition that begins without faults, and gives the definition if
it also ends without. -/
def complete {α : Type} (build : Drafting α) (registry : Registry) :
    Except (List Fault) α × Registry :=
  let (definition, draft) := (build.run ⟨registry, []⟩)
  (if draft.faults.isEmpty then .ok definition else .error draft.faults, draft.registry)

/-! ### Parts of a definition -/

/-- Whether a name is reserved: it starts with two underscores. -/
def isReserved (name : String) : Bool := name.toList.take 2 = ['_', '_']

/-- Reports a name that is reserved. -/
def checkName (location : Location) (name : String) : Drafting Unit :=
  report (if isReserved name then [.reservedName name location] else [])

/-- The external name of a definition. -/
def binding (location : Location) (directives : List AppliedDirective) :
    Drafting (Option String) := do
  let (bindTo, faults) := bindingOf location directives
  report faults
  return bindTo

/-- Declares the named type within a type. -/
def type (location : Location) : TypeExpr String → Drafting (TypeExpr Reference)
  | .named name => return .named (← declare location name)
  | .list inner => return .list (← type location inner)
  | .nonNull inner => return .nonNull (← type location inner)

/-- Declares names after those of `declared`; a name that is there already is reported
instead. -/
def declareOnce (location : Location) (duplicate : String → Fault) :
    (declared : List Reference) → List String → Drafting (List Reference)
  | declared, [] => return declared
  | declared, name :: rest => do
    if declared.any (fun reference => reference.name == name) then
      report [duplicate name]
      declareOnce location duplicate declared rest
    else
      let reference ← declare location name
      declareOnce location duplicate (declared ++ [reference]) rest

/-- How a list of nodes becomes a table of definitions: `build` makes the definition of a node,
and `duplicate` is the fault of a name that stands at two locations. -/
structure Collecting (ν δ : Type) where
  name : ν → String
  position : ν → Position
  location : δ → Location
  duplicate : String → Location → Location → Fault
  build : Location → ν → Drafting δ

/-- Adds the definitions of nodes to a table; a node whose name is there already is reported
instead.  The nodes stand in the same file as `parent`. -/
def collect {ν δ : Type} (c : Collecting ν δ) (parent : Location) :
    (table : OrderedMap String δ) → List ν → Drafting (OrderedMap String δ)
  | table, [] => return table
  | table, node :: rest => do
    let location := parent.moveTo (c.position node)
    match table.get? (c.name node) with
    | some existing =>
      report [c.duplicate (c.name node) (c.location existing) location]
      collect c parent table rest
    | none =>
      let definition ← c.build location node
      collect c parent (table.insert (c.name node) definition) rest

/-! ### Members -/

/-- Builds an argument or an input field. -/
def input (site : Site) (ancestry : Path) (location : Location) (node : InputNode) :
    Drafting InputDefinition := do
  checkName location node.name
  let bindTo ← binding location node.directives
  let type ← type location node.type
  return {
    name := node.name
    description := node.description
    type := type
    defaultValue := node.defaultValue
    deprecation := deprecationOf node.directives
    bindTo := bindTo
    directives := Annotation.ofDirectives location site ancestry node.directives
    location := location }

/-- How the arguments of the definition at `owner` are collected. -/
def collectingArguments (owner : Path) : Collecting InputNode InputDefinition where
  name := InputNode.name
  position := InputNode.position
  location := InputDefinition.location
  duplicate argument first second := .duplicateArgument argument owner first second
  build := input .argumentDefinition owner

/-- Builds a field of the type at `owner`. -/
def field (owner : Path) (location : Location) (node : FieldNode) :
    Drafting FieldDefinition := do
  checkName location node.name
  let arguments ← collect (collectingArguments (owner ++ [.field node.name])) location .empty
    node.arguments
  let bindTo ← binding location node.directives
  let type ← type location node.type
  return {
    name := node.name
    description := node.description
    arguments := arguments
    type := type
    deprecation := deprecationOf node.directives
    bindTo := bindTo
    directives := Annotation.ofDirectives location .fieldDefinition owner node.directives
    location := location }

/-- How the fields of a type are collected. -/
def collectingFields (kind : Kind) (type : String) : Collecting FieldNode FieldDefinition where
  name := FieldNode.name
  position := FieldNode.position
  location := FieldDefinition.location
  duplicate field first second := .duplicateField type field first second
  build := field [.type kind type]

/-- How the fields of an input object type are collected. -/
def collectingInputFields (kind : Kind) (type : String) :
    Collecting InputNode InputDefinition where
  name := InputNode.name
  position := InputNode.position
  location := InputDefinition.location
  duplicate field first second := .duplicateField type field first second
  build := input .inputFieldDefinition [.type kind type]

/-- Builds a value of the enum type at `owner`.  A binding of a value is not looked at. -/
def enumValue (owner : Path) (location : Location) (node : EnumValueNode) :
    Drafting EnumValueDefinition := do
  checkName location node.name
  return {
    name := node.name
    description := node.description
    deprecation := deprecationOf node.directives
    directives := Annotation.ofDirectives location .enumValue owner node.directives
    location := location }

/-- How the values of an enum type are collected. -/
def collectingEnumValues (kind : Kind) (type : String) :
    Collecting EnumValueNode EnumValueDefinition where
  name := EnumValueNode.name
  position := EnumValueNode.position
  location := EnumValueDefinition.location
  duplicate value first second := .duplicateEnumValue type value first second
  build := enumValue [.type kind type]

/-! ### Types and directives -/

/-- Builds a type or an extension of one. -/
def typeDefinition (file : Option String) (node : TypeNode) : Drafting TypeDefinition := do
  let location : Location := .source file node.position
  checkName location node.name
  let bindTo ← binding location node.directives
  let interfaces ← declareOnce location
    (fun name => .duplicateInterface node.name name location) [] node.body.interfaces
  let members ← declareOnce location
    (fun name => .duplicateMember node.name name location) [] node.body.members
  let fields ← collect (collectingFields node.kind node.name) location .empty
    node.body.fields
  let inputFields ← collect (collectingInputFields node.kind node.name) location .empty
    node.body.inputFields
  let enumValues ← collect (collectingEnumValues node.kind node.name) location .empty
    node.body.values
  return {
    kind := node.kind
    name := node.name
    description := node.description
    bindTo := bindTo
    directives := Annotation.ofDirectives location node.kind.site [] node.directives
    interfaces := interfaces
    members := members
    fields := fields
    inputFields := inputFields
    enumValues := enumValues
    location := location }

/-- Builds a directive. -/
def directiveDefinition (file : Option String) (node : DirectiveNode) :
    Drafting DirectiveDefinition := do
  let location : Location := .source file node.position
  checkName location node.name
  let arguments ← collect (collectingArguments [.directive node.name]) location .empty
    node.arguments
  return {
    name := node.name
    description := node.description
    arguments := arguments
    repeatable := node.repeatable
    sites := node.sites
    location := location }

end Drafting

/-- The definition of a type, or of an extension of one, that a node of a file makes. -/
def Document.TypeNode.build (file : Option String) (node : TypeNode) (registry : Registry) :
    Except (List Fault) TypeDefinition × Registry :=
  (Drafting.typeDefinition file node).complete registry

/-- The definition of a directive that a node of a file makes. -/
def Document.DirectiveNode.build (file : Option String) (node : DirectiveNode)
    (registry : Registry) : Except (List Fault) DirectiveDefinition × Registry :=
  (Drafting.directiveDefinition file node).complete registry

end LinkedSchema
