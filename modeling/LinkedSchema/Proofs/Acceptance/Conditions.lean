import LinkedSchema.Definition.BuiltIn
import LinkedSchema.Schema.Options
import LinkedSchema.Proofs.Linking.Mentions

/-!
# Coherent definitions

`Coherent options ds` says of the nodes of documents, without building or linking anything, that
they fit together.  The definitions that are built into the language come first among `ds`, as
the nodes that would define them (`BuiltIn.definitions`), so that a name that is taken by a
built-in definition is a name that stands twice, and a name that is defined may be a built-in
one.
-/

namespace LinkedSchema

open Document (AppliedDirective InputNode FieldNode EnumValueNode TypeNode DirectiveNode SchemaNode
  Definition Operation)

/-! ### Built-in definitions -/

namespace BuiltIn

/-- The node that would define a built-in scalar type. -/
def scalarNode (name description : String) : TypeNode where
  position := default
  description := some description
  name := name
  directives := []
  body := .scalar

/-- The node that would define a built-in directive. -/
def directiveNode (text : DirectiveText) : DirectiveNode where
  position := default
  description := some text.description
  name := text.name
  arguments := [{
    position := default
    description := none
    name := text.argument
    type := text.type
    defaultValue := text.defaultValue
    directives := [] }]
  repeatable := false
  sites := text.sites

/-- The definitions that every schema has. -/
def definitions : List Definition :=
  scalarTexts.map (fun (name, description) => .type (scalarNode name description))
    ++ directiveTexts.map fun text => .directive (directiveNode text)

end BuiltIn

namespace Document

/-! ### Definitions of each sort -/

/-- The type that a definition defines. -/
def Definition.type? : Definition → Option TypeNode
  | .type node => some node
  | .schema _ | .extension _ | .directive _ => none

/-- The extension that a definition is. -/
def Definition.extension? : Definition → Option TypeNode
  | .extension node => some node
  | .schema _ | .type _ | .directive _ => none

/-- The directive that a definition defines. -/
def Definition.directive? : Definition → Option DirectiveNode
  | .directive node => some node
  | .schema _ | .type _ | .extension _ => none

/-- The schema block that a definition is. -/
def Definition.schema? : Definition → Option SchemaNode
  | .schema node => some node
  | .type _ | .extension _ | .directive _ => none

/-- The types among definitions. -/
def typeNodes (ds : List Definition) : List TypeNode := ds.filterMap Definition.type?

/-- The extensions among definitions. -/
def extensionNodes (ds : List Definition) : List TypeNode := ds.filterMap Definition.extension?

/-- The directives among definitions. -/
def directiveNodes (ds : List Definition) : List DirectiveNode :=
  ds.filterMap Definition.directive?

/-- The types and the extensions with a name. -/
def partsOf (ds : List Definition) (name : String) : List TypeNode :=
  (typeNodes ds).filter (fun node => node.name = name)
    ++ (extensionNodes ds).filter fun node => node.name = name

/-! ### Names of members -/

namespace TypeNode

/-- The names of the fields of an object or interface type. -/
def fieldNames (node : TypeNode) : List String := node.body.fields.map FieldNode.name

/-- The names of the fields of an input object type. -/
def inputFieldNames (node : TypeNode) : List String := node.body.inputFields.map InputNode.name

/-- The names of the values of an enum type. -/
def valueNames (node : TypeNode) : List String := node.body.values.map EnumValueNode.name

end TypeNode

/-! ### Mentions of types -/

/-- The name of a type that an argument or input field mentions, with the role of the
mention. -/
def InputNode.mention (node : InputNode) : Role × String := (.input, node.type.innermost)

/-- The names of types that a field mentions, with the roles of the mentions. -/
def FieldNode.mentions (node : FieldNode) : List (Role × String) :=
  (.output, node.type.innermost) :: node.arguments.map InputNode.mention

/-- The names of types that a type or an extension mentions, with the roles of the mentions. -/
def TypeNode.mentions (node : TypeNode) : List (Role × String) :=
  node.body.interfaces.map (fun name => (.interface, name))
    ++ node.body.members.map (fun name => (.member, name))
    ++ node.body.fields.flatMap FieldNode.mentions
    ++ node.body.inputFields.map InputNode.mention

/-- The names of types that a directive mentions, with the roles of the mentions. -/
def DirectiveNode.mentions (node : DirectiveNode) : List (Role × String) :=
  node.arguments.map InputNode.mention

/-- The names of types that a definition mentions, with the roles of the mentions.  Those that a
schema block names for operations are not among them. -/
def Definition.mentions : Definition → List (Role × String)
  | .schema _ => []
  | .type node | .extension node => node.mentions
  | .directive node => node.mentions

/-! ### Applications of directives -/

/-- The names of the directives applied at a site, bindings apart. -/
def applied (site : Site) (directives : List AppliedDirective) : List (String × Site) :=
  (directives.filter fun d => d.name != bindName).map fun d => (d.name, site)

/-- The directives applied to a field and to each of its arguments. -/
def FieldNode.applications (node : FieldNode) : List (List (String × Site)) :=
  applied .fieldDefinition node.directives
    :: node.arguments.map fun argument => applied .argumentDefinition argument.directives

/-- The directives that a node applies to the type itself. -/
def TypeNode.applied (node : TypeNode) : List (String × Site) :=
  Document.applied node.kind.site node.directives

/-- The directives applied to each member of a type. -/
def TypeNode.memberApplications (node : TypeNode) : List (List (String × Site)) :=
  node.body.fields.flatMap FieldNode.applications
    ++ node.body.inputFields.map (fun field =>
      Document.applied .inputFieldDefinition field.directives)
    ++ node.body.values.map fun value => Document.applied .enumValue value.directives

/-- The directives applied to each argument of a directive. -/
def DirectiveNode.applications (node : DirectiveNode) : List (List (String × Site)) :=
  node.arguments.map fun argument => applied .argumentDefinition argument.directives

/-- The directives applied to each thing defined: to a type by its definition and by all its
extensions together, to the members of types, and to the arguments of directives. -/
def applications (ds : List Definition) : List (List (String × Site)) :=
  (typeNodes ds).map (fun node => (partsOf ds node.name).flatMap TypeNode.applied)
    ++ (typeNodes ds ++ extensionNodes ds).flatMap TypeNode.memberApplications
    ++ (directiveNodes ds).flatMap DirectiveNode.applications

/-! ### Root operations -/

/-- The type that a definition names for an operation. -/
def Definition.root? (operation : Operation) (d : Definition) : Option String :=
  d.schema?.bind fun node => OrderedMap.lookup operation node.roots

/-- The types that schema blocks name for an operation. -/
def declaredRoots (ds : List Definition) (operation : Operation) : List String :=
  ds.filterMap (Definition.root? operation)

/-- The name of the type of an operation: the one that a schema block names, or else the name of
the operation. -/
def rootName (ds : List Definition) (operation : Operation) : String :=
  (declaredRoots ds operation).head?.getD operation.title

end Document

/-! ### Coherence -/

open Document

/-- Whether a name is defined to be a type of a kind. -/
def DefinesKind (ds : List Definition) (name : String) (kind : Kind) : Prop :=
  ∃ node ∈ typeNodes ds, node.name = name ∧ node.kind = kind

/-- Whether an operation has an object type. -/
def HasRoot (ds : List Definition) (operation : Operation) : Prop :=
  DefinesKind ds (rootName ds operation) .object

/-- Whether every directive applied to one thing is defined and may stand at its site, and those
that may not be repeated are not. -/
structure AppliedWell (options : Options) (ds : List Definition)
    (applications : List (String × Site)) : Prop where
  defined : ∀ application ∈ applications, ∃ node ∈ directiveNodes ds,
    node.name = application.1
      ∧ (application.2 ∈ node.sites ∨ options.misplacedDirective = .warn)
  once : ∀ node ∈ directiveNodes ds, node.repeatable = false →
    (applications.map Prod.fst).count node.name ≤ 1

/-- Whether definitions fit together. -/
structure Coherent (options : Options) (ds : List Definition) : Prop where
  /-- Every type and every extension can be built on its own. -/
  types : ∀ node ∈ typeNodes ds ++ extensionNodes ds, (node.build none .empty).1.isOk
  /-- Every directive can be built on its own. -/
  directives : ∀ node ∈ directiveNodes ds, (node.build none .empty).1.isOk
  /-- No type is defined twice. -/
  typeNames : ((typeNodes ds).map TypeNode.name).Nodup
  /-- No directive is defined twice. -/
  directiveNames : ((directiveNodes ds).map DirectiveNode.name).Nodup
  /-- Schema blocks name at most one type for an operation. -/
  roots : ∀ operation, (declaredRoots ds operation).length ≤ 1
  /-- Every extension is one of a type that is defined, and of the same kind. -/
  extensions : ∀ node ∈ extensionNodes ds, DefinesKind ds node.name node.kind
  /-- No type has two fields of one name, in its definition and its extensions together. -/
  fields : ∀ node ∈ typeNodes ds, ((partsOf ds node.name).flatMap TypeNode.fieldNames).Nodup
  /-- No type has two input fields of one name. -/
  inputFields : ∀ node ∈ typeNodes ds,
    ((partsOf ds node.name).flatMap TypeNode.inputFieldNames).Nodup
  /-- No type has two values of one name. -/
  values : ∀ node ∈ typeNodes ds, ((partsOf ds node.name).flatMap TypeNode.valueNames).Nodup
  /-- Every type that is mentioned is defined, and of a kind that may stand there. -/
  mentions : ∀ mention ∈ ds.flatMap Definition.mentions,
    ∃ kind, DefinesKind ds mention.2 kind ∧ mention.1.legal kind
  /-- Directives are applied well to everything defined. -/
  applications : ∀ list ∈ applications ds, AppliedWell options ds list
  /-- There is a type for queries. -/
  query : HasRoot ds .query
  /-- A type that a schema block names for an operation is an object type. -/
  rootKinds : ∀ operation, declaredRoots ds operation ≠ [] → HasRoot ds operation
  /-- No two operations have the same type. -/
  distinctRoots : ∀ operation other, operation ≠ other → HasRoot ds operation →
    HasRoot ds other → rootName ds operation ≠ rootName ds other

end LinkedSchema
