import LinkedSchema.Document.Phrase
import LinkedSchema.Definition.Kind

/-!
# Nodes of schema documents

The definitions of a schema document as they are written there: types and their extensions,
directives, and schema blocks.  A node keeps the names of the types that it mentions; nothing
is looked up yet.
-/

namespace LinkedSchema.Document

/-- An argument of a field or a directive, or a field of an input object type. -/
structure InputNode where
  position : Position
  description : Option String
  name : String
  type : TypeExpr String
  defaultValue : Option Value
  directives : List AppliedDirective
deriving DecidableEq, Inhabited

/-- A field of an object or interface type. -/
structure FieldNode where
  position : Position
  description : Option String
  name : String
  arguments : List InputNode
  type : TypeExpr String
  directives : List AppliedDirective
deriving DecidableEq, Inhabited

/-- A value of an enum type. -/
structure EnumValueNode where
  position : Position
  description : Option String
  name : String
  directives : List AppliedDirective
deriving DecidableEq, Inhabited

/-- What a type of each kind holds. -/
inductive TypeBody where
  | enum (values : List EnumValueNode)
  | inputObject (fields : List InputNode)
  | interface (interfaces : List String) (fields : List FieldNode)
  | object (interfaces : List String) (fields : List FieldNode)
  | scalar
  | union (members : List String)
deriving DecidableEq, Inhabited

namespace TypeBody

/-- The kind of type that a body belongs to. -/
def kind : TypeBody → Kind
  | enum _ => .enum
  | inputObject _ => .inputObject
  | interface _ _ => .interface
  | object _ _ => .object
  | scalar => .scalar
  | union _ => .union

/-- The names of the interfaces that a type implements. -/
def interfaces : TypeBody → List String
  | interface names _ | object names _ => names
  | enum _ | inputObject _ | scalar | union _ => []

/-- The names of the members of a union. -/
def members : TypeBody → List String
  | union names => names
  | enum _ | inputObject _ | interface _ _ | object _ _ | scalar => []

/-- The fields of an object or interface type. -/
def fields : TypeBody → List FieldNode
  | interface _ fields | object _ fields => fields
  | enum _ | inputObject _ | scalar | union _ => []

/-- The fields of an input object type. -/
def inputFields : TypeBody → List InputNode
  | inputObject fields => fields
  | enum _ | interface _ _ | object _ _ | scalar | union _ => []

/-- The values of an enum type. -/
def values : TypeBody → List EnumValueNode
  | enum values => values
  | inputObject _ | interface _ _ | object _ _ | scalar | union _ => []

/-- Whether a body has content that makes an extension without directives worth writing.  The
interfaces of an interface type alone do not. -/
def hasContent : TypeBody → Bool
  | enum values => !values.isEmpty
  | inputObject fields => !fields.isEmpty
  | interface _ fields => !fields.isEmpty
  | object interfaces fields => !interfaces.isEmpty || !fields.isEmpty
  | scalar => false
  | union members => !members.isEmpty

end TypeBody

/-- A definition or an extension of a type. -/
structure TypeNode where
  position : Position
  description : Option String
  name : String
  directives : List AppliedDirective
  body : TypeBody
deriving DecidableEq, Inhabited

/-- The kind of the type that a node defines or extends. -/
def TypeNode.kind (node : TypeNode) : Kind := node.body.kind

/-- A definition of a directive. -/
structure DirectiveNode where
  position : Position
  description : Option String
  name : String
  arguments : List InputNode
  repeatable : Bool
  sites : List Site
deriving DecidableEq, Inhabited

/-- An operation that a schema offers. -/
inductive Operation where
  | query
  | mutation
  | subscription
deriving DecidableEq, Inhabited

/-- The keyword of an operation. -/
def Operation.keyword : Operation → String
  | query => "query"
  | mutation => "mutation"
  | subscription => "subscription"

/-- The operations, in the order in which they are looked at. -/
def Operation.all : List Operation := [.query, .mutation, .subscription]

/-- The operation with a given keyword. -/
def Operation.ofKeyword? (keyword : String) : Option Operation :=
  all.find? (fun operation => operation.keyword == keyword)

/-- A schema block, which names the types of root operations. -/
structure SchemaNode where
  position : Position
  directives : List AppliedDirective
  roots : List (Operation × String)
deriving DecidableEq, Inhabited

/-- A definition of a schema document. -/
inductive Definition where
  | schema (node : SchemaNode)
  | type (node : TypeNode)
  | extension (node : TypeNode)
  | directive (node : DirectiveNode)
deriving DecidableEq, Inhabited

end LinkedSchema.Document
