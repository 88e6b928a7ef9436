import LinkedSchema.Definition.Annotation
import LinkedSchema.Definition.Registry

/-!
# Definitions

What a schema is made of: types with their fields, arguments and values, and directives.  A
definition mentions types by references, and keeps its members in the order of the document.
-/

namespace LinkedSchema

/-- An argument of a field or a directive, or a field of an input object type. -/
structure InputDefinition where
  name : String
  description : Option String
  type : TypeExpr Reference
  defaultValue : Option Value
  deprecation : Option String
  bindTo : Option String
  directives : List Annotation
  location : Location
deriving DecidableEq, Inhabited

/-- A field of an object or interface type. -/
structure FieldDefinition where
  name : String
  description : Option String
  arguments : OrderedMap String InputDefinition
  type : TypeExpr Reference
  deprecation : Option String
  bindTo : Option String
  directives : List Annotation
  location : Location
deriving DecidableEq, Inhabited

/-- A value of an enum type. -/
structure EnumValueDefinition where
  name : String
  description : Option String
  deprecation : Option String
  directives : List Annotation
  location : Location
deriving DecidableEq, Inhabited

/-- A type, or an extension of one.  Only the members that belong to its kind are there:
fields and interfaces of object and interface types, members of unions, fields of input object
types, and values of enum types. -/
structure TypeDefinition where
  kind : Kind
  name : String
  description : Option String
  bindTo : Option String
  directives : List Annotation
  interfaces : List Reference
  members : List Reference
  fields : OrderedMap String FieldDefinition
  inputFields : OrderedMap String InputDefinition
  enumValues : OrderedMap String EnumValueDefinition
  location : Location
deriving DecidableEq, Inhabited

/-- A directive. -/
structure DirectiveDefinition where
  name : String
  description : Option String
  arguments : OrderedMap String InputDefinition
  repeatable : Bool
  sites : List Site
  location : Location
deriving DecidableEq, Inhabited

/-- The references of a field: that of its type, and those of its arguments. -/
def FieldDefinition.references (field : FieldDefinition) : List Reference :=
  field.type.innermost :: field.arguments.values.map fun argument => argument.type.innermost

namespace TypeDefinition

/-- Whether a type is built into the language. -/
def isBuiltIn (type : TypeDefinition) : Bool := type.location.isBuiltIn

/-- All references of a type: its interfaces, its members, the types of its fields and of
their arguments, and the types of its input fields. -/
def references (type : TypeDefinition) : List Reference :=
  type.interfaces ++ type.members ++ type.fields.values.flatMap FieldDefinition.references
    ++ type.inputFields.values.map fun field => field.type.innermost

end TypeDefinition

namespace DirectiveDefinition

/-- Whether a directive is built into the language. -/
def isBuiltIn (directive : DirectiveDefinition) : Bool := directive.location.isBuiltIn

/-- Whether a directive may be applied at a site. -/
def allows (directive : DirectiveDefinition) (site : Site) : Bool :=
  directive.sites.contains site

/-- All references of a directive: the types of its arguments. -/
def references (directive : DirectiveDefinition) : List Reference :=
  directive.arguments.values.map fun argument => argument.type.innermost

end DirectiveDefinition

end LinkedSchema
