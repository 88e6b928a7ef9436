import LinkedSchema.Definition.Site

/-!
# Kinds of types

The six kinds of types, the site at which a directive on a type of each kind stands, and where
a type of each kind may be used.
-/

namespace LinkedSchema

/-- The kind of a type. -/
inductive Kind where
  | enum
  | inputObject
  | interface
  | object
  | scalar
  | union
deriving DecidableEq, Inhabited

namespace Kind

/-- All kinds. -/
def all : List Kind := [enum, inputObject, interface, object, scalar, union]

/-- The name of a kind. -/
def title : Kind → String
  | enum => "Enum"
  | inputObject => "InputObject"
  | interface => "Interface"
  | object => "Object"
  | scalar => "Scalar"
  | union => "Union"

/-- The kind with a given name. -/
def ofTitle? (title : String) : Option Kind := all.find? (fun kind => kind.title == title)

/-- The keyword that opens a definition of a type of this kind. -/
def keyword : Kind → String
  | enum => "enum"
  | inputObject => "input"
  | interface => "interface"
  | object => "type"
  | scalar => "scalar"
  | union => "union"

/-- The site of a directive on a type of this kind. -/
def site : Kind → Site
  | enum => .enum
  | inputObject => .inputObject
  | interface => .interface
  | object => .object
  | scalar => .scalar
  | union => .union

/-- Whether arguments and input fields may have a type of this kind. -/
def isInput : Kind → Bool
  | enum | inputObject | scalar => true
  | interface | object | union => false

/-- Whether fields may have a type of this kind. -/
def isOutput : Kind → Bool
  | inputObject => false
  | enum | interface | object | scalar | union => true

end Kind

end LinkedSchema
