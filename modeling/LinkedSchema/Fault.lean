import LinkedSchema.Document.Definition
import LinkedSchema.Definition.Path

/-!
# Faults

A `Fault` is a problem found in the definitions of a schema: it says what is wrong and where.
`Fault.message` is its text.
-/

namespace LinkedSchema

open Document (Operation)

/-- The type that a schema block names for an operation, and where the block stands. -/
structure Root where
  type : String
  location : Location
deriving DecidableEq, Inhabited

/-- A problem in the definitions of a schema. -/
inductive Fault where
  /-- Two arguments of one field or directive have the same name. -/
  | duplicateArgument (argument : String) (owner : Path) (first second : Location)
  /-- Two directives have the same name. -/
  | duplicateDirective (directive : String) (first second : Location)
  /-- Two values of one enum type have the same name. -/
  | duplicateEnumValue (type value : String) (first second : Location)
  /-- Two fields of one type have the same name. -/
  | duplicateField (type field : String) (first second : Location)
  /-- A type names an interface twice. -/
  | duplicateInterface (type interface : String) (location : Location)
  /-- A union names a member twice. -/
  | duplicateMember (type member : String) (location : Location)
  /-- An operation gets its type twice. -/
  | duplicateRoot (operation : Operation) (first second : Root)
  /-- Two types have the same name. -/
  | duplicateType (type : String) (first second : Location)
  /-- A directive that may not be repeated is applied once more to one definition. -/
  | repeatedDirective (directive : String) (location : Location)
  /-- A directive that may not be repeated is applied to a type and to its extension. -/
  | directiveConflict (type directive : String) (base extension : Location)
  /-- An extension of an enum type defines a value again. -/
  | enumValueConflict (type value : String) (base extension : Location)
  /-- An extension of a type defines a field again. -/
  | fieldConflict (type field : String) (base extension : Location)
  /-- An extension is merged into a type of another name. -/
  | nameMismatch (type extension : String) (location : Location)
  /-- An extension is merged into a type of another kind. -/
  | kindMismatch (type : String) (kind extension : Kind) (location : Location)
  /-- An extension extends a type that is not defined. -/
  | undefinedBase (type : String) (location : Location)
  /-- A type implements something other than an interface. -/
  | notInterface (type interface : String) (location : Location)
  /-- A union has a member that is not an object type. -/
  | notMember (type member : String) (location : Location)
  /-- An argument or an input field has a type that is no input type. -/
  | notInput (path : Path) (type : String) (location : Location)
  /-- A field has a type that is no output type. -/
  | notOutput (path : Path) (type : String) (location : Location)
  /-- A schema block names something other than an object type for an operation. -/
  | notRoot (operation : Operation) (type : String) (location : Location)
  /-- A directive is applied at a site that its definition does not list. -/
  | misplacedDirective (directive : String) (site : Site) (ancestry : Path)
      (allowed : List Site) (location : Location)
  /-- A binding is not given exactly one text `to`. -/
  | invalidBinding (location : Location)
  /-- A name starts with two underscores. -/
  | reservedName (name : String) (location : Location)
  /-- There is no type for queries. -/
  | noQuery
  /-- Two operations have the same type. -/
  | sharedRoot (first second : Operation) (type : String)
  /-- A directive of the language is defined again. -/
  | redefinedBuiltIn (directive : String) (location : Location)
  /-- A directive is applied that is not defined. -/
  | undefinedDirective (directive : String) (location : Location)
  /-- A type is mentioned that is not defined. -/
  | undefinedType (type : String) (location : Location)
deriving DecidableEq, Inhabited

/-- The name of an operation, which also is the name of its type unless a schema block says
otherwise. -/
def Document.Operation.title : Operation → String
  | query => "Query"
  | mutation => "Mutation"
  | subscription => "Subscription"

namespace Fault

/-- A name as it is shown within a message. -/
def tick (name : String) : String := "`" ++ name ++ "`"

/-- The name of a directive as it is shown within a message. -/
def tickDirective (name : String) : String := "`@" ++ name ++ "`"

/-- Two locations as they are shown within a message. -/
def pair (first second : Location) : String :=
  "(" ++ first.text ++ " and " ++ second.text ++ ")"

/-- The text of a fault. -/
def message : Fault → String
  | duplicateArgument argument owner first second =>
    tick argument ++ " is defined more than once on " ++ tick owner.text ++ " "
      ++ pair first second
  | duplicateDirective directive first second =>
    "Multiple directives were defined with the name " ++ tickDirective directive ++ " "
      ++ pair first second
  | duplicateEnumValue type value first second =>
    "The " ++ tick value ++ " value is defined more than once on the " ++ tick type ++ " enum "
      ++ pair first second
  | duplicateField type field first second =>
    "Multiple fields named " ++ tick field ++ " were defined on the " ++ tick type ++ " type "
      ++ pair first second
  | duplicateInterface type interface _ =>
    "The " ++ tick type ++ " type declares that it implements the " ++ tick interface
      ++ " interface more than once"
  | duplicateMember type member _ =>
    "The " ++ tick type ++ " union lists " ++ tick member ++ " as a member more than once"
  | duplicateRoot operation _ _ =>
    "Multiple definitions of the " ++ operation.title ++ " root operation type were given"
  | duplicateType type first second =>
    "Multiple GraphQL types named " ++ tick type ++ " were defined " ++ pair first second
  | repeatedDirective directive location =>
    "The non-repeatable " ++ tickDirective directive
      ++ " directive is applied more than once at " ++ location.text
  | directiveConflict type directive base extension =>
    "The non-repeatable " ++ tickDirective directive ++ " directive is applied to both "
      ++ tick type ++ " (" ++ base.text ++ ") and an extension of it (" ++ extension.text ++ ")"
  | enumValueConflict type value base extension =>
    "An extension of " ++ tick type ++ " (" ++ extension.text ++ ") redefines the "
      ++ tick value ++ " enum value (" ++ base.text ++ ")"
  | fieldConflict type field base extension =>
    "An extension of " ++ tick type ++ " (" ++ extension.text ++ ") redefines the "
      ++ tick field ++ " field (" ++ base.text ++ ")"
  | nameMismatch type extension _ =>
    "Attempted to merge an extension of " ++ tick extension ++ " into " ++ tick type
  | kindMismatch type kind extension location =>
    "Attempted to extend the " ++ kind.keyword ++ " " ++ tick type ++ " with a "
      ++ extension.keyword ++ " extension at " ++ location.text
  | undefinedBase type location =>
    "Attempted to extend " ++ tick type ++ " at " ++ location.text
      ++ ", but it is not defined elsewhere"
  | notInterface type interface location =>
    tick type ++ " implements " ++ tick interface ++ " at " ++ location.text
      ++ ", but that is not an interface type"
  | notMember type member location =>
    "The " ++ tick type ++ " union lists " ++ tick member ++ " (" ++ location.text
      ++ "), which is not an object type"
  | notInput path type location =>
    tick path.text ++ " is declared with type " ++ tick type ++ " (" ++ location.text
      ++ "), which is not an input type"
  | notOutput path type location =>
    tick path.text ++ " is declared with type " ++ tick type ++ " (" ++ location.text
      ++ "), which is not an output type"
  | notRoot operation type location =>
    "The " ++ operation.title ++ " root operation type " ++ tick type ++ " (" ++ location.text
      ++ ") is not a defined object type"
  | misplacedDirective directive site ancestry allowed location =>
    tickDirective directive ++ " is not allowed at " ++ site.tag ++ " (on "
      ++ tick ancestry.ancestryText ++ ", " ++ location.text ++ "); it may only be used at "
      ++ " | ".intercalate (allowed.map Site.tag)
  | invalidBinding location =>
    tickDirective "bind" ++ " at " ++ location.text
      ++ " must be given exactly one string `to:` argument"
  | reservedName name location =>
    "Names starting with `__` are reserved for introspection: " ++ tick name ++ " ("
      ++ location.text ++ ")"
  | noQuery => "Attempted to build a schema that has no Query operation type defined"
  | sharedRoot first second type =>
    "The " ++ first.title ++ " and " ++ second.title
      ++ " root operations are both defined with the " ++ tick type
      ++ " type, but all root operations must be defined with different types."
  | redefinedBuiltIn directive location =>
    "Attempted to redefine the builtin " ++ tickDirective directive ++ " directive at "
      ++ location.text
  | undefinedDirective directive location =>
    "Directive " ++ tickDirective directive ++ " is applied at " ++ location.text
      ++ " but never defined"
  | undefinedType type location =>
    tick type ++ " is referenced at " ++ location.text ++ " but never defined"

/-- The text of a list of faults. -/
def listMessage (faults : List Fault) : String :=
  "Encountered the following errors while building the schema:\n\n"
    ++ "\n".intercalate (faults.map fun fault => "  * " ++ fault.message)

end Fault

end LinkedSchema
