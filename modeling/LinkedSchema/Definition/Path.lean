import LinkedSchema.Definition.Kind

/-!
# Paths of definitions

A `Path` names a definition by the definitions around it, the outermost first: a type, a field
of it, an argument of the field.
-/

namespace LinkedSchema

/-- One step of a path. -/
inductive Segment where
  | argument (name : String)
  | directive (name : String)
  | enumValue (name : String)
  | field (name : String)
  | inputField (name : String)
  | type (kind : Kind) (name : String)
deriving DecidableEq, Inhabited

namespace Segment

/-- The name of the definition that a step goes to. -/
def name : Segment → String
  | argument name | directive name | enumValue name | field name | inputField name => name
  | type _ name => name

/-- The text of a step that is not the first one. -/
def text : Segment → String
  | argument name => "(" ++ name ++ ":)"
  | directive name => "@" ++ name
  | enumValue name | field name | inputField name => "." ++ name
  | type _ name => "." ++ name

/-- The text of a step that is the first one: a type then stands without a dot. -/
def firstText : Segment → String
  | type _ name => name
  | segment => segment.text

end Segment

/-- The steps to a definition, the outermost first. -/
abbrev Path := List Segment

namespace Path

/-- The text of a path: `Type.field(argument:)`, `Enum.VALUE` or `@directive(argument:)`. -/
def text : Path → String
  | [] => ""
  | first :: rest => first.firstText ++ String.join (rest.map Segment.text)

/-- The text of the definitions around a definition; nothing but the schema is around a
definition that stands alone. -/
def ancestryText (path : Path) : String :=
  if path.isEmpty then "<schema>" else path.text

/-- The innermost type on a path. -/
def enclosingType? (path : Path) : Option (Kind × String) :=
  path.reverse.findSome? fun
    | .type kind name => some (kind, name)
    | _ => none

/-- The innermost field on a path. -/
def enclosingField? (path : Path) : Option String :=
  path.reverse.findSome? fun
    | .field name => some name
    | _ => none

end Path

end LinkedSchema
