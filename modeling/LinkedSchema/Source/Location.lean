/-!
# Source locations

A `Position` is a line and a column of a text, both counted from one.  A `Location` says where
a definition, or a reference to one, comes from: it is either built into the language, or
stands at a position of a source that may have a file name.
-/

namespace LinkedSchema

/-- A line and a column of a text. -/
structure Position where
  line : Nat
  column : Nat
deriving DecidableEq, Inhabited

/-- The text `line:column`. -/
def Position.text (p : Position) : String := toString p.line ++ ":" ++ toString p.column

/-- Where a definition or a reference comes from. -/
inductive Location where
  | builtIn
  | source (file : Option String) (position : Position)
deriving DecidableEq, Inhabited

namespace Location

/-- The name of the file of a location. -/
def file : Location → Option String
  | .builtIn => none
  | .source file _ => file

/-- The location in the same file at another position. -/
def moveTo (l : Location) (position : Position) : Location := .source l.file position

/-- Whether a location is built into the language. -/
def isBuiltIn (l : Location) : Bool := l == .builtIn

/-- The text of a location, `file:line:column` or `line:column`. -/
def text : Location → String
  | .builtIn => "<graphql built-in>"
  | .source none position => position.text
  | .source (some file) position => file ++ ":" ++ position.text

end Location

end LinkedSchema
