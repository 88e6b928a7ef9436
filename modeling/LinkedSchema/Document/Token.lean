import LinkedSchema.Source.Location
import LinkedSchema.Number.Binary64

/-!
# Tokens

A document is read as a sequence of tokens: marks, names, numbers and texts.  A `Lexeme` is a
token at the position at which it starts.
-/

namespace LinkedSchema.Document

/-- A mark of punctuation. -/
inductive Mark where
  | bang
  | dollar
  | colon
  | equals
  | atSign
  | bar
  | ampersand
  | parenOpen
  | parenClose
  | bracketOpen
  | bracketClose
  | braceOpen
  | braceClose
  | spread
deriving DecidableEq, Inhabited

/-- The mark that a single character is. -/
def Mark.ofChar? (c : Char) : Option Mark :=
  if c = '!' then some .bang
  else if c = '$' then some .dollar
  else if c = ':' then some .colon
  else if c = '=' then some .equals
  else if c = '@' then some .atSign
  else if c = '|' then some .bar
  else if c = '&' then some .ampersand
  else if c = '(' then some .parenOpen
  else if c = ')' then some .parenClose
  else if c = '[' then some .bracketOpen
  else if c = ']' then some .bracketClose
  else if c = '\x7b' then some .braceOpen
  else if c = '\x7d' then some .braceClose
  else none

/-- A token; numbers and texts are given by what they stand for. -/
inductive Token where
  | mark (mark : Mark)
  | name (name : String)
  | int (value : Int)
  | float (value : Binary64)
  | text (value : String)
deriving DecidableEq, Inhabited

/-- A token with the position at which it starts. -/
structure Lexeme where
  token : Token
  position : Position
deriving DecidableEq, Inhabited

end LinkedSchema.Document
