import LinkedSchema.Text.Unprintable
import LinkedSchema.Text.GraphemeExtend

/-!
# Quoted text

`quote` writes a text between double quotes so that it can be read on one line: the quote and
the backslash, the usual controls, and every character that is unprintable or joins the one
before it are written as escapes, and everything else stands for itself.
-/

namespace LinkedSchema.Text

/-- The digits of a natural number in base sixteen, in lower case. -/
def hexDigits (n : Nat) : List Char := Nat.toDigits 16 n

/-- The escape that names a character by its code point. -/
def codePointEscape (c : Char) : List Char :=
  ['\\', 'u', '\x7b'] ++ hexDigits c.toNat ++ ['\x7d']

/-- The characters that stand for `c` within quotes. -/
def escape (c : Char) : List Char :=
  if c = '"' then ['\\', '"']
  else if c = '\\' then ['\\', '\\']
  else if c = '\n' then ['\\', 'n']
  else if c = '\r' then ['\\', 'r']
  else if c = '\t' then ['\\', 't']
  else if c = '\x00' then ['\\', '0']
  else if isPrintable c && !joinsPrevious c then [c]
  else codePointEscape c

/-- A text between double quotes, each character escaped on its own. -/
def quote (text : String) : String :=
  String.ofList ('"' :: text.toList.flatMap escape ++ ['"'])

end LinkedSchema.Text
