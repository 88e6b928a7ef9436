import LinkedSchema.Document.Token
import LinkedSchema.Number.Decimal
import LinkedSchema.Text.Blank

/-!
# Literals

What the characters of a number or a text stand for.  A run of characters that looks like a
literal and breaks its rules stands for nothing.
-/

namespace LinkedSchema.Document.Literal

/-! ### Numbers -/

/-- Whether a character ends a number. -/
def endsNumber (c : Char) : Bool :=
  c = ' ' || c = '\n' || c = '\r' || c = '\t' || c = ',' || c = '#' || (Mark.ofChar? c).isSome

/-- Whether characters are digits without a superfluous leading zero. -/
def isPlainInt (cs : List Char) : Bool :=
  match cs with
  | [] => false
  | ['0'] => true
  | c :: rest => c != '0' && c.isDigit && rest.all Char.isDigit

/-- Whether characters are an integer: digits after an optional minus sign. -/
def isInt (cs : List Char) : Bool :=
  match cs with
  | '-' :: rest => isPlainInt rest
  | _ => isPlainInt cs

/-- Whether characters are an exponent: a sign and digits, or digits of which the first is
neither zero nor nine. -/
def isExponent (cs : List Char) : Bool :=
  match cs with
  | [] => false
  | c :: rest =>
    if c = '+' || c = '-' then !rest.isEmpty && rest.all Char.isDigit
    else '1' ≤ c && c ≤ '8' && rest.all Char.isDigit

/-- Splits characters at the last one that satisfies `p`, which belongs to neither part. -/
def splitLast? (p : Char → Bool) (cs : List Char) : Option (List Char × List Char) :=
  let after := cs.reverse.takeWhile (fun c => !p c)
  match cs.reverse.dropWhile (fun c => !p c) with
  | [] => none
  | _ :: before => some (before.reverse, after.reverse)

/-- Whether characters are digits with a point among them. -/
def isPointed (cs : List Char) : Bool :=
  match splitLast? (· = '.') cs with
  | none => false
  | some (whole, places) => isInt whole && !places.isEmpty && places.all Char.isDigit

/-- Whether characters are a number with a point, an exponent or both. -/
def isFloat (cs : List Char) : Bool :=
  match splitLast? Decimal.isExponentMark cs with
  | none => isPointed cs
  | some (mantissa, exponent) => (isInt mantissa || isPointed mantissa) && isExponent exponent

/-- The integer that digits after an optional minus sign stand for. -/
def intOf? (cs : List Char) : Option Int :=
  match cs with
  | '-' :: rest => (Decimal.natOfDigits? rest).map fun n => -(n : Int)
  | _ => (Decimal.natOfDigits? cs).map Int.ofNat

/-- Whether an integer fits into sixty-four bits. -/
def isWord (n : Int) : Bool := -9223372036854775808 ≤ n && n ≤ 9223372036854775807

/-- The token that the characters of a number stand for. -/
def number? (cs : List Char) : Option Token :=
  if (cs.drop 1).any (fun c => c = '.' || Decimal.isExponentMark c) then
    if isFloat cs then (Binary64.ofText? (String.ofList cs)).map .float else none
  else if isInt cs then
    (intOf? cs).bind fun n => if isWord n then some (.int n) else none
  else none

/-! ### Texts on one line -/

/-- The value of a digit in base sixteen. -/
def hexValue? (c : Char) : Option Nat :=
  if c.isDigit then some (c.toNat - '0'.toNat)
  else if 'a' ≤ c && c ≤ 'f' then some (c.toNat - 'a'.toNat + 10)
  else if 'A' ≤ c && c ≤ 'F' then some (c.toNat - 'A'.toNat + 10)
  else none

/-- The value of digits in base sixteen, read after `value`. -/
def hexOf? : Nat → List Char → Option Nat
  | value, [] => some value
  | value, c :: rest => (hexValue? c).bind fun digit => hexOf? (16 * value + digit) rest

/-- The character that the four characters of a code point stand for: digits in base sixteen,
of which a plus sign may take the first place.  A surrogate is no character. -/
def codePoint? (a b c d : Char) : Option Char :=
  let digits := if a = '+' then [b, c, d] else [a, b, c, d]
  (hexOf? 0 digits).bind fun n => if n.isValidChar then some (Char.ofNat n) else none

/-- The character that a letter after a backslash stands for. -/
def escaped? (c : Char) : Option Char :=
  if c = '"' || c = '\\' || c = '/' then some c
  else if c = 'b' then some '\x10'
  else if c = 'f' then some '\x0c'
  else if c = 'n' then some '\n'
  else if c = 'r' then some '\r'
  else if c = 't' then some '\t'
  else none

/-- The characters that the inside of a text on one line stands for. -/
def unescape? : List Char → Option (List Char)
  | [] => some []
  | '\\' :: 'u' :: a :: b :: c :: d :: rest => do
    let character ← codePoint? a b c d
    return character :: (← unescape? rest)
  | '\\' :: c :: rest => do
    let character ← escaped? c
    return character :: (← unescape? rest)
  | c :: rest => if c = '\\' then none else (unescape? rest).map (c :: ·)

/-- The number of characters before the quote that ends a text on one line; `escaped` says
whether a backslash stands before the characters. -/
def lineLength? : (escaped : Bool) → List Char → Option Nat
  | _, [] => none
  | escaped, c :: rest =>
    if c = '\n' then none
    else if c = '"' && !escaped then some 0
    else (lineLength? (!escaped && c = '\\') rest).map (· + 1)

/-! ### Texts in a block -/

/-- The number of characters before the three quotes that end a text in a block; `before` is
the character before them.  Three quotes after a backslash do not end it. -/
def blockLength? : (before : Char) → List Char → Option Nat
  | _, [] => none
  | before, '"' :: '"' :: '"' :: rest =>
    if before = '\\' then (blockLength? '"' rest).map (· + 3) else some 0
  | _, c :: rest => (blockLength? c rest).map (· + 1)

/-- A line without the carriage return at its end. -/
def dropReturn (line : List Char) : List Char :=
  if line.getLast? = some '\r' then line.dropLast else line

/-- The lines of a text, of which `line` has been read in reverse; a carriage return before a
line feed is dropped, and no line follows a last line feed. -/
def linesFrom : (line : List Char) → List Char → List (List Char)
  | line, [] => if line.isEmpty then [] else [line.reverse]
  | line, c :: rest =>
    if c = '\n' then dropReturn line.reverse :: linesFrom [] rest
    else linesFrom (c :: line) rest

/-- Whether a line holds nothing but blanks. -/
def isBlankLine (line : List Char) : Bool := line.all Text.isBlank

/-- The number of bytes of a list of characters. -/
def byteCount : List Char → Nat
  | [] => 0
  | c :: rest => c.utf8Size + byteCount rest

/-- The number of bytes of the blanks that open a line. -/
def indent (line : List Char) : Nat := byteCount (line.takeWhile Text.isBlank)

/-- Characters without their first `count` bytes. -/
def dropBytes : (count : Nat) → List Char → List Char
  | _, [] => []
  | 0, cs => cs
  | count + 1, c :: rest => dropBytes (count + 1 - c.utf8Size) rest

/-- The least indent of the lines after the first that are not blank. -/
def commonIndent (lines : List (List Char)) : Nat :=
  (((lines.drop 1).filter (fun line => !isBlankLine line)).map indent).min?.getD 0

/-- A line of a block in which a backslash before three quotes is dropped. -/
def unescapeQuotes : List Char → List Char
  | '\\' :: '"' :: '"' :: '"' :: rest => '"' :: '"' :: '"' :: unescapeQuotes rest
  | c :: rest => c :: unescapeQuotes rest
  | [] => []

/-- Lines without the blank ones at both ends. -/
def trimBlank (lines : List (List Char)) : List (List Char) :=
  ((lines.dropWhile isBlankLine).reverse.dropWhile isBlankLine).reverse

/-- The characters that the inside of a block stands for: its lines without the indent that
all but the first of them share, and without blank lines at both ends. -/
def blockText (cs : List Char) : List Char :=
  let lines := linesFrom [] cs
  let common := commonIndent lines
  let shifted := lines.take 1 ++ (lines.drop 1).map fun line =>
    if common ≤ byteCount line then dropBytes common line else line
  List.intercalate ['\n'] ((trimBlank shifted).map unescapeQuotes)

end LinkedSchema.Document.Literal
