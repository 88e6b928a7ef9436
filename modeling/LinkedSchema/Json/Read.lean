import LinkedSchema.Json.Basic
import LinkedSchema.Document.Literal

/-!
# Reading JSON

`Json.parse?` reads a JSON text.  A number is an integer if it has neither a point nor an
exponent; only minus zero, which no integer is, has a fraction then.  Of a key that is repeated in
an object the last value counts.
-/

namespace LinkedSchema.Json

open LinkedSchema.Document.Literal (hexOf?)

/-- Whether a character may stand between the tokens of a JSON text. -/
def isSpace (c : Char) : Bool := c = ' ' || c = '\t' || c = '\n' || c = '\r'

/-- Characters without the spaces that open them. -/
def skip (cs : List Char) : List Char := cs.dropWhile isSpace

/-- Whether a character may stand in a number. -/
def inNumber (c : Char) : Bool :=
  c.isDigit || c = '-' || c = '+' || c = '.' || c = 'e' || c = 'E'

/-- Whether characters are an exponent: digits after an optional sign. -/
def isExponent : List Char → Bool
  | [] => false
  | c :: rest =>
    if c = '+' || c = '-' then !rest.isEmpty && rest.all Char.isDigit
    else (c :: rest).all Char.isDigit

/-- The number that characters are. -/
def number? (cs : List Char) : Option Json :=
  let mantissa := cs.takeWhile (fun c => !Decimal.isExponentMark c)
  let exponent := cs.dropWhile (fun c => !Decimal.isExponentMark c)
  let whole := mantissa.takeWhile (· ≠ '.')
  let places := mantissa.dropWhile (· ≠ '.')
  if !Document.Literal.isInt whole then none
  else if exponent.isEmpty && places.isEmpty && whole ≠ ['-', '0'] then
    (Document.Literal.intOf? whole).map int
  else if !exponent.isEmpty && !isExponent (exponent.drop 1) then none
  else if !places.isEmpty && !((places.drop 1).all Char.isDigit && 1 < places.length) then none
  else (Binary64.ofText? (String.ofList cs)).map float

/-- Whether a number is the first half of a character that is written in two halves. -/
def isHighHalf (n : Nat) : Bool := 0xD800 ≤ n && n < 0xDC00

/-- Whether a number is the second half of a character that is written in two halves. -/
def isLowHalf (n : Nat) : Bool := 0xDC00 ≤ n && n < 0xE000

/-- The character that a letter after a backslash stands for; a slash may stand for itself. -/
def character? (letter : Char) : Option Char :=
  if letter = '/' then some '/'
  else OrderedMap.lookup letter (escapes.map Prod.swap)

/-- Reads the rest of a text after its opening quote, with what follows the closing one. -/
def readChars : List Char → Option (List Char × List Char)
  | [] => none
  | '"' :: rest => some ([], rest)
  | '\\' :: 'u' :: a :: b :: c :: d :: rest => do
    let high ← hexOf? 0 [a, b, c, d]
    if isHighHalf high then
      match rest with
      | '\\' :: 'u' :: e :: f :: g :: h :: rest => do
        let low ← hexOf? 0 [e, f, g, h]
        if isLowHalf low then
          let (inside, after) ← readChars rest
          return (Char.ofNat (0x10000 + (high - 0xD800) * 0x400 + (low - 0xDC00)) :: inside, after)
        else none
      | _ => none
    else if isLowHalf high then none
    else
      let (inside, after) ← readChars rest
      return (Char.ofNat high :: inside, after)
  | '\\' :: letter :: rest => do
    let character ← character? letter
    let (inside, after) ← readChars rest
    return (character :: inside, after)
  | c :: rest =>
    if c.toNat < 32 || c = '\\' then none
    else (readChars rest).map fun (inside, after) => (c :: inside, after)

/-- Takes the letters of a word that stands for a tree. -/
def word (letters : List Char) (tree : Json) (cs : List Char) : Option (Json × List Char) :=
  if cs.take letters.length = letters then some (tree, cs.drop letters.length) else none

mutual

/-- Reads a tree; `fuel` bounds the steps, of which every character takes at most two. -/
def readTree : (fuel : Nat) → List Char → Option (Json × List Char)
  | 0, _ => none
  | fuel + 1, cs =>
    match skip cs with
    | [] => none
    | '"' :: rest =>
      (readChars rest).map fun (inside, after) => (string (String.ofList inside), after)
    | '[' :: rest =>
      match skip rest with
      | ']' :: after => some (array [], after)
      | rest => (readItems fuel rest).map fun (items, after) => (array items, after)
    | '\x7b' :: rest =>
      match skip rest with
      | '\x7d' :: after => some (object [], after)
      | rest => (readEntries fuel rest).map fun (entries, after) =>
        (object (OrderedMap.ofList entries).entries, after)
    | 't' :: rest => word ['r', 'u', 'e'] (bool true) rest
    | 'f' :: rest => word ['a', 'l', 's', 'e'] (bool false) rest
    | 'n' :: rest => word ['u', 'l', 'l'] null rest
    | cs => (number? (cs.takeWhile inNumber)).map fun tree => (tree, cs.dropWhile inNumber)

/-- Reads the items of an array up to its closing bracket. -/
def readItems : (fuel : Nat) → List Char → Option (List Json × List Char)
  | 0, _ => none
  | fuel + 1, cs => do
    let (first, rest) ← readTree fuel cs
    match skip rest with
    | ',' :: rest =>
      let (items, after) ← readItems fuel rest
      return (first :: items, after)
    | ']' :: after => return ([first], after)
    | _ => none

/-- Reads the entries of an object up to its closing brace. -/
def readEntries : (fuel : Nat) → List Char → Option (List (String × Json) × List Char)
  | 0, _ => none
  | fuel + 1, cs =>
    match skip cs with
    | '"' :: rest => do
      let (key, rest) ← readChars rest
      match skip rest with
      | ':' :: rest =>
        let (first, rest) ← readTree fuel rest
        match skip rest with
        | ',' :: rest =>
          let (entries, after) ← readEntries fuel rest
          return ((String.ofList key, first) :: entries, after)
        | '\x7d' :: after => return ([(String.ofList key, first)], after)
        | _ => none
      | _ => none
    | _ => none

end

/-- The tree that a JSON text stands for. -/
def parse? (text : String) : Option Json :=
  let cs := text.toList
  match readTree (2 * cs.length + 2) cs with
  | some (tree, rest) => if (skip rest).isEmpty then some tree else none
  | none => none

end LinkedSchema.Json
