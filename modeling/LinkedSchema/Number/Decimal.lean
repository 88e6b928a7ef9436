import LinkedSchema.Number.Binary64

/-!
# Reading decimals

`Binary64.ofText?` reads a decimal: an optional sign, digits with an optional point among
them, and an optional exponent.  The result is the number nearest to the decimal.
-/

namespace LinkedSchema

namespace Decimal

/-- The value of a list of decimal digits, none if it holds anything else. -/
def natOfDigits? (cs : List Char) : Option Nat :=
  cs.foldl (fun value c =>
    value.bind fun n => if c.isDigit then some (10 * n + (c.toNat - '0'.toNat)) else none)
    (some 0)

/-- Reads an exponent: an optional sign and at least one digit. -/
def exponent? : List Char → Option Int
  | [] => none
  | c :: rest =>
    if c = '-' then if rest.isEmpty then none else (natOfDigits? rest).map fun n => -(n : Int)
    else if c = '+' then if rest.isEmpty then none else (natOfDigits? rest).map Int.ofNat
    else (natOfDigits? (c :: rest)).map Int.ofNat

/-- Whether a character opens an exponent. -/
def isExponentMark (c : Char) : Bool := c = 'e' || c = 'E'

/-- Reads digits with an optional point and an optional exponent, as the number nearest to
them with the given sign. -/
def magnitude? (negative : Bool) (cs : List Char) : Option Binary64 :=
  let mantissa := cs.takeWhile (fun c => !isExponentMark c)
  let tail := cs.dropWhile (fun c => !isExponentMark c)
  let whole := mantissa.takeWhile (· ≠ '.')
  let places := (mantissa.dropWhile (· ≠ '.')).drop 1
  if whole.isEmpty && places.isEmpty then none
  else do
    let exponent ← if tail.isEmpty then some 0 else exponent? (tail.drop 1)
    let digits ← natOfDigits? (whole ++ places)
    return Binary64.ofDecimal negative digits (exponent - places.length)

end Decimal

/-- The number that a text of the form `12.5e-3`, `inf`, `-inf` or `NaN` stands for. -/
def Binary64.ofText? (text : String) : Option Binary64 :=
  if text = "NaN" then some Binary64.nan
  else if text = "inf" then some (Binary64.infinity false)
  else if text = "-inf" then some (Binary64.infinity true)
  else
    match text.toList with
    | '-' :: cs => Decimal.magnitude? true cs
    | '+' :: cs => Decimal.magnitude? false cs
    | cs => Decimal.magnitude? false cs

end LinkedSchema
