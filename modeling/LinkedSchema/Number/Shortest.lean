import LinkedSchema.Number.Binary64

/-!
# Shortest decimals

`Shortest.ofMagnitude m q` is the decimal with the fewest digits that reads back to the
double-precision number `m * 2 ^ q`, and of those the nearest to it.  It is found by trying
one digit, two digits and so on: on each decimal grid only the two neighbours of the number
can be nearest to it.
-/

namespace LinkedSchema

/-- The decimal `digits * 10 ^ exponent`. -/
structure Decimal where
  digits : Nat
  exponent : Int
deriving DecidableEq

namespace Shortest

/-- A positive number `value / unit` with the interval of reals that round to it. -/
structure Interval where
  value : Nat
  low : Nat
  high : Nat
  unit : Nat
  closed : Bool

/-- The interval of `m * 2 ^ q`: half a unit of the last place on both sides, but only a
quarter below a power of two.  Its ends round to the number exactly if `m` is even. -/
def interval (m : Nat) (q : Int) : Interval :=
  let step := if 0 ≤ q - 2 then twoPow (q - 2).toNat else 1
  let unit := if 0 ≤ q - 2 then 1 else twoPow (2 - q).toNat
  let below := if m = twoPow 52 ∧ -1074 < q then 1 else 2
  { value := 4 * m * step, low := (4 * m - below) * step, high := (4 * m + 2) * step
    unit := unit, closed := m % 2 == 0 }

/-- The two sides of a comparison of `a / 10 ^ scale` with `b / unit`, as naturals. -/
def sides (a b unit : Nat) (scale : Int) : Nat × Nat :=
  if 0 ≤ scale then (a * unit, b * tenPow scale.toNat)
  else (a * tenPow (-scale).toNat * unit, b)

/-- Whether the decimal `a / 10 ^ scale` reads back to the number of the interval. -/
def Interval.holds (i : Interval) (a : Nat) (scale : Int) : Bool :=
  let (x, low) := sides a i.low i.unit scale
  let (y, high) := sides a i.high i.unit scale
  if i.closed then low ≤ x && y ≤ high else low < x && y < high

/-- The neighbour of the number on the grid of step `1 / 10 ^ scale` that is nearest to it
among those that read back; of two at the same distance the upper one. -/
def nearest? (i : Interval) (scale : Int) : Option Decimal :=
  let (one, whole) := sides 1 i.value i.unit scale
  let below := whole / one
  let rest := whole % one
  let lower := i.holds below scale
  let upper := i.holds (below + 1) scale
  if lower && (!upper || 2 * rest < one) then some ⟨below, -scale⟩
  else if upper then some ⟨below + 1, -scale⟩
  else none

/-- The exponent `p` with `10 ^ (p - 1) ≤ value / unit < 10 ^ p`. -/
def leadingPlace (value unit : Nat) : Int :=
  if unit ≤ value then (Nat.toDigits 10 (value / unit)).length
  else
    let zeros := (List.range 400).find? (fun j => unit ≤ value * tenPow (j + 1))
    Int.negOfNat (zeros.getD 0)

/-- A decimal without trailing zeros among its digits; `fuel` bounds the zeros removed. -/
def strip : Nat → Decimal → Decimal
  | 0, d => d
  | fuel + 1, d =>
    if d.digits ≠ 0 ∧ d.digits % 10 = 0 then strip fuel ⟨d.digits / 10, d.exponent + 1⟩ else d

/-- The shortest decimal that reads back to the positive number `m * 2 ^ q`. -/
def ofMagnitude (m : Nat) (q : Int) : Decimal :=
  let i := interval m q
  let top := leadingPlace i.value i.unit
  let found := (List.range 17).findSome? (fun (n : Nat) => nearest? i ((n : Int) + 1 - top))
  strip 20 (found.getD ⟨0, 0⟩)

end Shortest

/-- A decimal written with all its places and no exponent. -/
def Decimal.positional (d : Decimal) : String :=
  let digits := Nat.toDigits 10 d.digits
  if 0 ≤ d.exponent then
    String.ofList (digits ++ List.replicate d.exponent.toNat '0')
  else
    let places := (-d.exponent).toNat
    let padded := List.replicate (places + 1 - digits.length) '0' ++ digits
    let whole := padded.length - places
    String.ofList (padded.take whole ++ '.' :: padded.drop whole)

/-- The text of a number: the fewest digits that read back to it, written with all places. -/
def Binary64.text (x : Binary64) : String :=
  match x.view with
  | .nan => "NaN"
  | .infinite negative => if negative then "-inf" else "inf"
  | .finite negative m q =>
    let sign := if negative then "-" else ""
    if m = 0 then sign ++ "0" else sign ++ (Shortest.ofMagnitude m q).positional

end LinkedSchema
