import LinkedSchema.Number.Power

/-!
# Double-precision numbers

`Binary64` is a double-precision number given by its 64 bits.  `Binary64.view` reads the bits
as a sign and a magnitude `m * 2 ^ q`; `Binary64.ofRatio` is the number nearest to a quotient
of natural numbers, a tie going to the even significand.
-/

namespace LinkedSchema

/-- A double-precision number, as its bits. -/
structure Binary64 where
  bits : UInt64
deriving DecidableEq

namespace Binary64

instance : Inhabited Binary64 := ⟨⟨0⟩⟩

/-- What the bits of a number stand for.  A finite number has magnitude `m * 2 ^ q`. -/
inductive View where
  | nan
  | infinite (negative : Bool)
  | finite (negative : Bool) (m : Nat) (q : Int)
deriving DecidableEq

/-- The sign bit. -/
def negative (x : Binary64) : Bool := x.bits.toNat / twoPow 63 == 1

/-- The eleven bits of the exponent. -/
def exponentBits (x : Binary64) : Nat := x.bits.toNat / twoPow 52 % twoPow 11

/-- The fifty-two bits of the fraction. -/
def fractionBits (x : Binary64) : Nat := x.bits.toNat % twoPow 52

/-- The number that the bits stand for. -/
def view (x : Binary64) : View :=
  if x.exponentBits = 2047 then
    if x.fractionBits = 0 then .infinite x.negative else .nan
  else if x.exponentBits = 0 then .finite x.negative x.fractionBits (-1074)
  else .finite x.negative (twoPow 52 + x.fractionBits) ((x.exponentBits : Int) - 1075)

/-- The bits of infinity, which also bound the bits of all finite magnitudes. -/
def infinityBits : Nat := 2047 * twoPow 52

/-- The number with the given sign whose other bits are `magnitude`. -/
def ofBits (negative : Bool) (magnitude : Nat) : Binary64 :=
  ⟨UInt64.ofNat ((if negative then twoPow 63 else 0) + magnitude)⟩

/-- Infinity with the given sign. -/
def infinity (negative : Bool) : Binary64 := ofBits negative infinityBits

/-- The number that is not a number. -/
def nan : Binary64 := ofBits false (infinityBits + twoPow 51)

/-- The natural number nearest to `num / den`, a tie going to the even neighbour. -/
def roundHalfEven (num den : Nat) : Nat :=
  let floor := num / den
  let twice := 2 * (num % den)
  if twice < den then floor
  else if den < twice then floor + 1
  else floor + floor % 2

/-- The quotient `num / den` divided by `2 ^ q`, as a numerator and a denominator. -/
def scaleDown (num den : Nat) (q : Int) : Nat × Nat :=
  if 0 ≤ q then (num, den * twoPow q.toNat) else (num * twoPow (-q).toNat, den)

/-- The exponent of the last place of the number nearest to `num / den`: the quotient lies
between `2 ^ 52` and `2 ^ 53` of these units, unless the exponent is the least there is. -/
def lastPlace (num den : Nat) : Int :=
  let low : Int := (Nat.log2 num : Int) - Nat.log2 den - 53
  let (n, d) := scaleDown num den low
  max (if n / d < twoPow 53 then low else low + 1) (-1074)

/-- The number nearest to `num / den`, a tie going to the even significand; beyond the
largest finite number it is infinity. -/
def ofRatio (negative : Bool) (num den : Nat) : Binary64 :=
  if num = 0 then ofBits negative 0
  else
    let q := lastPlace num den
    let (n, d) := scaleDown num den q
    ofBits negative (min infinityBits ((q + 1074).toNat * twoPow 52 + roundHalfEven n d))

/-- The number nearest to `digits * 10 ^ exponent`.  Magnitudes that are far out of range are
settled by their count of digits, so that no large power of ten is formed. -/
def ofDecimal (negative : Bool) (digits : Nat) (exponent : Int) : Binary64 :=
  let top : Int := (Nat.toDigits 10 digits).length + exponent
  if digits = 0 ∨ top < -330 then ofBits negative 0
  else if 310 < top then infinity negative
  else if 0 ≤ exponent then ofRatio negative (digits * tenPow exponent.toNat) 1
  else ofRatio negative digits (tenPow (-exponent).toNat)

/-- Whether two numbers are equal as numbers: a number that is not a number equals nothing,
and the two zeros are equal. -/
def same (x y : Binary64) : Bool :=
  match x.view, y.view with
  | .nan, _ => false
  | _, .nan => false
  | .finite _ 0 _, .finite _ 0 _ => true
  | a, b => a == b

end Binary64

end LinkedSchema
