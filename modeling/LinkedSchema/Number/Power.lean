/-!
# Powers

The powers of two and of ten, between which decimals and double-precision numbers are compared.
-/

namespace LinkedSchema

/-- The power of two with an exponent. -/
def twoPow (n : Nat) : Nat := Nat.pow 2 n

/-- The power of ten with an exponent. -/
def tenPow (n : Nat) : Nat := Nat.pow 10 n

end LinkedSchema
