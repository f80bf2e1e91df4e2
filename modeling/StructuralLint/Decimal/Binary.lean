/-!
# Binary fractions

A finite double is an integer times a power of two. This module reads the two off the bits of a
double, so that all decimal text is computed in exact integer arithmetic.
-/

namespace StructuralLint.Decimal

/-- The magnitude of a finite double: `significand * 2 ^ exponent`. -/
structure Binary where
  significand : Nat
  exponent : Int
deriving DecidableEq, Repr

namespace Binary

/-- The magnitude of a double that is finite. -/
def ofFloat (value : Float) : Binary :=
  let bits := value.toBits.toNat
  let fraction := bits % Nat.pow 2 52
  let scale := bits / Nat.pow 2 52 % Nat.pow 2 11
  if scale == 0 then { significand := fraction, exponent := -1074 }
  else { significand := Nat.pow 2 52 + fraction, exponent := Int.ofNat scale - 1075 }

/-- The magnitude as a quotient of integers. -/
def quotient (magnitude : Binary) : Nat × Nat :=
  match magnitude.exponent with
  | .ofNat shift => (magnitude.significand * Nat.pow 2 shift, 1)
  | .negSucc shift => (magnitude.significand, Nat.pow 2 (shift + 1))

/-- The nearest integer; a value halfway between two goes to the even one. -/
def nearest (magnitude : Binary) : Nat :=
  let (numerator, denominator) := magnitude.quotient
  let floor := numerator / denominator
  match compare (2 * (numerator % denominator)) denominator with
  | .lt => floor
  | .gt => floor + 1
  | .eq => if floor % 2 == 0 then floor else floor + 1

end Binary

/-- Whether the sign bit of a double is set. -/
def isNegative (value : Float) : Bool :=
  value.toBits.toNat / Nat.pow 2 63 == 1

/-- Whether a finite double has no fractional part. -/
def isWhole (value : Float) : Bool :=
  value == value.floor

end StructuralLint.Decimal
