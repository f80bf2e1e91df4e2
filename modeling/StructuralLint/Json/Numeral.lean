import StructuralLint.Json.Value

/-!
# Numerals of JSON

A numeral without fraction and exponent that fits 64 bits is an integer. Every other numeral is read
as a double in three steps: its digits fill a 64-bit significand as long as they fit, the
significand is rounded to a double, and that double is multiplied or divided once by a power of ten.
The last step may miss the nearest double by a unit in the last place; readers that must agree on
the bits have to take the same steps.
-/

namespace StructuralLint.Json

/--
The parts of a numeral: digits before and after the point, and sign and digits of the exponent.
-/
structure Numeral where
  negative : Bool
  whole : List Nat
  fraction : Option (List Nat)
  exponent : Option (Bool × List Nat)

namespace Numeral

/-- A significand of at most 64 bits, times a power of ten. -/
structure Scaled where
  significand : Nat
  exponent : Int

/-- Whether one more digit no longer fits the significand. -/
def overflows (significand digit : Nat) : Bool :=
  UInt64.size ≤ significand * 10 + digit

/--
Takes in the digits before the point. From the first that does not fit, each raises the
exponent.
-/
def takeWhole (scaled : Scaled) (full : Bool) : List Nat → Scaled
  | [] => scaled
  | digit :: rest =>
      if full || overflows scaled.significand digit then
        takeWhole { scaled with exponent := scaled.exponent + 1 } true rest
      else takeWhole { scaled with significand := scaled.significand * 10 + digit } false rest

/-- Takes in the digits after the point, up to the first that does not fit. -/
def takeFraction (scaled : Scaled) : List Nat → Scaled
  | [] => scaled
  | digit :: rest =>
      if overflows scaled.significand digit then scaled
      else
        takeFraction
          { significand := scaled.significand * 10 + digit, exponent := scaled.exponent - 1 } rest

/-- The number that a list of decimal digits denotes. -/
def ofDigits (digits : List Nat) : Nat :=
  digits.foldl (fun value digit => value * 10 + digit) 0

/-- A power of ten, rounded to a double. -/
def powerOfTen (exponent : Nat) : Float :=
  Float.ofScientific 1 false exponent

/--
Multiplies by a power of ten with a negative exponent, in steps that stay within the powers that
are doubles.
-/
def divide : Nat → Float → Nat → Float
  | 0, value, _ => value
  | fuel + 1, value, places =>
      if places ≤ 308 then value / powerOfTen places
      else if value == 0 then value
      else divide fuel (value / powerOfTen 308) (places - 308)

/-- The double that a significand times a power of ten is read as, or nothing beyond all doubles. -/
def Scaled.toFloat? (scaled : Scaled) : Option Float :=
  let value := scaled.significand.toUInt64.toFloat
  match scaled.exponent with
  | .ofNat places =>
      if places ≤ 308 then
        let product := value * powerOfTen places
        if product.isInf then none else some product
      else if value == 0 then some value
      else none
  | .negSucc places => some (divide 4 value (places + 1))

/-- The largest exponent that is added up; a larger one gives zero or is out of range. -/
def exponentLimit : Nat := 2147483647

/-- The magnitude of a numeral that is read as a double. -/
def magnitude? (numeral : Numeral) : Option Float :=
  let scaled :=
    takeFraction (takeWhole { significand := 0, exponent := 0 } false numeral.whole)
      (numeral.fraction.getD [])
  match numeral.exponent with
  | none => scaled.toFloat?
  | some (negative, digits) =>
      let shift := ofDigits digits
      if exponentLimit < shift then
        if scaled.significand != 0 && !negative then none else some 0
      else
        let exponent :=
          if negative then scaled.exponent - Int.ofNat shift else scaled.exponent + Int.ofNat shift
        Scaled.toFloat? { scaled with exponent }

/-- The value of a numeral that is read as a double. -/
def toFloat? (numeral : Numeral) : Option Float :=
  numeral.magnitude?.map fun magnitude => if numeral.negative then -magnitude else magnitude

/--
The value of a numeral: an integer where it has neither fraction nor exponent and fits 64 bits,
else a double. A negative zero is a double, since no integer has its sign.
-/
def value (numeral : Numeral) : Json :=
  let whole := ofDigits numeral.whole
  let plain := numeral.fraction.isNone && numeral.exponent.isNone
  if plain && !numeral.negative && whole < UInt64.size then .int (Int.ofNat whole)
  else if plain && numeral.negative && 0 < whole && whole ≤ Nat.pow 2 63 then
    .int (-Int.ofNat whole)
  else
    match numeral.toFloat? with
    | some value => .float value
    | none => .unreadable

end Numeral

end StructuralLint.Json
