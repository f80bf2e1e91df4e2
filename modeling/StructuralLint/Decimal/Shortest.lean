import StructuralLint.Decimal.Binary

/-!
# The fewest digits that read back

Of all decimals that round to a given double, the one with the fewest digits, and among those the
nearest; where two are equally near, the format of the text says which. Decimals of `n` digits lie
on a grid of step `10 ^ (k - n)`; if a point of the grid rounds to the double, then so does one of
the two grid points next to it, so only these are tried, for one digit, two digits, and so on.
Seventeen digits always suffice.
-/

namespace StructuralLint.Decimal

/-- A positive decimal: `digits * 10 ^ exponent`. -/
structure Digits where
  digits : Nat
  exponent : Int
deriving DecidableEq, Repr

/-- Which of two equally near neighbours on a grid is taken. -/
inductive Tie where
  | upper
  /-- The one whose last digit is even. -/
  | even
deriving DecidableEq, Repr

/-- Whether a tie above a grid point goes to its upper neighbour. -/
def Tie.goesUp (tie : Tie) (floor : Nat) : Bool :=
  match tie with
  | upper => true
  | even => floor % 2 == 1

namespace Shortest

/-- The values that round to a double, scaled by `scale`: an interval around `value`. -/
structure Interval where
  low : Nat
  value : Nat
  high : Nat
  scale : Nat
  /-- Whether the ends themselves round to the double. -/
  closed : Bool

/--
The interval of values that round to a positive double. Below a power of two the neighbours lie
closer together.
-/
def Interval.ofBinary (magnitude : Binary) : Interval :=
  let narrow := magnitude.significand == Nat.pow 2 52 && magnitude.exponent != -1074
  let low := 4 * magnitude.significand - if narrow then 1 else 2
  let value := 4 * magnitude.significand
  let high := 4 * magnitude.significand + 2
  let closed := magnitude.significand % 2 == 0
  match magnitude.exponent - 2 with
  | .ofNat shift =>
      { low := low * Nat.pow 2 shift, value := value * Nat.pow 2 shift,
        high := high * Nat.pow 2 shift, scale := 1,
        closed }
  | .negSucc shift => { low, value, high, scale := Nat.pow 2 (shift + 1), closed }

/-- Both sides of a comparison with `count * 10 ^ exponent`, as integers. -/
def Interval.align (interval : Interval) (exponent : Int) (count : Nat) : Nat × Nat :=
  match exponent with
  | .ofNat shift => (count * Nat.pow 10 shift * interval.scale, 1)
  | .negSucc shift => (count * interval.scale, Nat.pow 10 (shift + 1))

/-- Whether a decimal rounds to the double of the interval. -/
def Interval.contains (interval : Interval) (decimal : Digits) : Bool :=
  let (point, factor) := interval.align decimal.exponent decimal.digits
  let low := interval.low * factor
  let high := interval.high * factor
  if interval.closed then low ≤ point && point ≤ high else low < point && point < high

/-- The largest multiple of `10 ^ exponent` that is not above the value. -/
def Interval.floorAt (interval : Interval) (exponent : Int) : Nat :=
  match exponent with
  | .ofNat shift => interval.value / (interval.scale * Nat.pow 10 shift)
  | .negSucc shift => interval.value * Nat.pow 10 (shift + 1) / interval.scale

/--
Whether the upper of two neighbouring multiples of `10 ^ exponent` is taken: it is the nearer
one, or as near and the tie goes to it.
-/
def Interval.takesUpper (interval : Interval) (tie : Tie) (exponent : Int) (floor : Nat) : Bool :=
  let (middle, factor) := interval.align exponent (2 * floor + 1)
  match compare middle (2 * interval.value * factor) with
  | .lt => true
  | .eq => tie.goesUp floor
  | .gt => false

/-- The decimal on the grid of step `10 ^ exponent` that rounds to the double, if there is one. -/
def Interval.onGrid? (interval : Interval) (tie : Tie) (exponent : Int) : Option Digits :=
  let floor := interval.floorAt exponent
  let lower : Digits := { digits := floor, exponent }
  let upper : Digits := { digits := floor + 1, exponent }
  match interval.contains lower, interval.contains upper with
  | true, true => some (if interval.takesUpper tie exponent floor then upper else lower)
  | true, false => some lower
  | false, true => some upper
  | false, false => none

/--
The number of digits before the decimal point of a positive value: the least `k` with
`value < 10 ^ k`, searched for upwards from `start`.
-/
def Interval.magnitude (interval : Interval) : Nat → Int → Int
  | 0, start => start
  | fuel + 1, start =>
      if interval.floorAt start == 0 then start else interval.magnitude fuel (start + 1)

/-- Tries grids of one digit more each, and ends with all digits. -/
def Interval.search (interval : Interval) (tie : Tie) : Nat → Int → Digits
  | 0, exponent => { digits := interval.floorAt exponent, exponent }
  | fuel + 1, exponent =>
      match interval.onGrid? tie exponent with
      | some decimal => decimal
      | none => interval.search tie fuel (exponent - 1)

end Shortest

/-- Moves the zeros at the end of the digits into the exponent. -/
def Digits.normalize : Nat → Digits → Digits
  | 0, decimal => decimal
  | fuel + 1, decimal =>
      if decimal.digits != 0 && decimal.digits % 10 == 0 then
        Digits.normalize fuel { digits := decimal.digits / 10, exponent := decimal.exponent + 1 }
      else decimal

/-- The shortest decimal that rounds to a positive double. -/
def Binary.shortest (magnitude : Binary) (tie : Tie) : Digits :=
  let interval := Shortest.Interval.ofBinary magnitude
  let places := interval.magnitude 640 (-324)
  Digits.normalize 20 (interval.search tie 17 (places - 1))

end StructuralLint.Decimal
