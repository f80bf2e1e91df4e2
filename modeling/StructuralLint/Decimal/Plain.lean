import StructuralLint.Decimal.Shortest

/-!
# Plain decimal text

Numbers of reports and messages: the fewest digits that read back, the upper of two equally near
decimals, always written positionally, without a fraction where there is none, and with the sign of
a negative zero.
-/

namespace StructuralLint.Decimal

/-- Digits at their decimal place, without an exponent. -/
def Digits.plain (decimal : Digits) : String :=
  let digits := Nat.toDigits 10 decimal.digits
  match decimal.exponent with
  | .ofNat shift => String.ofList (digits ++ List.replicate shift '0')
  | .negSucc shift =>
      let places := shift + 1
      if digits.length ≤ places then
        String.ofList ("0.".toList ++ List.replicate (places - digits.length) '0' ++ digits)
      else
        String.ofList
          (digits.take (digits.length - places) ++ ['.'] ++ digits.drop (digits.length - places))

/-- A double as plain text. -/
def plain (value : Float) : String :=
  if value.isNaN then "NaN"
  else
    let sign := if isNegative value then "-" else ""
    if value.isInf then sign ++ "inf"
    else
      let magnitude := Binary.ofFloat value
      if magnitude.significand == 0 then sign ++ "0" else sign ++ (magnitude.shortest .upper).plain

/-- A double rounded to an integer, ties to even, as plain text. -/
def plainRounded (value : Float) : String :=
  if value.isNaN then "NaN"
  else
    let sign := if isNegative value then "-" else ""
    if value.isInf then sign ++ "inf"
    else sign ++ toString (Binary.ofFloat value).nearest

end StructuralLint.Decimal
