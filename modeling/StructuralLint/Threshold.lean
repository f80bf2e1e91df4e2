import StructuralLint.Decimal.Plain

/-!
# Thresholds

A rule declares the numbers that it can be configured with: a name, a default, bounds, and whether
only whole numbers make sense.
-/

namespace StructuralLint

/-- A number that a rule can be configured with. -/
structure Threshold where
  name : String
  default : Float
  least : Float
  most : Option Float
  /-- Only whole numbers are accepted. -/
  isInteger : Bool

namespace Threshold

/-- A whole number that is not negative. -/
def count (name : String) (default : Float) : Threshold :=
  { name, default, least := 0, most := none, isInteger := true }

/-- A number between two bounds. -/
def real (name : String) (default least most : Float) : Threshold :=
  { name, default, least, most := some most, isInteger := false }

/-- Why a value is not acceptable. -/
inductive Refusal where
  | notFinite
  | notWhole (value : Float)
  | belowLeast (least value : Float)
  | aboveMost (most value : Float)

/-- A refusal in words. -/
def Refusal.message : Refusal → String
  | notFinite => "must be a finite number"
  | notWhole value => "must be a whole number, got " ++ Decimal.plain value
  | belowLeast least value =>
      "must be at least " ++ Decimal.plain least ++ ", got " ++ Decimal.plain value
  | aboveMost most value =>
      "must be at most " ++ Decimal.plain most ++ ", got " ++ Decimal.plain value

/-- Why a value is refused, or nothing if it is accepted. -/
def refusal? (threshold : Threshold) (value : Float) : Option Refusal :=
  if !value.isFinite then some .notFinite
  else if threshold.isInteger && !Decimal.isWhole value then some (.notWhole value)
  else if value < threshold.least then some (.belowLeast threshold.least value)
  else
    match threshold.most with
    | some most => if value > most then some (.aboveMost most value) else none
    | none => none

end Threshold

end StructuralLint
