import StructuralLint.Rule.Basic

/-!
# Functions that are too large

Functions with too many lines, control statements nested too deep, or too many parameters. The
severity grows with the overshoot.
-/

namespace StructuralLint.Rule

/-- The violation of a measure above its limit. -/
def aboveLimit (context : Context) (ruleId : String) (limit : Threshold) (node : Node)
    (measure : Nat) (message : String → String → String) : List Violation :=
  let most := context.threshold limit
  let value := Float.ofNat measure
  if value ≤ most then []
  else
    [context.violation ruleId (Severity.scaled value most) node
      (message (toString measure) (Decimal.plain most))]

/-- The largest number of lines of a function. -/
def maxFunctionLines : Threshold := .count "maxFunctionLines" 40

/-- Functions with too many lines. -/
def longFunction : Rule where
  id := "LongFunction"
  description := "Detects functions with too many lines"
  category := .functions
  kinds := [.function]
  thresholds := [maxFunctionLines]
  evaluate context node :=
    .ok (match context.metrics.get? node.id .lineCount with
      | none => []
      | some lines =>
          aboveLimit context "LongFunction" maxFunctionLines node lines fun lines most =>
            "Function " ++ quoted node.nameText ++ " is " ++ lines ++ " lines long (max " ++ most ++
              "); extract smaller functions")

/-- The deepest nesting of control statements. -/
def maxNestingDepth : Threshold := .count "maxNestingDepth" 3

/-- Functions whose control statements nest too deep. -/
def deepNesting : Rule where
  id := "DeepNesting"
  description := "Detects deeply nested control flow"
  category := .functions
  kinds := [.function]
  thresholds := [maxNestingDepth]
  evaluate context node :=
    .ok (aboveLimit context "DeepNesting" maxNestingDepth node
      (context.metrics.count node.id .nestingDepth) fun depth most =>
        "Function " ++ quoted node.nameText ++ " nests control flow " ++ depth ++
          " levels deep (max " ++ most ++ "); use guard clauses or extract the inner blocks")

/-- The largest number of parameters. -/
def maxParams : Threshold := .count "maxParams" 3

/-- Functions with too many parameters. -/
def tooManyArguments : Rule where
  id := "TooManyArguments"
  description := "Detects functions with long parameter lists"
  category := .functions
  kinds := [.function]
  thresholds := [maxParams]
  evaluate context node :=
    .ok (aboveLimit context "TooManyArguments" maxParams node
      (context.metrics.count node.id .paramCount) fun count most =>
        let names := (context.model.parameters node.id).map (·.nameText)
        "Function " ++ quoted node.nameText ++ " takes " ++ count ++ " parameters (max " ++ most ++
          "): " ++ ", ".intercalate names ++ "; group related ones into an object")

end StructuralLint.Rule
