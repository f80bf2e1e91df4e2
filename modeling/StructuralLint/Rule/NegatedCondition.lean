import StructuralLint.Rule.Basic

/-!
# Negated conditions

A negated condition with an alternative reads better the other way round.
-/

namespace StructuralLint.Rule

/-- Operators that negate. -/
def negations : List String := ["!", "not"]

/-- Negated conditions that have an alternative. -/
def negativeConditional : Rule where
  id := "NegativeConditional"
  description := "Detects negated conditions that have an else branch"
  category := .structural
  severity := .low
  kinds := [.statement]
  evaluate context node :=
    let found : Option Violation := do
      guard (node.isStatement .ifElse && 3 ≤ node.children.length)
      let condition ← context.model.child? node.id 0
      guard (condition.isExpression .unary && condition.operator.any negations.contains)
      return context.violation "NegativeConditional" .low condition
        "Negated condition with an else branch; swap the branches and test the positive case"
    .ok found.toList

end StructuralLint.Rule
