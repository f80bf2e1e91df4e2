import StructuralLint.Model.Node
import StructuralLint.Source.Range

/-!
# Findings

Rules produce violations; what is left of them after suppression and merging are diagnostics,
counted in a summary.
-/

namespace StructuralLint

/-- How much a finding matters, least first. -/
inductive Severity where
  | info
  | low
  | medium
  | high
  | critical
deriving DecidableEq, Repr

namespace Severity

/-- The rank of a severity, the least being zero. -/
def rank : Severity → Nat
  | info => 0
  | low => 1
  | medium => 2
  | high => 3
  | critical => 4

/-- The name of a severity. -/
def text : Severity → String
  | info => "info"
  | low => "low"
  | medium => "medium"
  | high => "high"
  | critical => "critical"

/-- Every severity, least first. -/
def all : List Severity := [info, low, medium, high, critical]

/-- The severity with a name. -/
def ofText? (text : String) : Option Severity :=
  all.find? (·.text == text)

/--
Severity by how far a value overshoots a threshold: high above twice the threshold, medium above
one and a half times, else low. A threshold that is not positive is always overshot by far.
-/
def scaled (actual threshold : Float) : Severity :=
  if threshold ≤ 0 then high
  else
    let ratio := actual / threshold
    if ratio > 2 then high else if ratio > 1.5 then medium else low

end Severity

/-- The families of rules. -/
inductive Category where
  | comments
  | functions
  | naming
  | structural
  | duplication
deriving DecidableEq, Repr

/-- The name of a family. -/
def Category.text : Category → String
  | comments => "comments"
  | functions => "functions"
  | naming => "naming"
  | structural => "structure"
  | duplication => "duplication"

/-- The id of findings on files that no adapter could read. -/
def parseErrorId : String := "ParseError"

/-- The id of findings on files whose nodes form no model. -/
def modelInvariantId : String := "ModelInvariant"

/-- The id of findings on rules that failed. -/
def internalRuleErrorId : String := "InternalRuleError"

/-- The id of findings on markers that name no rule. -/
def unknownSuppressionId : String := "UnknownSuppression"

/-- What a rule found, before suppression and merging. -/
structure Violation where
  ruleId : String
  severity : Severity
  message : String
  range : Range
  related : List Range := []
  /-- The node the violation is anchored at, if a rule on nodes found it. -/
  node : Option NodeId := none
deriving DecidableEq, Repr

/-- A finding that is reported. -/
structure Diagnostic where
  ruleId : String
  severity : Severity
  message : String
  range : Range
  related : List Range
deriving DecidableEq, Repr

/-- The diagnostic that reports a violation. -/
def Violation.toDiagnostic (violation : Violation) : Diagnostic :=
  { ruleId := violation.ruleId
    severity := violation.severity
    message := violation.message
    range := violation.range
    related := violation.related }

/-- Diagnostics counted by severity and by rule. -/
structure Summary where
  critical : Nat
  high : Nat
  medium : Nat
  low : Nat
  info : Nat
  total : Nat
  /-- Counts by rule id, in the order of the ids. -/
  byRule : List (String × Nat)
deriving DecidableEq, Repr

/-- The summary of some diagnostics. -/
def Summary.ofDiagnostics (diagnostics : List Diagnostic) : Summary :=
  let count (severity : Severity) := diagnostics.countP (·.severity == severity)
  let ids := (diagnostics.map (·.ruleId)).eraseDups.mergeSort fun left right =>
    decide (left ≤ right)
  { critical := count .critical
    high := count .high
    medium := count .medium
    low := count .low
    info := count .info
    total := diagnostics.length
    byRule := ids.map fun id => (id, diagnostics.countP (·.ruleId == id)) }

end StructuralLint
