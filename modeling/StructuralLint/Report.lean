import StructuralLint.Json.Value
import StructuralLint.Order
import StructuralLint.Suppression.Basic

/-!
# Reports

Violations and suppressions of all files are merged into one list of diagnostics: suppressed
violations are dropped, the rest is sorted by file, start, rule and end, and of several violations
of one rule at one range the most severe is kept. The order decides between all violations, so the
result does not depend on the order in which they came in.
-/

namespace StructuralLint

/-- Violations and suppressions of all files so far. -/
structure Findings where
  violations : List Violation := []
  suppressions : List Suppression := []

namespace Findings

/-- Takes in more violations and suppressions. -/
def add (findings : Findings) (violations : List Violation) (suppressions : List Suppression) :
    Findings :=
  { violations := findings.violations ++ violations
    suppressions := findings.suppressions ++ suppressions }

/-- Whether a violation is silenced. Findings on unknown names never are. -/
def isSuppressed (suppressions : List Suppression) (violation : Violation) : Bool :=
  violation.ruleId != unknownSuppressionId &&
    suppressions.any (·.suppresses violation.ruleId violation.range)

/--
Violations in the order of the report: by file and start, rule, end, falling severity, message
and related ranges.
-/
def order (left right : Violation) : Ordering :=
  (left.range.orderByStart right.range).then <|
    (Text.order left.ruleId right.ruleId).then <|
      (left.range.span.stop.order right.range.span.stop).then <|
        (compare right.severity.rank left.severity.rank).then <|
          (Text.order left.message right.message).then <|
            orderLists Range.order left.related right.related

/-- Whether two violations report the same rule at the same range. -/
def sameFinding (left right : Violation) : Bool :=
  left.ruleId == right.ruleId && left.range.same right.range

/-- The diagnostics that remain. -/
def finish (findings : Findings) : List Diagnostic :=
  let kept := findings.violations.filter fun violation =>
    !isSuppressed findings.suppressions violation
  let sorted := kept.mergeSort fun left right => order left right != .gt
  (firstOfRuns sameFinding none sorted).map Violation.toDiagnostic

end Findings

/-- The result of a complete run. -/
structure Report where
  diagnostics : List Diagnostic
  summary : Summary
  filesAnalyzed : Nat
  /-- The number of files that no model was obtained of. -/
  filesFailed : Nat
deriving DecidableEq, Repr

namespace Report

/-- The fields of a span. -/
def spanFields (span : Span) : List (String × Json) :=
  [("startLine", .int span.startLine.toNat), ("startCol", .int span.startCol.toNat),
    ("endLine", .int span.endLine.toNat), ("endCol", .int span.endCol.toNat)]

/-- A range as JSON. -/
def ofRange (range : Range) : Json :=
  .object (("file", .string range.file.text) :: spanFields range.span)

/-- A diagnostic as JSON. -/
def ofDiagnostic (diagnostic : Diagnostic) : Json :=
  .object
    ([("ruleId", .string diagnostic.ruleId), ("severity", .string diagnostic.severity.text),
        ("message", .string diagnostic.message), ("file", .string diagnostic.range.file.text)] ++
      spanFields diagnostic.range.span ++
      [("relatedRanges", .array (diagnostic.related.map ofRange))])

/-- A summary as JSON. -/
def ofSummary (summary : Summary) : Json :=
  .object
    [("critical", .int summary.critical), ("high", .int summary.high),
      ("medium", .int summary.medium), ("low", .int summary.low), ("info", .int summary.info),
      ("total", .int summary.total),
      ("by_rule", .object (summary.byRule.map fun (id, count) => (id, .int count)))]

/-- The fields of a report. -/
def fields (report : Report) : List (String × Json) :=
  [("diagnostics", .array (report.diagnostics.map ofDiagnostic)),
    ("summary", ofSummary report.summary), ("filesAnalyzed", .int report.filesAnalyzed),
    ("filesFailed", .int report.filesFailed)]

/-- A report as JSON. -/
def toJson (report : Report) : Json :=
  .object report.fields

end Report

end StructuralLint
