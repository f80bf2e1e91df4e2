import StructuralLint.Report
import StructuralLint.Rule.Registry

/-!
# Texts for readers

The list of rules and the report of a run, line by line.
-/

namespace StructuralLint.Cli

/-- A text filled up with spaces to a width. -/
def padded (width : Nat) (text : String) : String :=
  text ++ String.ofList (List.replicate (width - text.length) ' ')

/-- The line on a threshold of a rule. -/
def thresholdLine (settings : ResolvedSettings) (info : RuleInfo) (threshold : Threshold) :
    String :=
  let value := (settings.threshold? info.id threshold.name).getD threshold.default
  padded 22 "" ++ "   " ++ threshold.name ++ " = " ++ Decimal.plain value ++ " (default " ++
    Decimal.plain threshold.default ++ ")"

/-- The lines on a rule. -/
def ruleLines (settings : ResolvedSettings) (info : RuleInfo) : List String :=
  let state := if settings.isEnabled info.id then "on" else "off"
  (padded 22 info.id ++ " " ++ padded 12 info.category.text ++ " " ++ padded 4 state ++ " " ++
      info.description) ::
    info.thresholds.map (thresholdLine settings info)

/-- The list of rules. -/
def catalogLines (settings : ResolvedSettings) (catalog : List RuleInfo) : List String :=
  catalog.flatMap (ruleLines settings)

/-- The start of a range. -/
def startText (range : Range) : String :=
  range.file.text ++ ":" ++ toString range.span.startLine.toNat ++ ":" ++
    toString range.span.startCol.toNat

/-- The lines on a diagnostic. -/
def diagnosticLines (diagnostic : Diagnostic) : List String :=
  (startText diagnostic.range ++ ": " ++ diagnostic.severity.text ++ " [" ++ diagnostic.ruleId ++
      "] " ++ diagnostic.message) ::
    diagnostic.related.map fun range => "    see " ++ startText range

/-- The line that sums up a report. -/
def summaryLine (report : Report) : String :=
  let summary := report.summary
  toString report.filesAnalyzed ++ " files, " ++ toString summary.total ++ " diagnostics (" ++
    toString summary.critical ++ " critical, " ++ toString summary.high ++ " high, " ++
    toString summary.medium ++ " medium, " ++ toString summary.low ++ " low, " ++
    toString summary.info ++ " info)"

/-- A report. -/
def reportLines (report : Report) : List String :=
  report.diagnostics.flatMap diagnosticLines ++ ["", summaryLine report] ++
    if 0 < report.filesFailed then
      [toString report.filesFailed ++ " files could not be analyzed"]
    else []

end StructuralLint.Cli
