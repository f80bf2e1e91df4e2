import StructuralLint.Proofs.Sorting
import StructuralLint.Report

/-!
# Merging of findings

`Findings.finish` drops what is silenced, sorts the rest and keeps the first of every run of
violations of one rule at one range.  Repetitions are only looked for between neighbours, so what
the report holds rests on the order: it puts all violations of one rule at one range next to each
other, the most severe first.

The first main statement describes the report by itself: it is strictly increasing, it holds only
what was found, and it holds the best violation of every finding exactly once.  The second compares
two reports: markers remove from the report without markers exactly the diagnostics that they
silence, and change nothing else.
-/

namespace StructuralLint

open Std

/-! ## What markers silence -/

/--
A marker silences a rule at a range: its scope lies around the range in the same file, and it names
the rule or all rules.
-/
def Suppression.Silences (suppression : Suppression) (ruleId : String) (range : Range) : Prop :=
  suppression.scope.file.components = range.file.components ∧
    suppression.scope.span.start ≤ range.span.start ∧
    range.span.stop ≤ suppression.scope.span.stop ∧
    (suppression.rules = .all ∨ ∃ ids, suppression.rules = .only ids ∧ ruleId ∈ ids)

/-- Some marker silences a rule at a range.  Findings on unknown names are never silenced. -/
def Silenced (suppressions : List Suppression) (ruleId : String) (range : Range) : Prop :=
  ruleId ≠ unknownSuppressionId ∧
    ∃ suppression ∈ suppressions, suppression.Silences ruleId range

theorem SuppressedRules.includes_iff (rules : SuppressedRules) (ruleId : String) :
    rules.includes ruleId = true ↔
      rules = .all ∨ ∃ ids, rules = .only ids ∧ ruleId ∈ ids := by
  cases rules with
  | all => simp [SuppressedRules.includes]
  | only ids => simp [SuppressedRules.includes]

theorem Suppression.suppresses_iff
    (suppression : Suppression) (ruleId : String) (range : Range) :
    suppression.suppresses ruleId range = true ↔ suppression.Silences ruleId range := by
  rw [Suppression.suppresses, Range.covers, Suppression.Silences, Bool.and_eq_true,
    Bool.and_eq_true, SourcePath.same_iff, Span.contains_iff, SuppressedRules.includes_iff]
  simp only [and_assoc]

theorem Findings.isSuppressed_iff (suppressions : List Suppression) (violation : Violation) :
    Findings.isSuppressed suppressions violation = true ↔
      Silenced suppressions violation.ruleId violation.range := by
  simp [Findings.isSuppressed, Silenced, Suppression.suppresses_iff]

/-- Markers silence the same in whatever order they come. -/
theorem Findings.isSuppressed_eq_of_perm {suppressions permuted : List Suppression}
    (perm : suppressions.Perm permuted) :
    Findings.isSuppressed suppressions = Findings.isSuppressed permuted := by
  funext violation
  rw [Findings.isSuppressed, Findings.isSuppressed, perm.any_eq]

instance (suppressions : List Suppression) (ruleId : String) (range : Range) :
    Decidable (Silenced suppressions ruleId range) :=
  decidable_of_iff
    (ruleId ≠ unknownSuppressionId ∧
      suppressions.any (fun suppression => suppression.suppresses ruleId range) = true)
    (by simp [Silenced, Suppression.suppresses_iff])

theorem Silenced.congr {suppressions : List Suppression} {ruleId : String} {left right : Range}
    (same : left.same right = true) :
    Silenced suppressions ruleId left ↔ Silenced suppressions ruleId right := by
  rw [Range.same_iff] at same
  simp only [Silenced, Suppression.Silences, same.1, same.2]

/-- Without markers nothing is silenced. -/
theorem not_silenced_nil (ruleId : String) (range : Range) : ¬ Silenced [] ruleId range := by
  simp [Silenced]

/-! ## The order of diagnostics -/

/-- Diagnostics by their place in a report: file, start, rule and end. -/
def Diagnostic.placeOrder (left right : Diagnostic) : Ordering :=
  (left.range.file.order right.range.file).then <|
    (compare left.range.span.startLine right.range.span.startLine).then <|
      (compare left.range.span.startCol right.range.span.startCol).then <|
        (Text.order left.ruleId right.ruleId).then <|
          (compare left.range.span.endLine right.range.span.endLine).then <|
            compare left.range.span.endCol right.range.span.endCol

/-- Diagnostics at one place: the most severe first, then by message and related ranges. -/
def Diagnostic.preference (left right : Diagnostic) : Ordering :=
  (compare right.severity.rank left.severity.rank).then <|
    (Text.order left.message right.message).then <|
      orderLists Range.order left.related right.related

/-- Diagnostics by place, and at one place by preference. -/
def Diagnostic.order (left right : Diagnostic) : Ordering :=
  (left.placeOrder right).then (left.preference right)

/-- Whether two diagnostics report the same rule at the same range. -/
def Diagnostic.sameFinding (left right : Diagnostic) : Bool :=
  left.ruleId == right.ruleId && left.range.same right.range

instance : TransCmp Diagnostic.placeOrder :=
  have := transCmp_on SourcePath.order fun diagnostic : Diagnostic => diagnostic.range.file
  have := transCmp_on Text.order Diagnostic.ruleId
  inferInstanceAs <| TransCmp <|
    compareLex (fun left right : Diagnostic => left.range.file.order right.range.file) <|
      compareLex (compareOn fun diagnostic => diagnostic.range.span.startLine) <|
        compareLex (compareOn fun diagnostic => diagnostic.range.span.startCol) <|
          compareLex (fun left right => Text.order left.ruleId right.ruleId) <|
            compareLex (compareOn fun diagnostic => diagnostic.range.span.endLine) <|
              compareOn fun diagnostic => diagnostic.range.span.endCol

instance : TransCmp Diagnostic.preference :=
  have := transCmp_on Text.order Diagnostic.message
  have := transCmp_on (orderLists Range.order) Diagnostic.related
  have :=
    transCmp_on (fun left right : Nat => compare right left) fun diagnostic : Diagnostic =>
      diagnostic.severity.rank
  inferInstanceAs <| TransCmp <|
    compareLex (fun left right : Diagnostic => compare right.severity.rank left.severity.rank) <|
      compareLex (fun left right => Text.order left.message right.message) fun left right =>
        orderLists Range.order left.related right.related

instance : TransCmp Diagnostic.order :=
  transCmp_then Diagnostic.placeOrder Diagnostic.preference

/-- Diagnostics share their place exactly when they report the same rule at the same range. -/
theorem Diagnostic.sameFinding_iff (left right : Diagnostic) :
    left.sameFinding right = true ↔ left.placeOrder right = .eq := by
  have spanEqual :
      left.range.span = right.range.span ↔
        left.range.span.startLine = right.range.span.startLine ∧
          left.range.span.startCol = right.range.span.startCol ∧
          left.range.span.endLine = right.range.span.endLine ∧
          left.range.span.endCol = right.range.span.endCol := by
    cases left.range.span
    cases right.range.span
    simp
  simp only [Diagnostic.sameFinding, Diagnostic.placeOrder, Ordering.then_eq_eq,
    Bool.and_eq_true, beq_iff_eq, Range.same_iff, SourcePath.order_eq_iff, Text.order_eq_iff,
    LawfulEqOrd.compare_eq_iff_eq, spanEqual]
  tauto

/-- Diagnostics in different files are never level. -/
theorem Diagnostic.order_ne_eq_of_files {left right : Diagnostic}
    (different : left.range.file.same right.range.file = false) :
    left.order right ≠ .eq := by
  intro level
  rw [Diagnostic.order, Ordering.then_eq_eq, Diagnostic.placeOrder, Ordering.then_eq_eq,
    SourcePath.order_eq_iff, ← SourcePath.same_iff, different] at level
  cases level.1.1

/-- The order of violations looks only at what their diagnostics hold. -/
theorem Findings.order_eq (left right : Violation) :
    Findings.order left right = left.toDiagnostic.order right.toDiagnostic := by
  simp only [Findings.order, Range.orderByStart, Position.order, Diagnostic.order,
    Diagnostic.placeOrder, Diagnostic.preference, Violation.toDiagnostic, Span.start, Span.stop,
    Ordering.then_assoc]

/-! ## The report as a list of diagnostics -/

namespace Findings

/-- The diagnostics of the violations that are not silenced, in the order in which they came in. -/
def unsilenced (findings : Findings) : List Diagnostic :=
  (findings.violations.filter fun violation =>
    !isSuppressed findings.suppressions violation).map Violation.toDiagnostic

theorem mem_unsilenced_iff (findings : Findings) (diagnostic : Diagnostic) :
    diagnostic ∈ findings.unsilenced ↔
      ∃ violation ∈ findings.violations,
        ¬ Silenced findings.suppressions violation.ruleId violation.range ∧
          violation.toDiagnostic = diagnostic := by
  simp only [unsilenced, List.mem_map, List.mem_filter, Bool.not_eq_true', ← isSuppressed_iff,
    Bool.not_eq_true, and_assoc]

/-- The unsilenced diagnostics in order. -/
def sorted (findings : Findings) : List Diagnostic :=
  findings.unsilenced.mergeSort fun left right => left.order right != .gt

theorem finish_eq_firstOfRuns (findings : Findings) :
    findings.finish = firstOfRuns Diagnostic.sameFinding none findings.sorted := by
  rw [finish, map_firstOfRuns sameFinding Diagnostic.sameFinding Violation.toDiagnostic
    (fun left right => rfl)]
  rw [List.map_mergeSort (s := fun left right => Diagnostic.order left right != .gt)]
  · rfl
  · intro left _ right _
    rw [Findings.order_eq]

/-- Reports on findings that agree on every class of level diagnostics are equal. -/
theorem finish_eq_of_sameLevels {left right : Findings}
    (levels : SameLevels Diagnostic.order left.unsilenced right.unsilenced) :
    left.finish = right.finish := by
  rw [finish_eq_firstOfRuns, finish_eq_firstOfRuns, sorted, sorted,
    levels.sorted_eq Diagnostic.order]

theorem mem_sorted_iff (findings : Findings) (diagnostic : Diagnostic) :
    diagnostic ∈ findings.sorted ↔ diagnostic ∈ findings.unsilenced :=
  List.mem_mergeSort

/-- The sorted diagnostics are in order of their places. -/
theorem pairwise_sorted_place (findings : Findings) :
    findings.sorted.Pairwise fun left right => left.placeOrder right ≠ .gt := by
  apply (pairwise_sorted Diagnostic.order findings.unsilenced).imp
  intro left right notAfter
  exact ne_gt_of_then_ne_gt notAfter

/-- A diagnostic that comes first at its place is at least as severe, and has no greater message. -/
theorem best_of_order {left right : Diagnostic}
    (samePlace : left.placeOrder right = .eq)
    (notAfter : left.order right ≠ .gt) :
    right.severity.rank ≤ left.severity.rank ∧
      (right.severity = left.severity → left.message ≤ right.message) := by
  rw [Diagnostic.order, samePlace, Ordering.eq_then, Diagnostic.preference] at notAfter
  constructor
  · have severityNotAfter := ne_gt_of_then_ne_gt notAfter
    exact Nat.isLE_compare.mp (Ordering.ne_gt_iff_isLE.mp severityNotAfter)
  · intro sameSeverity
    rw [sameSeverity, level_self compare, Ordering.eq_then] at notAfter
    exact (Text.order_ne_gt_iff left.message right.message).mp (ne_gt_of_then_ne_gt notAfter)

/-- The report is strictly increasing in file, start, rule and end. -/
theorem pairwise_finish (findings : Findings) :
    findings.finish.Pairwise fun left right => left.placeOrder right = .lt := by
  rw [finish_eq_firstOfRuns]
  exact pairwise_firstOfRuns Diagnostic.sameFinding_iff findings.pairwise_sorted_place

/-- The report holds nothing that was not found. -/
theorem mem_unsilenced_of_mem_finish {findings : Findings} {diagnostic : Diagnostic}
    (member : diagnostic ∈ findings.finish) :
    diagnostic ∈ findings.unsilenced := by
  rw [finish_eq_firstOfRuns] at member
  exact (mem_sorted_iff findings diagnostic).mp
    ((firstOfRuns_sublist Diagnostic.sameFinding none findings.sorted).subset member)

/-- Every unsilenced diagnostic is reported by one that shares its place and is not after it. -/
theorem exists_mem_finish {findings : Findings} {diagnostic : Diagnostic}
    (member : diagnostic ∈ findings.unsilenced) :
    ∃ reported ∈ findings.finish,
      reported.placeOrder diagnostic = .eq ∧ reported.order diagnostic ≠ .gt := by
  rw [finish_eq_firstOfRuns]
  apply exists_mem_firstOfRuns Diagnostic.sameFinding_iff
  · intro item
    rw [level_self Diagnostic.order]
    decide
  · exact findings.pairwise_sorted_place
  · exact pairwise_sorted Diagnostic.order findings.unsilenced
  · exact (mem_sorted_iff findings diagnostic).mpr member

/--
Of every finding the report holds exactly one diagnostic, and no unsilenced diagnostic of that
finding comes before it.
-/
theorem exists_filter_finish_eq {findings : Findings} {diagnostic : Diagnostic}
    (member : diagnostic ∈ findings.unsilenced) :
    ∃ best,
      findings.finish.filter diagnostic.sameFinding = [best] ∧
        ∀ other ∈ findings.unsilenced,
          other.sameFinding diagnostic = true →
            best.placeOrder other = .eq ∧ best.order other ≠ .gt := by
  rcases exists_mem_finish member with ⟨best, bestMember, bestPlace, _⟩
  have single (reported : Diagnostic) (reportedMember : reported ∈ findings.finish) :
      findings.finish.filter reported.sameFinding = [reported] :=
    filter_level_of_strict Diagnostic.sameFinding_iff findings.pairwise_finish reportedMember
  refine ⟨best, ?_, ?_⟩
  · have sameClass : diagnostic.sameFinding = best.sameFinding := by
      funext reported
      apply Bool.eq_iff_iff.mpr
      rw [Diagnostic.sameFinding_iff, Diagnostic.sameFinding_iff, TransCmp.congr_left bestPlace]
    rw [sameClass]
    exact single best bestMember
  · intro other otherMember sameFinding
    rcases exists_mem_finish otherMember with ⟨otherBest, otherBestMember, otherPlace, otherFirst⟩
    -- The report holds one diagnostic at this place, so both are the same.
    have samePlace : best.placeOrder otherBest = .eq := by
      have towardsDiagnostic := (Diagnostic.sameFinding_iff other diagnostic).mp sameFinding
      exact TransCmp.eq_trans bestPlace
        (OrientedCmp.eq_symm (TransCmp.eq_trans otherPlace towardsDiagnostic))
    have inClass : otherBest ∈ findings.finish.filter best.sameFinding := by
      rw [List.mem_filter]
      exact ⟨otherBestMember, (Diagnostic.sameFinding_iff best otherBest).mpr samePlace⟩
    rw [single best bestMember, List.mem_singleton] at inClass
    subst inClass
    exact ⟨otherPlace, otherFirst⟩

/--
What is found for a rule at a range makes one diagnostic of that rule at that range: one of
those that were found there, the most severe of them with the least message.
-/
theorem exists_filter_finish_at_eq {findings : Findings} {ruleId : String} {range : Range}
    {diagnostic : Diagnostic}
    (member : diagnostic ∈ findings.unsilenced)
    (isRule : diagnostic.ruleId = ruleId)
    (inRange : range.same diagnostic.range = true) :
    ∃ best,
      findings.finish.filter
          (fun reported => reported.ruleId == ruleId && range.same reported.range) =
        [best] ∧
        best ∈ findings.unsilenced ∧ best.ruleId = ruleId ∧ range.same best.range = true ∧
        ∀ other ∈ findings.unsilenced,
          other.ruleId = ruleId →
            range.same other.range = true →
              other.severity.rank ≤ best.severity.rank ∧
                (other.severity = best.severity → best.message ≤ other.message) := by
  rcases exists_filter_finish_eq member with ⟨best, single, first⟩
  have sameClass (other : Diagnostic) :
      diagnostic.sameFinding other = true ↔
        other.ruleId = ruleId ∧ range.same other.range = true := by
    rw [Range.same_iff] at inRange
    rw [Diagnostic.sameFinding, isRule, Bool.and_eq_true, beq_iff_eq, Range.same_iff,
      Range.same_iff, inRange.1, inRange.2, eq_comm]
  have isReported : best ∈ findings.finish.filter diagnostic.sameFinding := by
    rw [single]
    exact List.mem_cons_self
  rcases List.mem_filter.mp isReported with ⟨inReport, inClass⟩
  rcases (sameClass best).mp inClass with ⟨bestRule, bestRange⟩
  refine ⟨best, ?_, mem_unsilenced_of_mem_finish inReport, bestRule, bestRange, ?_⟩
  · rw [← single]
    apply List.filter_congr
    intro other _
    rw [Bool.eq_iff_iff, sameClass, Bool.and_eq_true, beq_iff_eq]
  · intro other otherMember otherRule otherRange
    have sameFinding : other.sameFinding diagnostic = true := by
      have same := (sameClass other).mpr ⟨otherRule, otherRange⟩
      rw [Diagnostic.sameFinding_iff] at same ⊢
      exact OrientedCmp.eq_symm same
    rcases first other otherMember sameFinding with ⟨samePlace, notAfter⟩
    exact best_of_order samePlace notAfter

/--
Where all that is found for a rule at a range has one severity, the report holds one diagnostic
there, and of the messages that were found it carries the least.
-/
theorem exists_filter_finish_at_eq_of_messages {findings : Findings} {ruleId : String}
    {range : Range} {severity : Severity} {IsMessage : String → Prop}
    (complete :
      ∀ message, IsMessage message →
        ∃ diagnostic ∈ findings.unsilenced,
          diagnostic.ruleId = ruleId ∧ range.same diagnostic.range = true ∧
            diagnostic.severity = severity ∧ diagnostic.message = message)
    (sound :
      ∀ diagnostic ∈ findings.unsilenced,
        diagnostic.ruleId = ruleId →
          range.same diagnostic.range = true →
            diagnostic.severity = severity ∧ IsMessage diagnostic.message)
    {message : String}
    (isMessage : IsMessage message) :
    ∃ diagnostic,
      findings.finish.filter
          (fun reported => reported.ruleId == ruleId && range.same reported.range) =
        [diagnostic] ∧
        diagnostic.severity = severity ∧ IsMessage diagnostic.message ∧
        ∀ other, IsMessage other → diagnostic.message ≤ other := by
  rcases complete message isMessage with ⟨found, isFound, foundRule, foundRange, _⟩
  rcases exists_filter_finish_at_eq isFound foundRule foundRange with
    ⟨best, single, isBest, bestRule, bestRange, isFirst⟩
  rcases sound best isBest bestRule bestRange with ⟨bestSeverity, bestMessage⟩
  refine ⟨best, single, bestSeverity, bestMessage, ?_⟩
  intro other isOther
  rcases complete other isOther with ⟨diagnostic, isKept, isRule, inRange, sameSeverity, rfl⟩
  exact (isFirst diagnostic isKept isRule inRange).2 (sameSeverity.trans bestSeverity.symm)

/-- Where nothing is found for a rule at a range, nothing is reported. -/
theorem filter_finish_at_eq_nil {findings : Findings} {ruleId : String} {range : Range}
    (none :
      ∀ diagnostic ∈ findings.unsilenced,
        diagnostic.ruleId = ruleId → range.same diagnostic.range = true → False) :
    findings.finish.filter
        (fun reported => reported.ruleId == ruleId && range.same reported.range) =
      [] := by
  rw [List.filter_eq_nil_iff]
  intro diagnostic member isReported
  rw [Bool.and_eq_true, beq_iff_eq] at isReported
  exact none diagnostic (mem_unsilenced_of_mem_finish member) isReported.1 isReported.2

/--
The report is strictly increasing in file, start, rule and end; it holds only images of violations
that no marker silences; and for each of these it holds exactly one diagnostic with their rule and
range, which has the highest severity of all of them and the least message of that severity.
-/
theorem finish_reports_best_of_each_finding
    (violations : List Violation)
    (suppressions : List Suppression) :
    (finish { violations, suppressions }).Pairwise
        (fun left right => left.placeOrder right = .lt) ∧
      (∀ diagnostic ∈ finish { violations, suppressions },
        ∃ violation ∈ violations,
          ¬ Silenced suppressions violation.ruleId violation.range ∧
            violation.toDiagnostic = diagnostic) ∧
      ∀ violation ∈ violations,
        ¬ Silenced suppressions violation.ruleId violation.range →
          ∃ diagnostic,
            (finish { violations, suppressions }).filter
                (fun reported =>
                  violation.ruleId == reported.ruleId &&
                    violation.range.same reported.range) =
              [diagnostic] ∧
              ∀ other ∈ violations,
                ¬ Silenced suppressions other.ruleId other.range →
                  other.ruleId = violation.ruleId →
                    other.range.same violation.range = true →
                      other.severity.rank ≤ diagnostic.severity.rank ∧
                        (other.severity = diagnostic.severity →
                          diagnostic.message ≤ other.message) := by
  let findings : Findings := { violations, suppressions }
  refine ⟨findings.pairwise_finish, ?_, ?_⟩
  · intro diagnostic member
    exact (mem_unsilenced_iff findings diagnostic).mp (mem_unsilenced_of_mem_finish member)
  · intro violation member unsilenced
    have kept : violation.toDiagnostic ∈ findings.unsilenced :=
      (mem_unsilenced_iff findings _).mpr ⟨violation, member, unsilenced, rfl⟩
    rcases exists_filter_finish_eq kept with ⟨best, single, first⟩
    refine ⟨best, single, ?_⟩
    intro other otherMember otherUnsilenced sameRule sameRange
    have otherKept : other.toDiagnostic ∈ findings.unsilenced :=
      (mem_unsilenced_iff findings _).mpr ⟨other, otherMember, otherUnsilenced, rfl⟩
    have sameFinding : other.toDiagnostic.sameFinding violation.toDiagnostic = true := by
      simpa [Diagnostic.sameFinding, Violation.toDiagnostic, sameRule] using sameRange
    rcases first other.toDiagnostic otherKept sameFinding with ⟨samePlace, notAfter⟩
    exact best_of_order samePlace notAfter

/--
Choosing diagnostics of a report by what all diagnostics of one finding share is the same as
choosing the violations before they are merged.
-/
theorem filter_finish (findings : Findings) (keep : Diagnostic → Bool)
    (alike : ∀ left right : Diagnostic, left.sameFinding right = true → keep left = keep right) :
    findings.finish.filter keep =
      finish
        { violations := findings.violations.filter fun violation => keep violation.toDiagnostic
          suppressions := findings.suppressions } := by
  rw [finish_eq_firstOfRuns, finish_eq_firstOfRuns,
    filter_firstOfRuns Diagnostic.sameFinding_iff keep alike findings.pairwise_sorted_place]
  congr 1
  rw [sorted, sorted, filter_sorted Diagnostic.order, unsilenced, unsilenced, List.filter_map,
    List.filter_comm]
  rfl

/-! ## Markers only remove -/

/-- Without markers everything is unsilenced, and markers filter that. -/
theorem unsilenced_eq_filter (violations : List Violation) (suppressions : List Suppression) :
    unsilenced { violations, suppressions } =
      (unsilenced { violations, suppressions := [] }).filter fun diagnostic =>
        decide (¬ Silenced suppressions diagnostic.ruleId diagnostic.range) := by
  have nothingSilenced :
      (violations.filter fun violation => !isSuppressed [] violation) = violations := by
    rw [List.filter_eq_self]
    intro violation _
    simp [isSuppressed]
  rw [unsilenced, unsilenced, nothingSilenced, List.filter_map]
  congr 2
  funext violation
  apply Bool.eq_iff_iff.mpr
  simp [← isSuppressed_iff, Violation.toDiagnostic]

/--
Markers remove from the report without markers exactly the diagnostics that they silence: all
others stay as they are and in their order.
-/
theorem finish_eq_filter_not_silenced
    (violations : List Violation)
    (suppressions : List Suppression) :
    finish { violations, suppressions } =
      (finish { violations, suppressions := [] }).filter fun diagnostic =>
        decide (¬ Silenced suppressions diagnostic.ruleId diagnostic.range) := by
  have alike (left right : Diagnostic) (same : left.sameFinding right = true) :
      decide (¬ Silenced suppressions left.ruleId left.range) =
        decide (¬ Silenced suppressions right.ruleId right.range) := by
    rw [Diagnostic.sameFinding, Bool.and_eq_true, beq_iff_eq] at same
    rw [same.1]
    simp only [Silenced.congr same.2]
  rw [finish_eq_firstOfRuns, finish_eq_firstOfRuns,
    filter_firstOfRuns Diagnostic.sameFinding_iff _ alike
      (pairwise_sorted_place { violations, suppressions := [] })]
  congr 1
  rw [sorted, sorted, filter_sorted Diagnostic.order, ← unsilenced_eq_filter]

end Findings

end StructuralLint
