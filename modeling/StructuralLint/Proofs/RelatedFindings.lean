import Mathlib.Data.List.Basic
import StructuralLint.Proofs.ExactCopies
import StructuralLint.Proofs.Merging

/-!
# Findings on duplication that relate to each other

Every member of a cluster is reported and relates to all others, so before they are merged the
findings on duplication come in partners: whatever range a finding relates to has a finding of the
same rule, which relates back.  Merging keeps one finding of a rule at a range.  A range that lies
in two clusters of one rule is therefore reported with the members of only one of them, and the
members of the other still relate to it.

The main statement says that this is the only way in which a report can fail to be symmetric.  The
last one is a report that does.
-/

namespace StructuralLint.Duplication

/-- One of the related ranges is the same as a range. -/
def RelatesTo (related : List Range) (range : Range) : Prop :=
  ∃ back ∈ related, back.same range = true

/-- A rule found a range twice, and related it to another range only once. -/
def FoundInTwoClusters (violations : List Violation) (ruleId : String) (range other : Range) :
    Prop :=
  ∃ first ∈ violations, ∃ second ∈ violations,
    first.ruleId = ruleId ∧ second.ruleId = ruleId ∧
      first.range.same range = true ∧ second.range.same range = true ∧
        RelatesTo first.related other ∧ ¬ RelatesTo second.related other

/-! ## Partners -/

/-- Every range that a finding relates to has a finding of the same rule that relates back. -/
def HavePartners (violations : List Violation) : Prop :=
  ∀ violation ∈ violations, ∀ range ∈ violation.related,
    ∃ partner ∈ violations,
      partner.ruleId = violation.ruleId ∧ partner.range = range ∧
        violation.range ∈ partner.related

theorem HavePartners.nil : HavePartners [] := by
  intro violation member
  cases member

theorem HavePartners.append {left right : List Violation}
    (leftPartners : HavePartners left)
    (rightPartners : HavePartners right) :
    HavePartners (left ++ right) := by
  intro violation member range related
  rcases List.mem_append.mp member with inLeft | inRight
  · rcases leftPartners violation inLeft range related with ⟨partner, isPartner, relates⟩
    exact ⟨partner, List.mem_append_left right isPartner, relates⟩
  · rcases rightPartners violation inRight range related with ⟨partner, isPartner, relates⟩
    exact ⟨partner, List.mem_append_right left isPartner, relates⟩

theorem HavePartners.flatMap {α : Type} {clusters : List α} {findings : α → List Violation}
    (partners : ∀ cluster ∈ clusters, HavePartners (findings cluster)) :
    HavePartners (clusters.flatMap findings) := by
  induction clusters with
  | nil => exact HavePartners.nil
  | cons cluster rest induction =>
      rw [List.flatMap_cons]
      exact (partners cluster List.mem_cons_self).append
        (induction fun other member => partners other (List.mem_cons_of_mem cluster member))

/-- The members of one cluster are partners: at different positions each relates to the other. -/
theorem havePartners_perMember (ranges : List Range) (ruleId : String) (severity : Severity)
    (message : Nat → Nat → String) :
    HavePartners (perMember ranges ruleId severity message) := by
  intro violation found range related
  rcases List.mem_mapIdx.mp found with ⟨position, bound, rfl⟩
  rcases List.mem_eraseIdx_iff_getElem.mp related with ⟨other, otherBound, different, rfl⟩
  refine ⟨_, List.mem_mapIdx.mpr ⟨other, otherBound, rfl⟩, rfl, rfl, ?_⟩
  exact List.mem_eraseIdx_iff_getElem.mpr ⟨position, bound, different.symm, rfl⟩

theorem havePartners_duplicateConditionals (chains : List Chain) (minLength : Nat) :
    HavePartners (duplicateConditionals chains minLength) := by
  apply HavePartners.flatMap
  intro bucket _
  rw [repeatedChains]
  exact havePartners_perMember _ _ _ _

/-- Before they are merged, the findings on duplication come in partners. -/
theorem havePartners_detect (files : List Fingerprints) (settings : ResolvedSettings) :
    HavePartners (detect files settings) := by
  rw [detect]
  refine HavePartners.append (HavePartners.append ?_ ?_) ?_
  · split
    · exact HavePartners.flatMap fun _ _ => havePartners_perMember _ _ _ _
    · exact HavePartners.nil
  · split
    · exact HavePartners.flatMap fun _ _ => havePartners_perMember _ _ _ _
    · exact HavePartners.nil
  · split
    · exact havePartners_duplicateConditionals _ _
    · exact HavePartners.nil

/-! ## The report -/

theorem mem_unsilenced_iff_of_no_markers {violations : List Violation} {diagnostic : Diagnostic} :
    diagnostic ∈ Findings.unsilenced { violations } ↔
      ∃ violation ∈ violations, violation.toDiagnostic = diagnostic := by
  simp [Findings.mem_unsilenced_iff, Silenced]

theorem exists_violation_of_mem_finish {violations : List Violation} {diagnostic : Diagnostic}
    (member : diagnostic ∈ Findings.finish { violations }) :
    ∃ violation ∈ violations, violation.toDiagnostic = diagnostic :=
  mem_unsilenced_iff_of_no_markers.mp (Findings.mem_unsilenced_of_mem_finish member)

/-- Every violation is reported by one with its rule and range that is not after it. -/
theorem exists_mem_finish_of_mem {violations : List Violation} {violation : Violation}
    (member : violation ∈ violations) :
    ∃ reported ∈ Findings.finish { violations },
      reported.ruleId = violation.ruleId ∧ reported.range.same violation.range = true ∧
        reported.order violation.toDiagnostic ≠ .gt := by
  have unsilenced := mem_unsilenced_iff_of_no_markers.mpr ⟨violation, member, rfl⟩
  rcases Findings.exists_mem_finish unsilenced with ⟨reported, isReported, place, notAfter⟩
  rw [← Diagnostic.sameFinding_iff, Diagnostic.sameFinding, Bool.and_eq_true, beq_iff_eq] at place
  exact ⟨reported, isReported, place.1, place.2, notAfter⟩

/--
In the report on duplication every related range is reported by the same rule, and relates back
unless the rule found that range in two clusters.
-/
theorem finish_detect_relates_back (files : List Fingerprints) (settings : ResolvedSettings) :
    ∀ diagnostic ∈ Findings.finish { violations := detect files settings },
      ∀ range ∈ diagnostic.related,
        ∃ other ∈ Findings.finish { violations := detect files settings },
          other.ruleId = diagnostic.ruleId ∧ other.range.same range = true ∧
            (RelatesTo other.related diagnostic.range ∨
              FoundInTwoClusters (detect files settings) diagnostic.ruleId range
                diagnostic.range) := by
  intro diagnostic isReported range related
  rcases exists_violation_of_mem_finish isReported with ⟨violation, found, rfl⟩
  rcases havePartners_detect files settings violation found range related with
    ⟨partner, partnerFound, partnerRule, rfl, relatesBack⟩
  rcases exists_mem_finish_of_mem partnerFound with
    ⟨other, otherReported, otherRule, otherRange, _⟩
  refine ⟨other, otherReported, otherRule.trans partnerRule, otherRange, ?_⟩
  by_cases otherRelates : RelatesTo other.related violation.toDiagnostic.range
  · exact Or.inl otherRelates
  · -- What is reported at the range instead of the partner comes from another cluster.
    rcases exists_violation_of_mem_finish otherReported with ⟨second, secondFound, rfl⟩
    have sameAsItself (range : Range) : range.same range = true := by
      rw [Range.same_iff]
      exact ⟨rfl, rfl⟩
    exact Or.inr ⟨partner, partnerFound, second, secondFound, partnerRule,
      otherRule.trans partnerRule, sameAsItself _, otherRange,
      ⟨_, relatesBack, sameAsItself _⟩, otherRelates⟩

/-! ## A report that is not symmetric -/

/-- What another finding of its rule and range comes before is not reported. -/
theorem not_mem_finish_of_order_eq_gt {violations : List Violation} {first second : Violation}
    (firstFound : first ∈ violations)
    (sameFinding : first.toDiagnostic.sameFinding second.toDiagnostic = true)
    (after : second.toDiagnostic.order first.toDiagnostic = .gt) :
    second.toDiagnostic ∉ Findings.finish { violations } := by
  intro isReported
  have unsilenced := mem_unsilenced_iff_of_no_markers.mpr ⟨first, firstFound, rfl⟩
  rcases Findings.exists_filter_finish_eq unsilenced with ⟨best, single, first_le⟩
  have isBest : second.toDiagnostic ∈ [best] := by
    rw [← single, List.mem_filter]
    exact ⟨isReported, sameFinding⟩
  rw [List.mem_singleton] at isBest
  subst isBest
  apply (first_le first.toDiagnostic unsilenced _).2 after
  rw [Diagnostic.sameFinding_iff]
  exact level_self Diagnostic.placeOrder _

/-- Settings with nothing configured, for the rules on duplication alone. -/
def unconfigured : ResolvedSettings :=
  { workers := 0
    minDuplicateStatements := Settings.defaultMinDuplicateStatements
    duplicationSimilarityThreshold := Settings.defaultSimilarity
    perFileTimeoutMs := Settings.defaultPerFileTimeoutMs
    rules := Sorted.ofList (catalog.map fun info => (info.id, RuleSettings.ofInfo info)) }

/--
Two blocks (of digest 1) that hold nothing but a block (of digest 2) of the same range, and a
third copy of the inner block.
-/
def blocksOfOneBlock : Fingerprints :=
  { path := { text := "copies.ir.json" }
    candidates :=
      [blockOn 1 2 4, blockOn 2 2 4, blockOn 1 5 7, blockOn 2 5 7, blockOn 2 8 10]
    chains := [] }

/-- What is found of these blocks, cluster by cluster. -/
def findingsOnBlocks : List Violation :=
  duplicateCode [blockOn 1 2 4, blockOn 1 5 7] ++
    duplicateCode [blockOn 2 2 4, blockOn 2 5 7, blockOn 2 8 10]

theorem detect_blocksOfOneBlock :
    detect [blocksOfOneBlock] unconfigured = findingsOnBlocks := by
  have clusters : exactClusters blocksOfOneBlock.candidates =
      [[blockOn 1 2 4, blockOn 1 5 7], [blockOn 2 2 4, blockOn 2 5 7, blockOn 2 8 10]] := by cbv
  have isOn : unconfigured.isEnabled duplicateCodeId = true := by decide
  have noSimilar (copies : List Range) (threshold : Float) :
      similarClusters blocksOfOneBlock.candidates copies threshold = [] := by
    simp [similarClusters, similarGroups, blocksOfOneBlock, blockOn, buckets, digestSet,
      firstOfRuns]
  have noConditionals (minLength : Nat) :
      duplicateConditionals blocksOfOneBlock.chains minLength = [] := by
    simp [duplicateConditionals, blocksOfOneBlock, buckets, digestSet, firstOfRuns]
  simp [detect, clusters, isOn, noSimilar, noConditionals, findingsOnBlocks]

/-- The third copy of the inner block is reported, and relates to the first. -/
theorem exists_mem_finish_third_copy :
    ∃ diagnostic ∈ Findings.finish { violations := detect [blocksOfOneBlock] unconfigured },
      diagnostic.ruleId = duplicateCodeId ∧ diagnostic.range = (blockOn 2 8 10).range ∧
        (blockOn 2 2 4).range ∈ diagnostic.related := by
  rw [detect_blocksOfOneBlock]
  let third : Violation := findingsOnBlocks[4]
  have isFound : third ∈ findingsOnBlocks := List.getElem_mem (by decide)
  rcases exists_mem_finish_of_mem isFound with ⟨reported, isReported, _, sameRange, _⟩
  rcases exists_violation_of_mem_finish isReported with ⟨violation, found, rfl⟩
  have only : ∀ violation ∈ findingsOnBlocks,
      violation.range.same third.range = true → violation = third := by decide
  have isThird := only violation found sameRange
  subst isThird
  exact ⟨_, isReported, by decide, by decide, by decide⟩

/-- Whatever is reported at the range of the first inner block does not relate to the third. -/
theorem not_relatesTo_third_copy {diagnostic : Diagnostic}
    (isReported :
      diagnostic ∈ Findings.finish { violations := detect [blocksOfOneBlock] unconfigured })
    (sameRange : diagnostic.range.same (blockOn 2 2 4).range = true) :
    ¬ RelatesTo diagnostic.related (blockOn 2 8 10).range := by
  rw [detect_blocksOfOneBlock] at isReported
  intro relates
  let outer : Violation := findingsOnBlocks[0]
  let inner : Violation := findingsOnBlocks[2]
  rcases exists_violation_of_mem_finish isReported with ⟨violation, found, rfl⟩
  have only : ∀ violation ∈ findingsOnBlocks,
      violation.range.same (blockOn 2 2 4).range = true →
        (∃ back ∈ violation.related, back.same (blockOn 2 8 10).range = true) →
          violation = inner := by decide
  rw [only violation found sameRange relates] at isReported
  have isFound : outer ∈ findingsOnBlocks := List.getElem_mem (by decide)
  exact not_mem_finish_of_order_eq_gt isFound (by decide) (by decide) isReported

/-- The third copy relates to a range that was found in two clusters. -/
theorem exists_related_range_found_in_two_clusters :
    ∃ diagnostic ∈ Findings.finish { violations := detect [blocksOfOneBlock] unconfigured },
      ∃ range ∈ diagnostic.related,
        FoundInTwoClusters (detect [blocksOfOneBlock] unconfigured) diagnostic.ruleId range
          diagnostic.range := by
  rcases exists_mem_finish_third_copy with ⟨diagnostic, isReported, _, isThird, related⟩
  refine ⟨diagnostic, isReported, _, related, ?_⟩
  rcases finish_detect_relates_back _ _ diagnostic isReported _ related with
    ⟨other, otherReported, _, sameRange, relates | twice⟩
  · rw [isThird] at relates
    exact absurd relates (not_relatesTo_third_copy otherReported sameRange)
  · exact twice

/--
A report on duplication need not be symmetric: the third copy of the inner block relates to the
first block, where the copies of the outer block are reported instead.
-/
theorem exists_related_range_without_partner :
    ¬ ∀ (files : List Fingerprints) (settings : ResolvedSettings),
      ∀ diagnostic ∈ Findings.finish { violations := detect files settings },
        diagnostic.ruleId ∈ [duplicateCodeId, similarStructureId, duplicateConditionalId] →
          ∀ range ∈ diagnostic.related,
            ∃ other ∈ Findings.finish { violations := detect files settings },
              other.ruleId = diagnostic.ruleId ∧ other.range.same range = true ∧
                RelatesTo other.related diagnostic.range := by
  intro symmetric
  rcases exists_mem_finish_third_copy with ⟨diagnostic, isReported, rule, isThird, related⟩
  have ofRules :
      diagnostic.ruleId ∈ [duplicateCodeId, similarStructureId, duplicateConditionalId] := by
    rw [rule]
    exact List.mem_cons_self
  rcases symmetric _ _ diagnostic isReported ofRules _ related with
    ⟨other, otherReported, _, sameRange, relates⟩
  rw [isThird] at relates
  exact not_relatesTo_third_copy otherReported sameRange relates

end StructuralLint.Duplication
