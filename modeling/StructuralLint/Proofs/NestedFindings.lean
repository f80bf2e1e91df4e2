import StructuralLint.Proofs.RelatedFindings
import StructuralLint.Proofs.SimilarClusters

/-!
# Findings on duplication do not nest

The findings of each rule on duplication are those on the clusters of its kind, cluster by cluster.
What lies inside a reported copy is left out before similar candidates are grouped, and what lies
strictly inside a grouped candidate is left out afterwards.  So a finding on similar structure lies
neither inside a finding on copies nor strictly inside another one on similar structure.  Candidates
are grouped within the buckets of their skeletons, so those reported together have one skeleton.
-/

namespace StructuralLint.Duplication

/-! ## Findings by rule -/

/-- Findings of one rule are chosen together or left out together. -/
theorem filter_ruleId_eq_of_own {findings : List Violation} {ruleId : String}
    (own : ∀ violation ∈ findings, violation.ruleId = ruleId)
    (id : String) :
    findings.filter (·.ruleId == id) = if ruleId = id then findings else [] := by
  split
  next same =>
    apply List.filter_eq_self.mpr
    intro violation found
    exact beq_iff_eq.mpr ((own violation found).trans same)
  next different =>
    apply List.filter_eq_nil_iff.mpr
    intro violation found isChosen
    exact different ((own violation found).symm.trans (beq_iff_eq.mp isChosen))

/-- The clusters of copies among all candidates of some files. -/
def copyClusters (files : List Fingerprints) : List (List Candidate) :=
  exactClusters (files.flatMap (·.candidates))

/-- The clusters of similar candidates of some files. -/
def similarClustersOf (files : List Fingerprints) (settings : ResolvedSettings) :
    List (List Candidate) :=
  similarClusters (files.flatMap (·.candidates)) ((copyClusters files).flatten.map (·.range))
    settings.duplicationSimilarityThreshold

/-- The least number of branches of a repeated conditional, as it is configured. -/
def minLengthOf (settings : ResolvedSettings) : Nat :=
  ((settings.threshold? duplicateConditionalId minChainLength.name).getD
    minChainLength.default).toUInt64.toNat

section ByRule

variable (files : List Fingerprints) (settings : ResolvedSettings)

/-- The findings on clusters of copies, if the rule is on. -/
def copyFindings : List Violation :=
  if settings.isEnabled duplicateCodeId then (copyClusters files).flatMap duplicateCode else []

/-- The findings on clusters of similar candidates, if the rule is on. -/
def similarFindings : List Violation :=
  if settings.isEnabled similarStructureId then
    (similarClustersOf files settings).flatMap similarStructure
  else []

/-- The findings on repeated conditionals, if the rule is on. -/
def conditionalFindings : List Violation :=
  if settings.isEnabled duplicateConditionalId then
    duplicateConditionals (files.flatMap (·.chains)) (minLengthOf settings)
  else []

theorem detect_eq_append :
    detect files settings =
      copyFindings files settings ++ similarFindings files settings ++
        conditionalFindings files settings :=
  rfl

variable {files settings} {violation : Violation}

/-- What is found on copies is found on one of their clusters. -/
theorem of_mem_copyFindings (found : violation ∈ copyFindings files settings) :
    violation.ruleId = duplicateCodeId ∧
      ∃ cluster ∈ copyClusters files, violation ∈ duplicateCode cluster := by
  rcases List.mem_flatMap.mp (List.mem_ite_nil_right.mp found).2 with ⟨cluster, isCluster, found⟩
  exact ⟨(of_mem_duplicateCode found).1, cluster, isCluster, found⟩

/-- What is found on similar structure is found on one cluster of similar candidates. -/
theorem of_mem_similarFindings (found : violation ∈ similarFindings files settings) :
    violation.ruleId = similarStructureId ∧
      ∃ cluster ∈ similarClustersOf files settings, violation ∈ similarStructure cluster := by
  rcases List.mem_flatMap.mp (List.mem_ite_nil_right.mp found).2 with ⟨cluster, isCluster, found⟩
  exact ⟨(of_mem_similarStructure found).1, cluster, isCluster, found⟩

theorem ruleId_of_mem_conditionalFindings
    (found : violation ∈ conditionalFindings files settings) :
    violation.ruleId = duplicateConditionalId :=
  (of_mem_duplicateConditionals (List.mem_ite_nil_right.mp found).2).1

variable (files settings)

/-- What is found under an id is found by the rule with that id. -/
theorem filter_detect (id : String) :
    (detect files settings).filter (·.ruleId == id) =
      (if duplicateCodeId = id then copyFindings files settings else []) ++
        (if similarStructureId = id then similarFindings files settings else []) ++
        (if duplicateConditionalId = id then conditionalFindings files settings else []) := by
  rw [detect_eq_append, List.filter_append, List.filter_append,
    filter_ruleId_eq_of_own fun _ found => (of_mem_copyFindings found).1,
    filter_ruleId_eq_of_own fun _ found => (of_mem_similarFindings found).1,
    filter_ruleId_eq_of_own fun _ found => ruleId_of_mem_conditionalFindings found]

theorem filter_detect_duplicateCode :
    (detect files settings).filter (·.ruleId == duplicateCodeId) = copyFindings files settings := by
  simp [filter_detect, duplicateCodeId, similarStructureId, duplicateConditionalId]

theorem filter_detect_similarStructure :
    (detect files settings).filter (·.ruleId == similarStructureId) =
      similarFindings files settings := by
  simp [filter_detect, duplicateCodeId, similarStructureId, duplicateConditionalId]

theorem filter_detect_duplicateConditional :
    (detect files settings).filter (·.ruleId == duplicateConditionalId) =
      conditionalFindings files settings := by
  simp [filter_detect, duplicateCodeId, similarStructureId, duplicateConditionalId]

variable {files settings}

theorem mem_copyFindings_iff :
    violation ∈ copyFindings files settings ↔
      violation ∈ detect files settings ∧ violation.ruleId = duplicateCodeId := by
  rw [← filter_detect_duplicateCode, List.mem_filter, beq_iff_eq]

theorem mem_similarFindings_iff :
    violation ∈ similarFindings files settings ↔
      violation ∈ detect files settings ∧ violation.ruleId = similarStructureId := by
  rw [← filter_detect_similarStructure, List.mem_filter, beq_iff_eq]

end ByRule

/-! ## What the filters leave out -/

section Filters

variable {candidates cluster : List Candidate} {copies : List Range} {threshold : Float}
  {candidate : Candidate}

/--
A group of similar candidates is linked within the bucket of one skeleton, and none of its
members lies inside a copy.
-/
theorem exists_shape_of_mem_similarGroups
    (isGroup : cluster ∈ similarGroups candidates copies threshold) :
    ∃ shape, ∀ candidate ∈ cluster,
      candidate.shape = some shape ∧ ∀ range ∈ copies, range.covers candidate.range = false := by
  rcases List.mem_flatMap.mp isGroup with ⟨bucket, isBucket, isLinked⟩
  rcases List.mem_map.mp (List.mem_filter.mp isBucket).1 with ⟨shape, _, rfl⟩
  refine ⟨shape, fun candidate member => ?_⟩
  have inBucket := List.mem_mergeSort.mp (mem_of_mem_linkSimilar isLinked member)
  rcases List.mem_filter.mp inBucket with ⟨isEligible, hasKey⟩
  rcases Bool.and_eq_true_iff.mp (List.mem_filter.mp isEligible).2 with ⟨hasShape, outside⟩
  rcases Option.isSome_iff_exists.mp hasShape with ⟨own, isOwn⟩
  simp only [isOwn, Option.getD_some, beq_iff_eq] at hasKey
  rw [Bool.not_eq_true', List.any_eq_false] at outside
  constructor
  · rw [isOwn, hasKey]
  · intro range isCopy
    exact Bool.eq_false_iff.mpr (outside range isCopy)

/-- A cluster of similar candidates has what its group has. -/
theorem exists_shape_of_mem_similarClusters
    (isCluster : cluster ∈ similarClusters candidates copies threshold) :
    ∃ shape, ∀ candidate ∈ cluster,
      candidate.shape = some shape ∧ ∀ range ∈ copies, range.covers candidate.range = false := by
  rcases mem_similarClusters_iff.mp isCluster with ⟨group, isGroup, rfl, _⟩
  rcases exists_shape_of_mem_similarGroups isGroup with ⟨shape, ofShape⟩
  exact ⟨shape, fun candidate member => ofShape candidate (mem_outermostOf_iff.mp member).1⟩

/-- A member of a cluster around a member of another one has the same range. -/
theorem same_of_covers_of_mem_similarClusters {other : List Candidate} {outer : Candidate}
    (isCluster : cluster ∈ similarClusters candidates copies threshold)
    (member : candidate ∈ cluster)
    (isOther : other ∈ similarClusters candidates copies threshold)
    (outerMember : outer ∈ other)
    (covers : outer.range.covers candidate.range = true) :
    outer.range.same candidate.range = true := by
  rcases mem_similarClusters_iff.mp isCluster with ⟨group, _, rfl, _⟩
  rcases mem_similarClusters_iff.mp isOther with ⟨otherGroup, isOtherGroup, rfl, _⟩
  have grouped : outer ∈ (similarGroups candidates copies threshold).flatten :=
    List.mem_flatten_of_mem isOtherGroup (mem_outermostOf_iff.mp outerMember).1
  by_contra different
  apply (mem_outermostOf_iff.mp member).2 outer grouped
  rw [isStrictlyInside, covers, Bool.and_true, Bool.not_eq_true']
  exact Bool.eq_false_iff.mpr different

end Filters

/--
With both rules on, the findings on copies and on similar structure are those on the clusters of
either kind.  No finding on similar structure lies inside a finding on copies, and one that lies
inside another one on similar structure has the same range.  The candidates of a cluster of similar
ones, of which there are at least two, have one skeleton.
-/
theorem detect_findings_do_not_nest
    (files : List Fingerprints)
    (settings : ResolvedSettings)
    (reportsCopies : settings.isEnabled duplicateCodeId = true)
    (reportsSimilar : settings.isEnabled similarStructureId = true) :
    (detect files settings).filter (·.ruleId == duplicateCodeId) =
        (copyClusters files).flatMap duplicateCode ∧
      (detect files settings).filter (·.ruleId == similarStructureId) =
        (similarClustersOf files settings).flatMap similarStructure ∧
      (∀ similar ∈ detect files settings, similar.ruleId = similarStructureId →
        ∀ copy ∈ detect files settings, copy.ruleId = duplicateCodeId →
          copy.range.covers similar.range = false) ∧
      (∀ inner ∈ detect files settings, inner.ruleId = similarStructureId →
        ∀ outer ∈ detect files settings, outer.ruleId = similarStructureId →
          outer.range.covers inner.range = true → outer.range.same inner.range = true) ∧
      ∀ cluster ∈ similarClustersOf files settings,
        2 ≤ cluster.length ∧
          ∃ shape, ∀ candidate ∈ cluster,
            candidate ∈ files.flatMap (·.candidates) ∧ candidate.shape = some shape := by
  refine ⟨?_, ?_, ?_, ?_, ?_⟩
  · rw [filter_detect_duplicateCode, copyFindings, if_pos reportsCopies]
  · rw [filter_detect_similarStructure, similarFindings, if_pos reportsSimilar]
  · intro similar isSimilar similarRule copy isCopy copyRule
    rcases of_mem_similarFindings (mem_similarFindings_iff.mpr ⟨isSimilar, similarRule⟩) with
      ⟨_, cluster, isCluster, found⟩
    rcases of_mem_copyFindings (mem_copyFindings_iff.mpr ⟨isCopy, copyRule⟩) with
      ⟨_, copies, isCopies, copyFound⟩
    rcases (of_mem_similarStructure found).2 with ⟨candidate, member, atSimilar⟩
    rcases (of_mem_duplicateCode copyFound).2 with ⟨copied, isCopied, atCopy⟩
    rcases exists_shape_of_mem_similarClusters isCluster with ⟨_, ofCluster⟩
    rw [← atSimilar, ← atCopy]
    apply (ofCluster candidate member).2
    exact List.mem_map_of_mem (List.mem_flatten_of_mem isCopies isCopied)
  · intro inner isInner innerRule outer isOuter outerRule covers
    rcases of_mem_similarFindings (mem_similarFindings_iff.mpr ⟨isInner, innerRule⟩) with
      ⟨_, cluster, isCluster, found⟩
    rcases of_mem_similarFindings (mem_similarFindings_iff.mpr ⟨isOuter, outerRule⟩) with
      ⟨_, other, isOther, otherFound⟩
    rcases (of_mem_similarStructure found).2 with ⟨candidate, member, atInner⟩
    rcases (of_mem_similarStructure otherFound).2 with ⟨around, aroundMember, atOuter⟩
    rw [← atInner, ← atOuter] at covers ⊢
    exact same_of_covers_of_mem_similarClusters isCluster member isOther aroundMember covers
  · intro cluster isCluster
    rcases mem_similarClusters_iff.mp isCluster with ⟨_, _, _, two⟩
    rcases exists_shape_of_mem_similarClusters isCluster with ⟨shape, ofShape⟩
    refine ⟨two, shape, fun candidate member => ⟨?_, (ofShape candidate member).1⟩⟩
    exact mem_of_mem_similarClusters isCluster member

/--
Two similar functions with blocks in them, a similar block outside of them, and two copies of a
larger block, of which one holds another block with the skeleton of the functions.
-/
def similarNextToCopies : Fingerprints :=
  { path := { text := "copies.ir.json" }
    candidates :=
      functionsWithBlocks ++ [blockOn 6 71 78, similarOn 7 1 72 78, blockOn 6 81 88]
    chains := [] }

theorem copyClusters_similarNextToCopies :
    copyClusters [similarNextToCopies] = [[blockOn 6 71 78, blockOn 6 81 88]] := by
  cbv

theorem similarClustersOf_similarNextToCopies :
    similarClustersOf [similarNextToCopies] unconfigured = [similarFunctions] := by
  have eligible :
      (similarNextToCopies.candidates.filter fun candidate =>
        candidate.shape.isSome &&
          !([(blockOn 6 71 78).range, (blockOn 6 81 88).range] : List Range).any fun range =>
            range.covers candidate.range) =
        functionsWithBlocks.filter fun candidate =>
          candidate.shape.isSome && !([] : List Range).any fun range =>
            range.covers candidate.range := by decide
  have groups :
      similarGroups similarNextToCopies.candidates
          [(blockOn 6 71 78).range, (blockOn 6 81 88).range] 0.8 =
        [similarFunctions, similarBlocks] := by
    rw [← similarGroups_functionsWithBlocks, similarGroups, similarGroups, eligible]
  rw [similarClustersOf, copyClusters_similarNextToCopies, List.flatMap_singleton]
  change similarClusters similarNextToCopies.candidates
    [(blockOn 6 71 78).range, (blockOn 6 81 88).range] 0.8 = [similarFunctions]
  rw [similarClusters_eq_filter_map, groups]
  decide

/--
Of the similar pieces only the functions are reported: what lies inside them or inside a copy is
not.
-/
theorem detect_similarNextToCopies :
    unconfigured.isEnabled duplicateCodeId = true ∧
      unconfigured.isEnabled similarStructureId = true ∧
      (detect [similarNextToCopies] unconfigured).filter (·.ruleId == duplicateCodeId) =
        duplicateCode [blockOn 6 71 78, blockOn 6 81 88] ∧
      (detect [similarNextToCopies] unconfigured).filter (·.ruleId == similarStructureId) =
        similarStructure [similarOn 1 1 2 23, similarOn 3 1 24 45] ∧
      (∀ inner ∈ detect [similarNextToCopies] unconfigured, inner.ruleId = similarStructureId →
        ∀ outer ∈ detect [similarNextToCopies] unconfigured, outer.ruleId = similarStructureId →
          outer.range.covers inner.range = true → outer.range.same inner.range = true) := by
  have reportsCopies : unconfigured.isEnabled duplicateCodeId = true := by decide
  have reportsSimilar : unconfigured.isEnabled similarStructureId = true := by decide
  rcases detect_findings_do_not_nest [similarNextToCopies] unconfigured reportsCopies
    reportsSimilar with ⟨copies, similar, _, outermost, _⟩
  rw [copyClusters_similarNextToCopies, List.flatMap_singleton] at copies
  rw [similarClustersOf_similarNextToCopies, List.flatMap_singleton] at similar
  exact ⟨reportsCopies, reportsSimilar, copies, similar, outermost⟩

end StructuralLint.Duplication
