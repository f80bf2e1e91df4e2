import StructuralLint.Proofs.ExactCopies
import StructuralLint.Proofs.SimilarGroups

/-!
# Clusters of similar candidates

Of a group of similar candidates only the outermost ones are reported, those that lie strictly
inside no candidate of any group, and only if there are at least two of them.  Around every
candidate of a group lies an outermost one.  So a candidate is lost, in that no reported one lies
around it, exactly when every outermost candidate around it is the only one of its group.

That can happen: a block that is similar to blocks of two similar functions and stands in a third
function is the only outermost one of its group.
-/

namespace StructuralLint.Duplication

/-- The candidates of a group that lie strictly inside no candidate of some groups. -/
def outermostOf (groups : List (List Candidate)) (group : List Candidate) : List Candidate :=
  group.filter fun member => !groups.flatten.any fun other =>
    isStrictlyInside member.range other.range

@[simp]
theorem mem_outermostOf_iff {groups : List (List Candidate)} {group : List Candidate}
    {candidate : Candidate} :
    candidate ∈ outermostOf groups group ↔
      candidate ∈ group ∧
        ∀ other ∈ groups.flatten, ¬ isStrictlyInside candidate.range other.range = true := by
  simp only [outermostOf, List.mem_filter, Bool.not_eq_true', List.any_eq_false]

section Clusters

variable {candidates : List Candidate} {copies : List Range} {threshold : Float}

theorem similarClusters_eq_filter_map :
    similarClusters candidates copies threshold =
      ((similarGroups candidates copies threshold).map
        (outermostOf (similarGroups candidates copies threshold))).filter
          fun kept => 2 ≤ kept.length := by
  simp only [similarClusters, List.any_map]
  rfl

theorem mem_similarClusters_iff {cluster : List Candidate} :
    cluster ∈ similarClusters candidates copies threshold ↔
      ∃ group ∈ similarGroups candidates copies threshold,
        outermostOf (similarGroups candidates copies threshold) group = cluster ∧
          2 ≤ cluster.length := by
  rw [similarClusters_eq_filter_map, List.mem_filter, decide_eq_true_iff, List.mem_map]
  constructor
  · rintro ⟨⟨group, isGroup, equal⟩, two⟩
    exact ⟨group, isGroup, equal, two⟩
  · rintro ⟨group, isGroup, equal, two⟩
    exact ⟨⟨group, isGroup, equal⟩, two⟩

/-- Around every candidate of a group lies an outermost one. -/
theorem exists_mem_outermostOf {groups : List (List Candidate)} {group : List Candidate}
    {candidate : Candidate}
    (isGroup : group ∈ groups)
    (member : candidate ∈ group) :
    ∃ other ∈ groups, ∃ outermost ∈ outermostOf groups other,
      outermost.range.covers candidate.range = true := by
  rcases exists_outermost_of_mem (List.mem_flatten_of_mem isGroup member) with
    ⟨outermost, linked, covers, noneAround⟩
  rcases List.mem_flatten.mp linked with ⟨other, isOther, inOther⟩
  exact ⟨other, isOther, outermost, mem_outermostOf_iff.mpr ⟨inOther, noneAround⟩, covers⟩

theorem two_le_length_of_ne_singleton {members : List Candidate} {member : Candidate}
    (isMember : member ∈ members)
    (notAlone : members ≠ [member]) :
    2 ≤ members.length := by
  match members with
  | [] => cases isMember
  | [only] =>
      rw [List.mem_singleton.mp isMember] at notAlone
      exact absurd rfl notAlone
  | _ :: _ :: _ => exact Nat.le_add_left 2 _

/--
Around every candidate of a group of similar candidates lies an outermost candidate of some group.
A reported candidate lies around it exactly when one of these is not the only outermost candidate of
its group.
-/
theorem covered_iff_of_mem_similarGroups
    (candidates : List Candidate)
    (copies : List Range)
    (threshold : Float)
    (group : List Candidate)
    (isGroup : group ∈ similarGroups candidates copies threshold)
    (candidate : Candidate)
    (member : candidate ∈ group) :
    (∃ other ∈ similarGroups candidates copies threshold,
      ∃ outermost ∈ outermostOf (similarGroups candidates copies threshold) other,
        outermost.range.covers candidate.range = true) ∧
      ((∃ cluster ∈ similarClusters candidates copies threshold, ∃ reported ∈ cluster,
          reported.range.covers candidate.range = true) ↔
        ∃ other ∈ similarGroups candidates copies threshold,
          ∃ outermost ∈ outermostOf (similarGroups candidates copies threshold) other,
            outermost.range.covers candidate.range = true ∧
              outermostOf (similarGroups candidates copies threshold) other ≠ [outermost]) := by
  refine ⟨exists_mem_outermostOf isGroup member, ?_⟩
  constructor
  · rintro ⟨cluster, isCluster, reported, isReported, covers⟩
    rcases mem_similarClusters_iff.mp isCluster with ⟨other, isOther, rfl, two⟩
    refine ⟨other, isOther, reported, isReported, covers, ?_⟩
    intro alone
    rw [alone, List.length_singleton] at two
    exact absurd two (by decide)
  · rintro ⟨other, isOther, outermost, isOutermost, covers, notAlone⟩
    exact ⟨_, mem_similarClusters_iff.mpr
      ⟨other, isOther, rfl, two_le_length_of_ne_singleton isOutermost notAlone⟩,
      outermost, isOutermost, covers⟩

end Clusters

/-! ## A candidate that is lost -/

/-- A piece of code on some lines, with the digest of its skeleton. -/
def similarOn (exact shape : UInt64) (startLine endLine : UInt32) : Candidate :=
  { blockOn exact startLine endLine with shape := some shape }

/-- Two similar functions. -/
def similarFunctions : List Candidate :=
  [similarOn 1 1 2 23, similarOn 3 1 24 45]

/-- A block in each of the functions, and a similar block outside of them. -/
def similarBlocks : List Candidate :=
  [similarOn 2 2 6 23, similarOn 4 2 28 45, similarOn 5 2 51 68]

/-- The functions and the blocks. -/
def functionsWithBlocks : List Candidate :=
  [similarOn 1 1 2 23, similarOn 2 2 6 23, similarOn 3 1 24 45, similarOn 4 2 28 45,
    similarOn 5 2 51 68]

theorem similarGroups_functionsWithBlocks :
    similarGroups functionsWithBlocks [] 0.8 = [similarFunctions, similarBlocks] := by
  have eligible :
      (functionsWithBlocks.filter fun candidate =>
        candidate.shape.isSome && !([] : List Range).any fun range =>
          range.covers candidate.range) = functionsWithBlocks := by decide
  have byShape :
      buckets (fun candidate => candidate.shape.getD 0) functionsWithBlocks =
        [similarFunctions, similarBlocks] := by cbv
  have inOrder :
      sortMembers similarFunctions = similarFunctions ∧
        sortMembers similarBlocks = similarBlocks := by
    constructor <;> cbv
  have linked :
      linkSimilar 0.8 similarFunctions = [similarFunctions] ∧
        linkSimilar 0.8 similarBlocks = [similarBlocks] := by decide +kernel
  have several :
      [similarFunctions, similarBlocks].filter (fun members => 2 ≤ members.length) =
        [similarFunctions, similarBlocks] := by decide
  rw [similarGroups, eligible, byShape, several, List.flatMap_cons, List.flatMap_singleton,
    inOrder.1, inOrder.2, linked.1, linked.2, List.singleton_append]

/-- The block in the first function is not lost: the function lies around it and is reported. -/
theorem exists_reported_around_first_block :
    similarBlocks ∈ similarGroups functionsWithBlocks [] 0.8 ∧
      similarOn 2 2 6 23 ∈ similarBlocks ∧
        ∃ cluster ∈ similarClusters functionsWithBlocks [] 0.8, ∃ reported ∈ cluster,
          reported.range.covers (similarOn 2 2 6 23).range = true := by
  have isGroup : similarBlocks ∈ similarGroups functionsWithBlocks [] 0.8 := by
    rw [similarGroups_functionsWithBlocks]
    decide
  have member : similarOn 2 2 6 23 ∈ similarBlocks := by decide
  refine ⟨isGroup, member, ?_⟩
  rw [(covered_iff_of_mem_similarGroups _ _ _ _ isGroup _ member).2,
    similarGroups_functionsWithBlocks]
  exact ⟨similarFunctions, by decide, similarOn 1 1 2 23, by decide, by decide, by decide⟩

/--
The block outside of the functions is similar to the blocks in them, and no cluster has a member
around it.
-/
theorem exists_similar_without_reported_around :
    ¬ ∀ (candidates : List Candidate) (copies : List Range) (threshold : Float),
      ∀ group ∈ similarGroups candidates copies threshold, ∀ candidate ∈ group,
        ∃ cluster ∈ similarClusters candidates copies threshold, ∃ reported ∈ cluster,
          reported.range.covers candidate.range = true := by
  intro claim
  have clusters : similarClusters functionsWithBlocks [] 0.8 = [similarFunctions] := by
    rw [similarClusters_eq_filter_map, similarGroups_functionsWithBlocks]
    decide
  have isGroup : similarBlocks ∈ similarGroups functionsWithBlocks [] 0.8 := by
    rw [similarGroups_functionsWithBlocks]
    decide
  rcases claim functionsWithBlocks [] 0.8 similarBlocks isGroup (similarOn 5 2 51 68) (by decide)
    with ⟨cluster, isCluster, reported, isReported, covers⟩
  rw [clusters, List.mem_singleton] at isCluster
  subst isCluster
  have noneAround : ∀ reported ∈ similarFunctions,
      reported.range.covers (similarOn 5 2 51 68).range = false := by decide
  rw [noneAround reported isReported] at covers
  cases covers

end StructuralLint.Duplication
