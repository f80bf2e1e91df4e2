import StructuralLint.Duplication.Detect

/-!
# What findings on duplication point at

Clusters are made by sorting, bucketing and dropping candidates, and never by making new ones.  So
a finding on duplication stands at a candidate or a chain of one of the files that were compared,
and it carries the id of the rule that reports its kind of cluster.
-/

namespace StructuralLint.Duplication

/-! ## Members of clusters -/

theorem mem_of_mem_buckets {α : Type} {key : α → UInt64} {items bucket : List α} {item : α}
    (isBucket : bucket ∈ buckets key items)
    (member : item ∈ bucket) :
    item ∈ items := by
  rcases List.mem_map.mp isBucket with ⟨digest, _, rfl⟩
  exact (List.mem_filter.mp member).1

theorem collapse_sublist (classes : List (List Candidate)) (own : Nat) (met : List Nat)
    (members : List Candidate) :
    (collapse classes own met members).Sublist members := by
  induction members generalizing met with
  | nil => exact List.Sublist.slnil
  | cons member rest induction =>
      rw [collapse]
      split
      next => exact (induction met).cons_cons member
      next outer _ =>
        split
        · exact (induction met).cons member
        · exact (induction (outer :: met)).cons_cons member

theorem mem_of_mem_exactClusters {candidates cluster : List Candidate} {candidate : Candidate}
    (isCluster : cluster ∈ exactClusters candidates)
    (member : candidate ∈ cluster) :
    candidate ∈ candidates := by
  rcases List.mem_mapIdx.mp (List.mem_filter.mp isCluster).1 with ⟨index, bound, rfl⟩
  have sorted := (collapse_sublist _ _ _ _).subset member
  have isClass := (List.mem_filter.mp (List.getElem_mem bound)).1
  exact mem_of_mem_buckets isClass (List.mem_mergeSort.mp sorted)

theorem mem_of_mem_linkSimilar {threshold : Float} {members group : List Candidate}
    {candidate : Candidate}
    (isGroup : group ∈ linkSimilar threshold members)
    (member : candidate ∈ group) :
    candidate ∈ members := by
  rcases List.mem_map.mp (List.mem_filter.mp isGroup).1 with ⟨root, _, rfl⟩
  rcases List.mem_map.mp member with ⟨⟨linked, label⟩, isLabelled, rfl⟩
  exact (List.of_mem_zip (List.mem_filter.mp isLabelled).1).1

theorem mem_of_mem_similarGroups {candidates group : List Candidate} {copies : List Range}
    {threshold : Float} {candidate : Candidate}
    (isGroup : group ∈ similarGroups candidates copies threshold)
    (member : candidate ∈ group) :
    candidate ∈ candidates := by
  rcases List.mem_flatMap.mp isGroup with ⟨bucket, isBucket, isLinked⟩
  have sorted := mem_of_mem_linkSimilar isLinked member
  have eligible := mem_of_mem_buckets (List.mem_filter.mp isBucket).1 (List.mem_mergeSort.mp sorted)
  exact (List.mem_filter.mp eligible).1

theorem mem_of_mem_similarClusters {candidates cluster : List Candidate} {copies : List Range}
    {threshold : Float} {candidate : Candidate}
    (isCluster : cluster ∈ similarClusters candidates copies threshold)
    (member : candidate ∈ cluster) :
    candidate ∈ candidates := by
  rcases List.mem_map.mp (List.mem_filter.mp isCluster).1 with ⟨group, isGroup, rfl⟩
  exact mem_of_mem_similarGroups isGroup (List.mem_filter.mp member).1

/-! ## Rules and ranges of findings -/

theorem of_mem_perMember {ranges : List Range} {ruleId : String} {severity : Severity}
    {message : Nat → Nat → String} {violation : Violation}
    (member : violation ∈ perMember ranges ruleId severity message) :
    violation.ruleId = ruleId ∧ violation.range ∈ ranges := by
  rcases List.mem_mapIdx.mp member with ⟨position, bound, rfl⟩
  exact ⟨rfl, List.getElem_mem bound⟩

theorem of_mem_duplicateCode {members : List Candidate} {violation : Violation}
    (found : violation ∈ duplicateCode members) :
    violation.ruleId = duplicateCodeId ∧
      ∃ candidate ∈ members, candidate.range = violation.range := by
  rcases of_mem_perMember found with ⟨rule, range⟩
  exact ⟨rule, List.mem_map.mp range⟩

theorem of_mem_similarStructure {members : List Candidate} {violation : Violation}
    (found : violation ∈ similarStructure members) :
    violation.ruleId = similarStructureId ∧
      ∃ candidate ∈ members, candidate.range = violation.range := by
  rcases of_mem_perMember found with ⟨rule, range⟩
  exact ⟨rule, List.mem_map.mp range⟩

theorem of_mem_duplicateConditionals {chains : List Chain} {minLength : Nat}
    {violation : Violation}
    (found : violation ∈ duplicateConditionals chains minLength) :
    violation.ruleId = duplicateConditionalId ∧
      ∃ chain ∈ chains, chain.range = violation.range := by
  rcases List.mem_flatMap.mp found with ⟨bucket, isBucket, inBucket⟩
  rw [repeatedChains] at inBucket
  rcases of_mem_perMember inBucket with ⟨rule, range⟩
  rcases List.mem_map.mp range with ⟨chain, isSorted, equal⟩
  have eligible := mem_of_mem_buckets (List.mem_filter.mp isBucket).1
    (List.mem_mergeSort.mp isSorted)
  exact ⟨rule, chain, (List.mem_filter.mp eligible).1, equal⟩

/-- A range is that of a candidate or a chain of a file. -/
def Fingerprints.HasRange (fingerprints : Fingerprints) (range : Range) : Prop :=
  (∃ candidate ∈ fingerprints.candidates, candidate.range = range) ∨
    ∃ chain ∈ fingerprints.chains, chain.range = range

theorem exists_hasRange_of_candidate {files : List Fingerprints} {members : List Candidate}
    (candidates : ∀ candidate ∈ members, candidate ∈ files.flatMap (·.candidates))
    {range : Range}
    (standsAt : ∃ candidate ∈ members, candidate.range = range) :
    ∃ file ∈ files, file.HasRange range := by
  rcases standsAt with ⟨candidate, isMember, equal⟩
  rcases List.mem_flatMap.mp (candidates candidate isMember) with ⟨file, isFile, inFile⟩
  exact ⟨file, isFile, Or.inl ⟨candidate, inFile, equal⟩⟩

/-- A finding on duplication stands at a candidate or a chain of a file that was compared. -/
theorem exists_hasRange_of_mem_detect {files : List Fingerprints} {settings : ResolvedSettings}
    {violation : Violation}
    (found : violation ∈ detect files settings) :
    ∃ file ∈ files, file.HasRange violation.range := by
  simp only [detect, List.mem_append, List.mem_ite_nil_right, List.mem_flatMap] at found
  rcases found with (⟨_, cluster, isCluster, found⟩ | ⟨_, cluster, isCluster, found⟩) | ⟨_, found⟩
  · exact exists_hasRange_of_candidate (fun _ => mem_of_mem_exactClusters isCluster)
      (of_mem_duplicateCode found).2
  · exact exists_hasRange_of_candidate (fun _ => mem_of_mem_similarClusters isCluster)
      (of_mem_similarStructure found).2
  · rcases (of_mem_duplicateConditionals found).2 with ⟨chain, isChain, equal⟩
    rcases List.mem_flatMap.mp isChain with ⟨file, isFile, inFile⟩
    exact ⟨file, isFile, Or.inr ⟨chain, inFile, equal⟩⟩

end StructuralLint.Duplication
