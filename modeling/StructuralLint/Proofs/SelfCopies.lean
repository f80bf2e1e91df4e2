import Mathlib.Data.List.Duplicate
import StructuralLint.Proofs.AlphaEquivalence
import StructuralLint.Proofs.FailedFiles
import StructuralLint.Proofs.Measures
import StructuralLint.Proofs.NestedFindings
import StructuralLint.Proofs.RunFindings
import StructuralLint.Proofs.SizeLimits
import StructuralLint.Proofs.SourceOrder

/-!
# Copies of themselves

A finding on a copy relates to the members of its cluster at all other positions.  The others are
told apart by position and not by range, so a range that comes in twice is found as a copy of
itself.  This module says where that happens.  Two candidates with one range come from two models
with one path, or they are two nodes of one model with one span.  In a well-formed model one of
these nodes lies above the other, and then it has more tokens, or one ends before the other starts,
and then the span they share is empty.
-/

namespace StructuralLint

/-! ## Nodes with one span -/

namespace Duplication

/-- Every node has a token of its own, and some have one for their name. -/
theorem length_tokensAfter (root : NodeId) (names : List String) (nodes : List Node) :
    (tokensAfter root names nodes).length =
      nodes.length + nodes.countP fun node => (countedName? root node).isSome := by
  induction nodes generalizing names with
  | nil => rfl
  | cons node rest induction =>
      rw [tokensAfter]
      cases counted : countedName? root node with
      | none =>
          simp only [List.length_cons, induction]
          rw [List.countP_cons_of_neg (by simp [counted])]
          omega
      | some name =>
          simp only [List.length_cons, induction]
          rw [List.countP_cons_of_pos (by simp [counted])]
          omega

/-- Below another root a name counts as well, unless it is the name of that root. -/
theorem isSome_countedName?_of_ne {root other : NodeId} {node : Node}
    (notOther : node.id ≠ other)
    (counted : (countedName? root node).isSome = true) :
    (countedName? other node).isSome = true := by
  rcases Option.isSome_iff_exists.mp counted with ⟨name, isName⟩
  simp only [countedName?, Option.bind_eq_bind, Option.bind_eq_some_iff, Option.guard_eq_some',
    Bool.and_eq_true, bne_iff_ne, ne_eq] at isName
  rcases isName with ⟨_, ⟨_, notLiteral⟩, own, isOwn, _, notEmpty, _⟩
  simp [countedName?, notOther, notLiteral, isOwn, notEmpty]

end Duplication

/-- The walk down from a child is part of the walks down from all children. -/
theorem Model.descendants_child_sublist (model : Model) {node : Node} {child : NodeId}
    (listed : child ∈ node.children) :
    (model.descendants child).Sublist (node.children.flatMap model.descendants) :=
  List.sublist_flatten_of_mem (List.mem_map_of_mem listed)

namespace Model.IsWellFormed

open Duplication

variable {model : Model} (wellFormed : model.IsWellFormed)

include wellFormed

/-- What lies below an id is met in the same order on the walk down from the id. -/
theorem descendants_sublist {above below : NodeId}
    (reachable : Reachable model.nodes model.root above)
    (leads : Reachable model.nodes above below) :
    (model.descendants below).Sublist (model.descendants above) := by
  induction leads using Relation.ReflTransGen.head_induction_on with
  | refl => exact List.Sublist.refl _
  | head listed _ induction =>
      have subtree := induction (reachable.tail listed)
      rcases listed with ⟨node, member, rfl, listed⟩
      rw [wellFormed.descendants_eq member reachable]
      exact (subtree.trans (descendants_child_sublist model listed)).cons node

/-- A node has more tokens than any node below it. -/
theorem length_tokens_lt {above below : Node}
    (member : above ∈ model.nodes)
    (reachable : Reachable model.nodes model.root above.id)
    (leads : Relation.TransGen (ListsChild model.nodes) above.id below.id) :
    (tokens model below.id).length < (tokens model above.id).length := by
  rcases Relation.TransGen.head'_iff.mp leads with ⟨child, listsChild, childLeads⟩
  have subtree := wellFormed.descendants_sublist (reachable.tail listsChild) childLeads
  rcases listsChild with ⟨node, nodeMember, sameId, listed⟩
  rw [wellFormed.eq_of_id_eq nodeMember member sameId] at listed
  have inside :
      (model.descendants below.id).Sublist (above.children.flatMap model.descendants) :=
    subtree.trans (descendants_child_sublist model listed)
  have namesBelow :
      ((model.descendants below.id).countP fun node => (countedName? below.id node).isSome) ≤
        (model.descendants below.id).countP fun node => (countedName? above.id node).isSome := by
    apply List.countP_mono_left
    intro node isBelow
    apply isSome_countedName?_of_ne
    intro isAbove
    have leadsBack := (reachable_of_mem_descendantsWithin isBelow).2
    rw [isAbove] at leadsBack
    exact wellFormed.not_onCycle_of_reachable reachable (leads.trans_left leadsBack)
  have namesInside :
      ((model.descendants below.id).countP fun node => (countedName? above.id node).isSome) ≤
        (above.children.flatMap model.descendants).countP fun node =>
          (countedName? above.id node).isSome :=
    inside.countP_le
  have nodesInside := inside.length_le
  rw [tokens, tokens, length_tokensAfter, length_tokensAfter,
    wellFormed.descendants_eq member reachable, List.length_cons, List.countP_cons]
  omega

/--
Of two nodes with one span, of which the first is met first, the span is empty or the tokens
differ.
-/
theorem empty_or_tokens_ne_of_precedes {first second : Node}
    (firstMember : first ∈ model.nodes)
    (secondMember : second ∈ model.nodes)
    (reachable : Reachable model.nodes model.root first.id)
    (precedes : Precedes model.nodes first.id second.id)
    (different : first ≠ second)
    (sameSpan : first.span = second.span) :
    first.span.start = first.span.stop ∨ tokens model first.id ≠ tokens model second.id := by
  rcases wellFormed.reachable_or_stop_le_start firstMember secondMember precedes with
    leads | before
  · right
    rcases wellFormed.eq_or_below_of_reachable firstMember secondMember leads with
      same | properly
    · exact absurd same different
    · intro sameTokens
      have fewer := wellFormed.length_tokens_lt firstMember reachable properly
      rw [sameTokens] at fewer
      exact Nat.lt_irrefl _ fewer
  · left
    rw [← sameSpan] at before
    exact Position.le_antisymm (wellFormed.spansOrdered first firstMember) before

/--
Two nodes that hang from the root and share a span have different tokens, unless the span is
empty.
-/
theorem empty_or_tokens_ne {first second : Node}
    (firstHangs : first ∈ model.descendants model.root)
    (secondHangs : second ∈ model.descendants model.root)
    (different : first ≠ second)
    (sameSpan : first.span = second.span) :
    first.span.start = first.span.stop ∨ tokens model first.id ≠ tokens model second.id := by
  rcases wellFormed.mem_descendants_iff.mp firstHangs with ⟨firstMember, firstReachable⟩
  rcases wellFormed.mem_descendants_iff.mp secondHangs with ⟨secondMember, secondReachable⟩
  let Compares (first second : Node) : Prop :=
    Precedes model.nodes first.id second.id ∨ Precedes model.nodes second.id first.id
  have : Std.Symm Compares := ⟨fun _ _ => Or.symm⟩
  have compares : (model.descendants model.root).Pairwise Compares :=
    (pairwise_precedes_descendantsWithin model _ model.root).imp Or.inl
  rcases compares.forall firstHangs secondHangs different with precedes | precedes
  · exact wellFormed.empty_or_tokens_ne_of_precedes firstMember secondMember firstReachable precedes
      different sameSpan
  · rw [sameSpan]
    exact (wellFormed.empty_or_tokens_ne_of_precedes secondMember firstMember secondReachable
      precedes different.symm sameSpan.symm).imp_right Ne.symm

end Model.IsWellFormed

namespace Duplication

/-! ## Candidates at one range -/

/-- Two candidates with one digest stand at a range. -/
structure ShareRange (range : Range) (first second : Candidate) : Prop where
  digest : first.exact = second.exact
  firstAt : range.same first.range = true
  secondAt : range.same second.range = true

theorem ShareRange.symm {range : Range} {first second : Candidate}
    (share : ShareRange range first second) :
    ShareRange range second first :=
  ⟨share.digest.symm, share.secondAt, share.firstAt⟩

/--
Different nodes of a model stand at a range, and their tokens have one digest although either
nothing lies between the ends of the range or the tokens differ.
-/
structure CollideAt (model : Model) (range : Range) (first second : Node) : Prop where
  different : first ≠ second
  firstAt : range.same (model.range first) = true
  secondAt : range.same (model.range second) = true
  digest : exactDigest (tokens model first.id) = exactDigest (tokens model second.id)
  emptyOrTokens :
    range.span.start = range.span.stop ∨ tokens model first.id ≠ tokens model second.id

/-- A model has two nodes that are candidates and collide at a range. -/
def HasCollision (model : Model) (minStatements : Nat) (range : Range) : Prop :=
  ∃ first ∈ model.nodes, ∃ second ∈ model.nodes,
    (candidate? model minStatements first).isSome = true ∧
      (candidate? model minStatements second).isSome = true ∧
        CollideAt model range first second

theorem range_of_candidate?_eq_some {model : Model} {minStatements : Nat} {node : Node}
    {candidate : Candidate}
    (found : candidate? model minStatements node = some candidate) :
    candidate.range = model.range node := by
  simp only [candidate?, Option.bind_eq_bind, Option.bind_eq_some_iff] at found
  rcases found with ⟨_, _, _, _, equal⟩
  cases equal
  rfl

/-- In a well-formed model no two candidates share a range unless their nodes collide. -/
theorem pairwise_candidates_of_no_collision {model : Model} {minStatements : Nat} {range : Range}
    (wellFormed : model.IsWellFormed)
    (none : ¬ HasCollision model minStatements range) :
    (Fingerprints.ofModel model minStatements).candidates.Pairwise fun first second =>
      ¬ ShareRange range first second := by
  rw [Fingerprints.ofModel, List.pairwise_filterMap]
  have distinct : model.nodes.Nodup := List.Nodup.of_map _ wellFormed.distinctIds
  apply distinct.imp_of_mem
  intro first second firstMember secondMember different candidate isFirst other isSecond share
  have firstIs := isCandidateAt_of_eq_some isFirst
  have secondIs := isCandidateAt_of_eq_some isSecond
  have firstAt := share.firstAt
  have secondAt := share.secondAt
  rw [range_of_candidate?_eq_some isFirst] at firstAt
  rw [range_of_candidate?_eq_some isSecond] at secondAt
  have firstSpan : range.span = first.span := ((Range.same_iff _ _).mp firstAt).2
  have secondSpan : range.span = second.span := ((Range.same_iff _ _).mp secondAt).2
  apply none
  refine ⟨first, firstMember, second, secondMember, Option.isSome_of_eq_some isFirst,
    Option.isSome_of_eq_some isSecond, different, firstAt, secondAt, ?_, ?_⟩
  · rw [← firstIs.exact, ← secondIs.exact]
    exact share.digest
  · rw [firstSpan]
    exact wellFormed.empty_or_tokens_ne
      (wellFormed.mem_descendants_of_not_comment firstMember firstIs.notComment)
      (wellFormed.mem_descendants_of_not_comment secondMember secondIs.notComment) different
      (firstSpan.symm.trans secondSpan)

theorem two_le_length_of_hasCollision {model : Model} {minStatements : Nat} {range : Range}
    (collision : HasCollision model minStatements range) :
    2 ≤ (Fingerprints.ofModel model minStatements).candidates.length := by
  rcases collision with ⟨first, firstMember, second, secondMember, firstIs, secondIs, collide⟩
  have found : [first, second] ⊆ model.nodes.filter fun node =>
      (candidate? model minStatements node).isSome := by
    rw [List.cons_subset, List.cons_subset, List.mem_filter, List.mem_filter]
    exact ⟨⟨firstMember, firstIs⟩, ⟨secondMember, secondIs⟩, List.nil_subset _⟩
  have distinct : [first, second].Nodup := by simp [collide.different]
  calc 2
    _ ≤ _ := distinct.length_le_of_subset found
    _ = _ := by
      rw [Fingerprints.ofModel, List.length_filterMap_eq_countP, List.countP_eq_length_filter]

/-! ## Clusters -/

theorem pairwise_cluster {candidates cluster : List Candidate} {range : Range}
    (isCluster : cluster ∈ exactClusters candidates)
    (apart : candidates.Pairwise fun first second => ¬ ShareRange range first second) :
    cluster.Pairwise fun first second => ¬ ShareRange range first second := by
  rcases mem_exactClusters_iff.mp isCluster with ⟨digest, _, rfl, _⟩
  rcases keptCopies_subperm candidates digest with ⟨listed, perm, sublist⟩
  have symmetric {first second : Candidate} (notShared : ¬ ShareRange range first second) :
      ¬ ShareRange range second first := fun share => notShared share.symm
  apply (perm.pairwise_iff symmetric).mp
  exact apart.sublist (sublist.trans List.filter_sublist)

/-- A finding on a cluster relates to its own range only if two members share the range. -/
theorem not_pairwise_of_relatesTo {candidates cluster : List Candidate} {violation : Violation}
    (isCluster : cluster ∈ exactClusters candidates)
    (found : violation ∈ duplicateCode cluster)
    (toItself : RelatesTo violation.related violation.range) :
    ¬ candidates.Pairwise fun first second => ¬ ShareRange violation.range first second := by
  intro apart
  have clusterApart := List.pairwise_iff_getElem.mp (pairwise_cluster isCluster apart)
  rcases mem_exactClusters_iff.mp isCluster with ⟨digest, _, rfl, _⟩
  rcases List.mem_mapIdx.mp found with ⟨position, bound, rfl⟩
  rcases toItself with ⟨back, related, same⟩
  rcases List.mem_eraseIdx_iff_getElem.mp related with ⟨other, otherBound, different, rfl⟩
  rw [List.length_map] at bound otherBound
  rw [Range.same_iff, List.getElem_map, List.getElem_map] at same
  have share :
      ShareRange (keptCopies candidates digest)[position].range
        (keptCopies candidates digest)[position] (keptCopies candidates digest)[other] := by
    refine ⟨?_, ?_, ?_⟩
    · rw [exact_eq_of_mem_keptCopies (List.getElem_mem bound),
        exact_eq_of_mem_keptCopies (List.getElem_mem otherBound)]
    · rw [Range.same_iff]
      exact ⟨rfl, rfl⟩
    · rw [Range.same_iff]
      exact ⟨same.1.symm, same.2.symm⟩
  simp only [List.getElem_map] at clusterApart
  rcases Nat.lt_or_gt_of_ne different with before | after
  · exact clusterApart other position otherBound bound before share.symm
  · exact clusterApart position other bound otherBound after share

/-- Nothing drops a candidate without a class around it, however often it comes in. -/
theorem count_collapse_of_eq_none {classes : List (List Candidate)} {own : Nat}
    {candidate : Candidate}
    (noneAround : enclosingClass? classes own candidate.range = none)
    (met : List Nat) (members : List Candidate) :
    (collapse classes own met members).count candidate = members.count candidate := by
  induction members generalizing met with
  | nil => rfl
  | cons member rest induction =>
      rw [collapse]
      split
      next => rw [List.count_cons, List.count_cons, induction]
      next outer found =>
        have isOther : candidate ≠ member := by
          rintro rfl
          rw [noneAround] at found
          cases found
        rw [List.count_cons_of_ne isOther.symm]
        split
        · exact induction met
        · rw [List.count_cons_of_ne isOther.symm, induction]

/-- A cluster of copies keeps all occurrences of a candidate that lies strictly inside no other. -/
theorem count_cluster {candidates cluster : List Candidate} {candidate : Candidate}
    (isCluster : cluster ∈ exactClusters candidates)
    (isMember : candidate ∈ cluster)
    (outermost : ∀ other ∈ candidates, isStrictlyInside candidate.range other.range = false) :
    cluster.count candidate = candidates.count candidate := by
  rcases mem_exactClusters_iff.mp isCluster with ⟨digest, _, rfl, _⟩
  have isOwn := exact_eq_of_mem_keptCopies isMember
  have noneAround :
      enclosingClass? (exactClasses candidates) (position candidates digest) candidate.range =
        none := by
    rw [enclosingClass?_eq_none_iff]
    rintro outer _ _ ⟨other, isOther, inside⟩
    rw [outermost other (mem_copiesOf_iff.mp isOther).1] at inside
    cases inside
  rw [keptCopies, count_collapse_of_eq_none noneAround, sortMembers,
    (List.mergeSort_perm _ _).count_eq, copiesOf, List.count_filter (by simp [isOwn])]

/-- What is found at the range of a member that a cluster holds twice relates to itself. -/
theorem relatesTo_of_two_le_count {cluster : List Candidate} {candidate : Candidate}
    {violation : Violation}
    (twice : 2 ≤ cluster.count candidate)
    (found : violation ∈ duplicateCode cluster)
    (inRange : candidate.range.same violation.range = true) :
    RelatesTo violation.related violation.range := by
  rcases List.duplicate_iff_exists_distinct_get.mp (List.duplicate_iff_two_le_count.mpr twice) with
    ⟨first, second, before, isFirst, isSecond⟩
  rcases List.mem_mapIdx.mp found with ⟨position, bound, rfl⟩
  have related (other : Fin cluster.length) (isOther : candidate = cluster.get other)
      (different : other.val ≠ position) :
      candidate.range ∈ othersThan (cluster.map (·.range)) position := by
    refine List.mem_eraseIdx_iff_getElem.mpr ⟨other, by simp, different, ?_⟩
    rw [List.getElem_map, isOther]
    rfl
  by_cases isPosition : first.val = position
  · exact ⟨_, related second isSecond (isPosition ▸ (Nat.ne_of_lt before).symm), inRange⟩
  · exact ⟨_, related first isFirst isPosition, inRange⟩

/-- A candidate that comes in twice and lies strictly inside no other is found. -/
theorem exists_mem_duplicateCode_of_two_le_count {candidates : List Candidate}
    {candidate : Candidate}
    (twice : 2 ≤ candidates.count candidate)
    (outermost : ∀ other ∈ candidates, isStrictlyInside candidate.range other.range = false) :
    ∃ cluster ∈ exactClusters candidates, ∃ violation ∈ duplicateCode cluster,
      violation.range = candidate.range := by
  have member : candidate ∈ candidates := List.count_pos_iff.mp (by omega)
  have shared : IsShared candidates candidate.exact := by
    calc 2
      _ ≤ candidates.count candidate := twice
      _ = (copiesOf candidates candidate.exact).count candidate :=
        (List.count_filter (by simp)).symm
      _ ≤ (copiesOf candidates candidate.exact).length := List.count_le_length
  have noneAround (digest : UInt64) (_ : IsShared candidates digest) :
      ¬ Encloses candidates digest candidate.range := by
    rintro ⟨other, isOther, inside⟩
    rw [outermost other (mem_copiesOf_iff.mp isOther).1] at inside
    cases inside
  rcases exists_mem_exactClusters_of_outermost member shared noneAround with
    ⟨cluster, isCluster, isMember⟩
  rcases List.getElem_of_mem isMember with ⟨position, bound, rfl⟩
  have inRanges : position < (cluster.map (·.range)).length := by simpa using bound
  exact ⟨cluster, isCluster, _, List.mem_mapIdx.mpr ⟨position, inRanges, rfl⟩, by simp⟩

/-- What lies strictly inside nothing shares this with all of its range. -/
theorem isStrictlyInside_eq_false_of_same {inner other outer : Range}
    (same : inner.same other = true)
    (outermost : isStrictlyInside other outer = false) :
    isStrictlyInside inner outer = false := by
  rw [← Bool.not_eq_true, isStrictlyInside_iff_lt] at outermost ⊢
  intro inside
  exact outermost (((Range.same_iff_le_and_le _ _).mp same).2.trans_lt inside)

end Duplication

namespace Engine

/-! ## The report -/

/-- The candidates that a run compares. -/
def candidatesOf (engine : Engine) (files : List SourceFile) : List Duplication.Candidate :=
  ((files.map engine.outcomeOf).filterMap (·.fingerprints)).flatMap (·.candidates)

/-- What a diagnostic reports is found by a rule on nodes in one of the files. -/
def IsFoundByRule (engine : Engine) (files : List SourceFile) (diagnostic : Diagnostic) : Prop :=
  ∃ source ∈ files, ∃ adapter model file violations,
    engine.modelOf source = .ok (adapter, model) ∧
      Registry.File.ofModel adapter model = .ok file ∧
      engine.registry.evaluate engine.settings file = .ok violations ∧
      ∃ violation ∈ violations, violation.toDiagnostic = diagnostic

/-- A model with a path is obtained of a file. -/
def HasModelWithPath (engine : Engine) (path : SourcePath) (file : SourceFile) : Prop :=
  ∃ adapter model, engine.modelOf file = .ok (adapter, model) ∧ path.same model.path = true

/-- The list names a path more than once: models with the path are obtained at two positions. -/
def NamesTwice (engine : Engine) (files : List SourceFile) (path : SourcePath) : Prop :=
  ∃ first second : Fin files.length,
    first ≠ second ∧ engine.HasModelWithPath path files[first] ∧
      engine.HasModelWithPath path files[second]

/-- Two candidates of one file collide at a range. -/
def HasCollision (engine : Engine) (files : List SourceFile) (range : Range) : Prop :=
  ∃ file ∈ files, ∃ adapter model,
    engine.modelOf file = .ok (adapter, model) ∧
      Duplication.HasCollision model engine.settings.minDuplicateStatements range

section Report

variable {engine : Engine} {files : List SourceFile}

theorem exists_model_of_fingerprints_eq_some {file : SourceFile}
    {fingerprints : Duplication.Fingerprints}
    (found : (engine.outcomeOf file).fingerprints = some fingerprints) :
    ∃ adapter model,
      engine.modelOf file = .ok (adapter, model) ∧
        Duplication.Fingerprints.ofModel model engine.settings.minDuplicateStatements =
          fingerprints := by
  rw [outcomeOf, analyzeFile] at found
  cases obtained : engine.modelOf file with
  | error fault =>
      rw [obtained] at found
      cases found
  | ok pair =>
      rcases pair with ⟨adapter, model⟩
      rw [obtained] at found
      cases analyzed : engine.analyzeModel adapter model with
      | error breakdown =>
          simp only [analyzed] at found
          cases found
      | ok outcome =>
          rcases analyzeModel_eq_ok_iff.mp analyzed with ⟨_, _, _, _, rfl⟩
          simp only [analyzed] at found
          exact ⟨adapter, model, rfl,
            Option.some.inj (Option.ite_none_right_eq_some.mp found).2⟩

/-- A reported copy is found by a rule on nodes, or on a cluster of the candidates of the run. -/
theorem exists_cluster_of_mem_finish {diagnostic : Diagnostic}
    (complete : engine.WorksThrough files)
    (isReported : diagnostic ∈ (engine.found files).finish)
    (isCopy : diagnostic.ruleId = Duplication.duplicateCodeId) :
    engine.IsFoundByRule files diagnostic ∨
      ∃ cluster ∈ Duplication.exactClusters (engine.candidatesOf files),
        ∃ violation ∈ Duplication.duplicateCode cluster,
          violation.toDiagnostic = diagnostic := by
  rcases (Findings.mem_unsilenced_iff _ _).mp (Findings.mem_unsilenced_of_mem_finish isReported)
    with ⟨violation, isFound, _, rfl⟩
  change violation.ruleId = Duplication.duplicateCodeId at isCopy
  rcases List.mem_append.mp isFound with inFile | isDuplicate
  · left
    rw [List.flatMap_map] at inFile
    rcases List.mem_flatMap.mp inFile with ⟨file, isFile, ofFile⟩
    have notOwn : violation.ruleId ∉ [parseErrorId, modelInvariantId, unknownSuppressionId] := by
      rw [isCopy]
      decide
    rcases (mem_violations_iff_mem_evaluate (complete.analyzeFile_eq isFile) notOwn).mp ofFile with
      ⟨adapter, model, rulesFile, violations, obtained, isRulesFile, evaluated, member⟩
    exact ⟨file, isFile, adapter, model, rulesFile, violations, obtained, isRulesFile, evaluated,
      violation, member, rfl⟩
  · right
    have onCopies := Duplication.mem_copyFindings_iff.mpr ⟨isDuplicate, isCopy⟩
    rcases (Duplication.of_mem_copyFindings onCopies).2 with ⟨cluster, isCluster, onCluster⟩
    exact ⟨cluster, isCluster, violation, onCluster, rfl⟩

/-- No two candidates of a run share a range where no path is named twice and nothing collides. -/
theorem pairwise_candidatesOf
    (accepts : ∀ entry ∈ engine.adapters.entries, entry.2.YieldsAccepted)
    {range : Range}
    (namedOnce : ¬ engine.NamesTwice files range.file)
    (none : ¬ engine.HasCollision files range) :
    (engine.candidatesOf files).Pairwise fun first second =>
      ¬ Duplication.ShareRange range first second := by
  rw [candidatesOf, List.pairwise_flatMap, List.pairwise_filterMap, List.pairwise_map]
  constructor
  · intro fingerprints compared
    rw [List.filterMap_map] at compared
    rcases List.mem_filterMap.mp compared with ⟨file, isFile, ofFile⟩
    rcases exists_model_of_fingerprints_eq_some ofFile with ⟨adapter, model, obtained, rfl⟩
    apply Duplication.pairwise_candidates_of_no_collision
      (wellFormed_of_modelOf_eq_ok accepts obtained)
    intro collision
    exact none ⟨file, isFile, adapter, model, obtained, collision⟩
  · rw [List.pairwise_iff_getElem]
    intro first second firstBound secondBound before left ofFirst right ofSecond candidate isLeft
      other isRight share
    rcases exists_model_of_fingerprints_eq_some ofFirst with ⟨leftAdapter, leftModel, isFirst, rfl⟩
    rcases exists_model_of_fingerprints_eq_some ofSecond with
      ⟨rightAdapter, rightModel, isSecond, rfl⟩
    rcases List.mem_filterMap.mp isLeft with ⟨node, _, isCandidate⟩
    rcases List.mem_filterMap.mp isRight with ⟨otherNode, _, isOther⟩
    have firstAt := share.firstAt
    have secondAt := share.secondAt
    rw [Duplication.range_of_candidate?_eq_some isCandidate] at firstAt
    rw [Duplication.range_of_candidate?_eq_some isOther] at secondAt
    rw [Range.same, Bool.and_eq_true] at firstAt secondAt
    refine namedOnce ⟨⟨first, firstBound⟩, ⟨second, secondBound⟩, ?_, ?_, ?_⟩
    · exact Fin.ne_of_lt before
    · exact ⟨leftAdapter, leftModel, isFirst, firstAt.1⟩
    · exact ⟨rightAdapter, rightModel, isSecond, secondAt.1⟩

end Report

/-! ## A file that is listed twice -/

/--
Where all candidates at a range come in twice and lie strictly inside no other, the range is
reported as a copy of itself.
-/
theorem exists_copy_of_itself {engine : Engine} {files : List SourceFile}
    (complete : engine.WorksThrough files)
    (isEnabled : engine.settings.isEnabled Duplication.duplicateCodeId = true)
    (noRule :
      ∀ diagnostic, diagnostic.ruleId = Duplication.duplicateCodeId →
        ¬ engine.IsFoundByRule files diagnostic)
    {candidate : Duplication.Candidate}
    (member : candidate ∈ engine.candidatesOf files)
    (twice :
      ∀ other ∈ engine.candidatesOf files, other.range.same candidate.range = true →
        2 ≤ (engine.candidatesOf files).count other)
    (outermost :
      ∀ other ∈ engine.candidatesOf files,
        Duplication.isStrictlyInside candidate.range other.range = false)
    (unsilenced :
      ¬ Silenced (engine.found files).suppressions Duplication.duplicateCodeId candidate.range) :
    ∃ diagnostic ∈ (engine.found files).finish,
      diagnostic.ruleId = Duplication.duplicateCodeId ∧
        diagnostic.range.same candidate.range = true ∧
        Duplication.RelatesTo diagnostic.related diagnostic.range := by
  have sameAsItself : candidate.range.same candidate.range = true :=
    (Range.same_iff _ _).mpr ⟨rfl, rfl⟩
  rcases Duplication.exists_mem_duplicateCode_of_two_le_count
    (twice candidate member sameAsItself) outermost with
    ⟨cluster, isCluster, violation, onCluster, atCandidate⟩
  have isCopy := (Duplication.of_mem_duplicateCode onCluster).1
  have isFound : violation ∈ (engine.found files).violations := by
    apply List.mem_append_right
    apply (Duplication.mem_copyFindings_iff.mp _).1
    rw [Duplication.copyFindings, if_pos isEnabled]
    exact List.mem_flatMap.mpr ⟨cluster, isCluster, onCluster⟩
  have isUnsilenced : violation.toDiagnostic ∈ (engine.found files).unsilenced := by
    rw [Findings.mem_unsilenced_iff]
    exact ⟨violation, isFound, by rwa [isCopy, atCandidate], rfl⟩
  rcases Findings.exists_mem_finish isUnsilenced with ⟨reported, isReported, samePlace, _⟩
  rw [← Diagnostic.sameFinding_iff, Diagnostic.sameFinding, Bool.and_eq_true, beq_iff_eq]
    at samePlace
  have reportedAt : reported.range.same candidate.range = true := by
    rw [← atCandidate]
    exact samePlace.2
  have reportsCopy : reported.ruleId = Duplication.duplicateCodeId := samePlace.1.trans isCopy
  refine ⟨reported, isReported, reportsCopy, reportedAt, ?_⟩
  -- What is reported there may be found on another candidate, but that comes in twice as well.
  rcases exists_cluster_of_mem_finish complete isReported reportsCopy with
    byRule | ⟨other, isOther, onOther, found, rfl⟩
  · exact absurd byRule (noRule reported reportsCopy)
  rcases (Duplication.of_mem_duplicateCode found).2 with ⟨copy, copyMember, copyAt⟩
  have copyRange : copy.range.same candidate.range = true := by
    rw [copyAt]
    exact reportedAt
  have isCandidate := Duplication.mem_of_mem_exactClusters isOther copyMember
  have kept := Duplication.count_cluster isOther copyMember fun outer isOuter =>
    Duplication.isStrictlyInside_eq_false_of_same copyRange (outermost outer isOuter)
  have copyTwice : 2 ≤ other.count copy := by
    rw [kept]
    exact twice copy isCandidate copyRange
  apply Duplication.relatesTo_of_two_le_count copyTwice found
  rw [copyAt]
  exact (Range.same_iff _ _).mpr ⟨rfl, rfl⟩

/-- No rule of the library reports under the id of copies. -/
theorem not_isFoundByRule_of_builtin {engine : Engine} {files : List SourceFile}
    (rules : engine.registry = Registry.builtin)
    {diagnostic : Diagnostic}
    (isCopy : diagnostic.ruleId = Duplication.duplicateCodeId) :
    ¬ engine.IsFoundByRule files diagnostic := by
  rintro ⟨_, _, _, _, file, violations, _, _, evaluated, violation, found, rfl⟩
  change violation.ruleId = Duplication.duplicateCodeId at isCopy
  rw [rules] at evaluated
  rcases (Registry.mem_iff_of_evaluate_eq_ok Registry.isIndexed_builtin evaluated).mp found with
    ⟨node, _, rule, isRule, _, context, _, reports⟩
  have own := Rule.reportsOwnId_of_mem_builtin (Registry.mem_builtin isRule)
  apply id_not_mem_otherIds_of_builtin isRule
  rw [← own.ruleId_of_reports reports, isCopy]
  decide

/-- Of a file that is listed twice every candidate comes in twice. -/
theorem candidatesOf_pair {engine : Engine} {source : SourceFile} {adapter : Adapter}
    {model : Model}
    (obtained : engine.modelOf source = .ok (adapter, model))
    (complete : engine.WorksThrough [source, source])
    (isEnabled : engine.settings.isEnabled Duplication.duplicateCodeId = true) :
    engine.candidatesOf [source, source] =
      (Duplication.Fingerprints.ofModel model engine.settings.minDuplicateStatements).candidates ++
        (Duplication.Fingerprints.ofModel model
          engine.settings.minDuplicateStatements).candidates := by
  have compares : engine.comparesFiles = true := by
    simp [comparesFiles, Duplication.catalog, isEnabled]
  have fingerprints :
      (engine.outcomeOf source).fingerprints =
        some (.ofModel model engine.settings.minDuplicateStatements) := by
    have analyzed := complete.analyzeFile_eq List.mem_cons_self
    rw [analyzeFile, obtained] at analyzed
    rcases analyzeModel_eq_ok_iff.mp analyzed with ⟨_, _, _, _, isOutcome⟩
    rw [isOutcome]
    exact if_pos compares
  simp [candidatesOf, fingerprints]

/-- A file without comments silences nothing. -/
theorem suppressions_outcomeOf_eq_nil {engine : Engine} {source : SourceFile} {adapter : Adapter}
    {model : Model}
    (obtained : engine.modelOf source = .ok (adapter, model))
    (noComments : model.nodesOfKind .comment = []) :
    (engine.outcomeOf source).suppressions = [] := by
  rw [outcomeOf, analyzeFile, obtained]
  cases analyzed : engine.analyzeModel adapter model with
  | error breakdown => simp only [analyzed]
  | ok outcome =>
      rcases analyzeModel_eq_ok_iff.mp analyzed with ⟨_, _, _, _, rfl⟩
      simp only [analyzed]
      simp [Suppression.collect, Suppression.markers, noComments]

/-! ## Copies of themselves -/

/--
Copies are told apart by their positions.  When a completed run reports a range as a copy of itself,
the list names the path of the range more than once, or two nodes of one file collide there, or a
rule of the engine reports under the id of copies.
-/
theorem analyze_relates_copy_to_itself_only_if
    (engine : Engine)
    (accepts : ∀ entry ∈ engine.adapters.entries, entry.2.YieldsAccepted)
    (token : Bool)
    (files : List SourceFile)
    (report : Report)
    (completed : (engine.analyze token files).1 = some (.ok report))
    (diagnostic : Diagnostic)
    (isReported : diagnostic ∈ report.diagnostics)
    (isCopy : diagnostic.ruleId = Duplication.duplicateCodeId)
    (toItself : Duplication.RelatesTo diagnostic.related diagnostic.range) :
    engine.NamesTwice files diagnostic.range.file ∨
      engine.HasCollision files diagnostic.range ∨
      engine.IsFoundByRule files diagnostic := by
  rcases analyze_eq_ok_iff.mp completed with ⟨_, _, complete, rfl⟩
  rcases exists_cluster_of_mem_finish complete isReported isCopy with
    byRule | ⟨cluster, isCluster, violation, found, rfl⟩
  · exact Or.inr (Or.inr byRule)
  · by_contra neither
    push Not at neither
    rcases neither with ⟨namedOnce, none, _⟩
    exact Duplication.not_pairwise_of_relatesTo isCluster found toItself
      (pairwise_candidatesOf accepts namedOnce none)

/-- A module with a function of three statements. -/
def stepFile : SourceFile :=
  { path := { text := "src/a.json" }
    contents :=
      "[null, 0, [[0, \"Module\", [1, 1, 4, 9], [1]], " ++
        "[1, \"Function\", [1, 1, 4, 9], [2, 3, 4], [], \"step\"], " ++
        "[2, \"Statement\", [2, 1, 2, 9]], [3, \"Statement\", [3, 1, 3, 9]], " ++
        "[4, \"Statement\", [4, 1, 4, 9]]]]" }

/-- Its document has one candidate, no comments and no function with too many lines to count. -/
theorem exists_readDocument_step :
    ∃ model,
      Adapter.readDocument Adapter.silent stepFile.contents stepFile.path = .parsed model ∧
        (Duplication.Fingerprints.ofModel model 3).candidates.length = 1 ∧
        model.nodesOfKind .comment = [] ∧
        ∀ function ∈ model.nodesOfKind .function, ¬ function.span.HasEveryLine := by
  have readable :
      (match Adapter.readDocument Adapter.silent stepFile.contents stepFile.path with
        | .parsed model =>
            (Duplication.Fingerprints.ofModel model 3).candidates.length == 1 &&
              (model.nodesOfKind .comment).isEmpty &&
              (model.nodesOfKind .function).all fun function => !decide function.span.HasEveryLine
        | _ => false) = true := by
    decide +kernel
  split at readable
  next model parsed =>
    rw [Bool.and_eq_true, Bool.and_eq_true, beq_iff_eq, List.isEmpty_iff, List.all_eq_true]
      at readable
    refine ⟨model, parsed, readable.1.1, readable.1.2, fun function isFunction => ?_⟩
    simpa using readable.2 function isFunction
  next => cases readable

theorem exists_configure_comparing :
    ∃ engine,
      configure {} Registry.builtin (AdapterSet.builtin Adapter.silent) {} = .ok engine ∧
        engine.settings.isEnabled Duplication.duplicateCodeId = true ∧
        engine.settings.minDuplicateStatements = 3 :=
  ⟨_, rfl, by decide +kernel, rfl⟩

section Step

variable {engine : Engine}
  (configured :
    configure {} Registry.builtin (AdapterSet.builtin Adapter.silent) {} = .ok engine)

include configured

theorem exists_modelOf_step :
    ∃ model,
      engine.modelOf stepFile = .ok (.modelDocument Adapter.silent, model) ∧
        (Duplication.Fingerprints.ofModel model 3).candidates.length = 1 ∧
        model.nodesOfKind .comment = [] ∧ engine.WorksThrough [stepFile, stepFile] := by
  rcases of_configure_eq_ok configured with ⟨_, rules, adapters, _⟩
  rcases exists_readDocument_step with ⟨model, parsed, single, noComments, countable⟩
  have obtained : engine.modelOf stepFile = .ok (.modelDocument Adapter.silent, model) := by
    rw [modelOf_of_builtin adapters (by decide +kernel), parsed]
    rfl
  have isFile :
      ∃ file, Registry.File.ofModel (.modelDocument Adapter.silent) model = .ok file :=
    Registry.File.exists_ofModel_eq_ok_iff.mpr countable
  rcases isFile with ⟨file, isFile⟩
  refine ⟨model, obtained, single, noComments, fun source isSource => ?_⟩
  have isStep : source = stepFile := by simpa using isSource
  subst isStep
  refine exists_analyzeFile_eq_ok rules obtained isFile fun node member isComment _ _ => ?_
  have isCommentNode : node ∈ model.nodesOfKind .comment :=
    List.mem_filter.mpr ⟨member, beq_iff_eq.mpr isComment⟩
  rw [noComments] at isCommentNode
  cases isCommentNode

/-- The one candidate of the file is reported as a copy of itself. -/
theorem exists_copy_of_step
    (isEnabled : engine.settings.isEnabled Duplication.duplicateCodeId = true)
    (least : engine.settings.minDuplicateStatements = 3) :
    ∃ report,
      engine.analyze false [stepFile, stepFile] = (some (.ok report), false) ∧
        ∃ diagnostic ∈ report.diagnostics,
          diagnostic.ruleId = Duplication.duplicateCodeId ∧
            Duplication.RelatesTo diagnostic.related diagnostic.range := by
  rcases of_configure_eq_ok configured with ⟨_, rules, adapters, _⟩
  rcases exists_modelOf_step configured with ⟨model, obtained, single, noComments, complete⟩
  have undisturbed : ∀ file ∈ [stepFile, stepFile], engine.cancelsAt file = false :=
    fun file _ => cancelsAt_eq_false_of_builtin adapters file
  refine ⟨_, analyze_eq_ok undisturbed (poolFault?_eq_none configured) complete, ?_⟩
  rcases List.length_eq_one_iff.mp single with ⟨candidate, isOnly⟩
  have candidates : engine.candidatesOf [stepFile, stepFile] = [candidate, candidate] := by
    rw [candidatesOf_pair obtained complete isEnabled, least, isOnly]
    rfl
  have isCandidate {other : Duplication.Candidate}
      (listed : other ∈ engine.candidatesOf [stepFile, stepFile]) : other = candidate := by
    simpa [candidates] using listed
  have unsilenced :
      ¬ Silenced (engine.found [stepFile, stepFile]).suppressions Duplication.duplicateCodeId
        candidate.range := by
    have none : (engine.found [stepFile, stepFile]).suppressions = [] := by
      simp [found, suppressions_outcomeOf_eq_nil obtained noComments]
    rw [none]
    exact not_silenced_nil _ _
  have member : candidate ∈ engine.candidatesOf [stepFile, stepFile] := by simp [candidates]
  rcases exists_copy_of_itself complete isEnabled (fun _ => not_isFoundByRule_of_builtin rules)
      member (fun other listed _ => by simp [isCandidate listed, candidates])
      (fun other listed => by simp [isCandidate listed, Duplication.isStrictlyInside, Range.same])
      unsilenced with
    ⟨diagnostic, isReported, isCopy, _, toItself⟩
  exact ⟨diagnostic, isReported, isCopy, toItself⟩

end Step

/-- The copy is reported because the list names the file twice. -/
theorem analyze_names_step_twice :
    ∃ engine report diagnostic,
      configure {} Registry.builtin (AdapterSet.builtin Adapter.silent) {} = .ok engine ∧
        engine.analyze false [stepFile, stepFile] = (some (.ok report), false) ∧
        diagnostic ∈ report.diagnostics ∧
        diagnostic.ruleId = Duplication.duplicateCodeId ∧
        Duplication.RelatesTo diagnostic.related diagnostic.range ∧
        engine.NamesTwice [stepFile, stepFile] diagnostic.range.file := by
  rcases exists_configure_comparing with ⟨engine, configured, isEnabled, least⟩
  rcases of_configure_eq_ok configured with ⟨_, rules, adapters, _⟩
  rcases exists_copy_of_step configured isEnabled least with
    ⟨report, completed, diagnostic, isReported, isCopy, toItself⟩
  refine ⟨engine, report, diagnostic, configured, completed, isReported, isCopy, toItself, ?_⟩
  have accepts : ∀ entry ∈ engine.adapters.entries, entry.2.YieldsAccepted := by
    rw [adapters]
    exact AdapterSet.forall_mem_builtin (Adapter.modelDocument_yieldsAccepted Adapter.silent)
  rcases analyze_relates_copy_to_itself_only_if engine accepts false _ report (by rw [completed])
      diagnostic isReported isCopy toItself with
    namedTwice | ⟨file, isFile, adapter, model, isModel, collision⟩ | byRule
  · exact namedTwice
  · rcases exists_modelOf_step configured with ⟨own, obtained, single, _⟩
    have isStep : file = stepFile := by simpa using isFile
    rw [isStep, obtained] at isModel
    cases isModel
    have two := Duplication.two_le_length_of_hasCollision collision
    rw [least, single] at two
    exact absurd two (by decide)
  · exact absurd byRule (not_isFoundByRule_of_builtin rules isCopy)

/-- A run can report a range as a copy of itself. -/
theorem exists_analyze_relates_copy_to_itself :
    ¬ ∀ (engine : Engine) (files : List SourceFile) (report : Report),
      engine.analyze false files = (some (.ok report), false) →
        ∀ diagnostic ∈ report.diagnostics,
          diagnostic.ruleId = Duplication.duplicateCodeId →
            ∀ range ∈ diagnostic.related, range.same diagnostic.range = false := by
  intro never
  rcases exists_configure_comparing with ⟨engine, configured, isEnabled, least⟩
  rcases exists_copy_of_step configured isEnabled least with
    ⟨report, completed, diagnostic, isReported, isCopy, range, isRelated, same⟩
  rw [never engine _ report completed diagnostic isReported isCopy range isRelated] at same
  cases same

end Engine

end StructuralLint
