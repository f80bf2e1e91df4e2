import Mathlib.Data.List.Forall2
import Mathlib.Data.List.Sort
import StructuralLint.Duplication.Detect
import StructuralLint.Proofs.Sorting

/-!
# Duplication and the order of files

Files are compared in the order in which they come in, and yet the findings on duplication are the
same list in whatever order that is.  Two candidates, or two chains, are level only when they start
at one position of one file, and a file keeps its own candidates in order.  So a rearrangement of
the files keeps every class of level items, and `SameLevels` is what all stages respect: filters
keep it, buckets pass it on to each of their members, and sorting turns it into equality.
-/

namespace StructuralLint.Duplication

open Std

/-! ## Buckets -/

theorem digestSet_eq_of_perm {left right : List UInt64}
    (perm : left.Perm right) :
    digestSet left = digestSet right := by
  have sortedEqual :
      (left.mergeSort fun first second => first ≤ second) =
        right.mergeSort fun first second => first ≤ second := by
    refine List.Perm.eq_of_pairwise ?_ (List.pairwise_mergeSort' (· ≤ ·) left)
      (List.pairwise_mergeSort' (· ≤ ·) right) ?_
    · intro first second _ _ forth back
      exact UInt64.le_antisymm forth back
    · exact (List.mergeSort_perm left _).trans (perm.trans (List.mergeSort_perm right _).symm)
  rw [digestSet, digestSet, sortedEqual]

section SameLevels

variable {α : Type} {order : α → α → Ordering} [TransCmp order]

/-- Buckets of lists that agree on every class agree on every class. -/
theorem forall₂_buckets {left right : List α}
    (levels : SameLevels order left right) (key : α → UInt64) :
    List.Forall₂ (SameLevels order) (buckets key left) (buckets key right) := by
  have digestsEqual : digestSet (left.map key) = digestSet (right.map key) :=
    digestSet_eq_of_perm ((levels.perm order).map key)
  rw [buckets, buckets, digestsEqual, List.forall₂_map_left_iff, List.forall₂_map_right_iff,
    List.forall₂_same]
  intro digest _
  exact levels.filter order _

/-- Choosing buckets by what they hold chooses the same ones. -/
theorem forall₂_filter {left right : List (List α)}
    (related : List.Forall₂ (SameLevels order) left right)
    {keep : List α → Bool}
    (equal : ∀ members others, members.Perm others → keep members = keep others) :
    List.Forall₂ (SameLevels order) (left.filter keep) (right.filter keep) := by
  refine List.rel_filter ?_ related
  intro members others levels
  simp only [equal members others (levels.perm order)]

theorem forall₂_filter_length {left right : List (List α)}
    (related : List.Forall₂ (SameLevels order) left right) :
    List.Forall₂ (SameLevels order) (left.filter fun members => 2 ≤ members.length)
      (right.filter fun members => 2 ≤ members.length) := by
  apply forall₂_filter related
  intro members others perm
  rw [perm.length_eq]

omit [TransCmp order] in
/-- What depends only on the sorted members is the same for both lists of buckets. -/
theorem flatMap_eq_of_forall₂ {β : Type} {left right : List (List α)}
    (related : List.Forall₂ (SameLevels order) left right)
    {findings : List α → List β}
    (equal :
      ∀ members others, SameLevels order members others → findings members = findings others) :
    left.flatMap findings = right.flatMap findings := by
  induction related with
  | nil => rfl
  | cons levels _ induction =>
      rw [List.flatMap_cons, List.flatMap_cons, equal _ _ levels, induction]

omit [TransCmp order] in
theorem mapIdx_eq_of_forall₂ {β : Type} {left right : List (List α)}
    (related : List.Forall₂ (SameLevels order) left right)
    {result : Nat → List α → β}
    (equal :
      ∀ index members others, SameLevels order members others →
        result index members = result index others) :
    left.mapIdx result = right.mapIdx result := by
  induction related generalizing result with
  | nil => rfl
  | cons levels _ induction =>
      rw [List.mapIdx_cons, List.mapIdx_cons, equal 0 _ _ levels,
        induction fun index => equal (index + 1)]

theorem perm_getD_of_forall₂ {left right : List (List α)}
    (related : List.Forall₂ (SameLevels order) left right) (index : Nat) :
    (left[index]?.getD []).Perm (right[index]?.getD []) := by
  induction related generalizing index with
  | nil => exact List.Perm.refl _
  | cons levels _ induction =>
      cases index with
      | zero => exact levels.perm order
      | succ index => exact induction index

end SameLevels

/-! ## Copies -/

/-- Candidates in order of file and start. -/
def Candidate.order (left right : Candidate) : Ordering :=
  left.range.orderByStart right.range

instance : TransCmp Candidate.order :=
  transCmp_on Range.orderByStart Candidate.range

theorem sortMembers_eq_of_sameLevels {members others : List Candidate}
    (levels : SameLevels Candidate.order members others) :
    sortMembers members = sortMembers others :=
  levels.sorted_eq Candidate.order

theorem forall₂_exactClasses {candidates others : List Candidate}
    (levels : SameLevels Candidate.order candidates others) :
    List.Forall₂ (SameLevels Candidate.order) (exactClasses candidates) (exactClasses others) :=
  forall₂_filter_length (forall₂_buckets levels Candidate.exact)

/-- Which class encloses a range does not depend on the order of the members of the classes. -/
theorem enclosingClass?_eq_of_forall₂ {classes others : List (List Candidate)}
    (related : List.Forall₂ (SameLevels Candidate.order) classes others)
    (own : Nat) (range : Range) :
    enclosingClass? classes own range = enclosingClass? others own range := by
  have sameAnswer (index : Nat) :
      (classes[index]?.getD []).any (fun member => isStrictlyInside range member.range) =
        (others[index]?.getD []).any fun member => isStrictlyInside range member.range :=
    (perm_getD_of_forall₂ related index).any_eq
  simp only [enclosingClass?, related.length_eq, sameAnswer]

theorem collapse_eq_of_forall₂ {classes others : List (List Candidate)}
    (related : List.Forall₂ (SameLevels Candidate.order) classes others)
    (own : Nat) (met : List Nat) (members : List Candidate) :
    collapse classes own met members = collapse others own met members := by
  induction members generalizing met with
  | nil => rfl
  | cons member rest induction =>
      simp only [collapse, enclosingClass?_eq_of_forall₂ related, induction]

theorem exactClusters_eq_of_sameLevels {candidates others : List Candidate}
    (levels : SameLevels Candidate.order candidates others) :
    exactClusters candidates = exactClusters others := by
  have related := forall₂_exactClasses levels
  have collapsed :
      ((exactClasses candidates).mapIdx fun index members =>
          collapse (exactClasses candidates) index [] (sortMembers members)) =
        (exactClasses others).mapIdx fun index members =>
          collapse (exactClasses others) index [] (sortMembers members) := by
    simp only [collapse_eq_of_forall₂ related]
    apply mapIdx_eq_of_forall₂ related
    intro index members rearranged sameMembers
    rw [sortMembers_eq_of_sameLevels sameMembers]
  rw [exactClusters, exactClusters, collapsed]

/-! ## Similar structure -/

theorem similarGroups_eq_of_sameLevels {candidates others : List Candidate}
    (levels : SameLevels Candidate.order candidates others)
    (copies : List Range) (threshold : Float) :
    similarGroups candidates copies threshold = similarGroups others copies threshold := by
  rw [similarGroups, similarGroups]
  refine flatMap_eq_of_forall₂
    (forall₂_filter_length (forall₂_buckets (levels.filter Candidate.order _) _)) ?_
  intro members rearranged sameMembers
  rw [sortMembers_eq_of_sameLevels sameMembers]

theorem similarClusters_eq_of_sameLevels {candidates others : List Candidate}
    (levels : SameLevels Candidate.order candidates others)
    (copies : List Range) (threshold : Float) :
    similarClusters candidates copies threshold = similarClusters others copies threshold := by
  rw [similarClusters, similarClusters, similarGroups_eq_of_sameLevels levels]

/-! ## Repeated conditionals -/

/-- Chains in order of file and start. -/
def Chain.order (left right : Chain) : Ordering :=
  left.range.orderByStart right.range

instance : TransCmp Chain.order :=
  transCmp_on Range.orderByStart Chain.range

/-- Chains lie in at least two functions when two of them have different owners. -/
theorem crossesFunctions_iff (chains : List Chain) :
    crossesFunctions chains = true ↔
      ∃ first ∈ chains, ∃ second ∈ chains, ¬ first.owner.same second.owner = true := by
  cases chains with
  | nil => simp [crossesFunctions]
  | cons head rest =>
      rw [crossesFunctions, List.any_eq_true]
      constructor
      · rintro ⟨chain, member, different⟩
        refine ⟨chain, List.mem_cons_of_mem head member, head, List.mem_cons_self, ?_⟩
        rwa [Bool.not_eq_true', ← Bool.not_eq_true] at different
      · rintro ⟨first, firstMember, second, secondMember, different⟩
        by_contra noneDifferent
        have sameAsHead (chain : Chain) (member : chain ∈ head :: rest) :
            chain.owner.same head.owner = true := by
          rcases List.mem_cons.mp member with equal | later
          · rw [equal, Range.same_iff]
            exact ⟨rfl, rfl⟩
          · by_contra differs
            refine noneDifferent ⟨chain, later, ?_⟩
            rwa [Bool.not_eq_true', ← Bool.not_eq_true]
        have firstSame := (Range.same_iff _ _).mp (sameAsHead first firstMember)
        have secondSame := (Range.same_iff _ _).mp (sameAsHead second secondMember)
        apply different
        rw [Range.same_iff]
        exact ⟨firstSame.1.trans secondSame.1.symm, firstSame.2.trans secondSame.2.symm⟩

theorem crossesFunctions_eq_of_perm {chains others : List Chain}
    (perm : chains.Perm others) :
    crossesFunctions chains = crossesFunctions others := by
  rw [Bool.eq_iff_iff, crossesFunctions_iff, crossesFunctions_iff]
  simp only [perm.mem_iff]

theorem duplicateConditionals_eq_of_sameLevels {chains others : List Chain}
    (levels : SameLevels Chain.order chains others) (minLength : Nat) :
    duplicateConditionals chains minLength = duplicateConditionals others minLength := by
  rw [duplicateConditionals, duplicateConditionals]
  have eligible := levels.filter Chain.order fun chain => max minLength 1 ≤ chain.branches
  have crossing := forall₂_filter (forall₂_buckets eligible Chain.key)
    fun _ _ => crossesFunctions_eq_of_perm
  apply flatMap_eq_of_forall₂ crossing
  intro members rearranged sameMembers
  have sortedEqual : sortChains members = sortChains rearranged :=
    sameMembers.sorted_eq Chain.order
  rw [repeatedChains, repeatedChains, sortedEqual]

/-! ## All findings -/

/-- What is known of a file lies in that file. -/
structure Fingerprints.IsLocal (fingerprints : Fingerprints) : Prop where
  candidates : ∀ candidate ∈ fingerprints.candidates, candidate.range.file = fingerprints.path
  chains : ∀ chain ∈ fingerprints.chains, chain.range.file = fingerprints.path

/-- A rearrangement of files with different paths keeps every class of level items. -/
theorem sameLevels_of_perm {α : Type} {files permuted : List Fingerprints}
    (perm : files.Perm permuted)
    (apart : files.Pairwise fun left right => left.path.same right.path = false)
    {range : α → Range} {items : Fingerprints → List α}
    (isLocal :
      ∀ fingerprints ∈ files, ∀ item ∈ items fingerprints,
        (range item).file = fingerprints.path) :
    SameLevels (fun left right => (range left).orderByStart (range right)) (files.flatMap items)
      (permuted.flatMap items) := by
  have := transCmp_on Range.orderByStart range
  apply sameLevels_flatMap_of_perm _ perm
  refine apart.imp_of_mem ?_
  intro left right leftMember rightMember different first firstMember second secondMember level
  rw [Range.orderByStart_eq_iff, isLocal left leftMember first firstMember,
    isLocal right rightMember second secondMember, ← SourcePath.same_iff, different] at level
  cases level.1

/-- The findings on duplication are the same list in whatever order the files come in. -/
theorem detect_eq_of_perm {files permuted : List Fingerprints}
    (perm : files.Perm permuted)
    (isLocal : ∀ fingerprints ∈ files, fingerprints.IsLocal)
    (apart : files.Pairwise fun left right => left.path.same right.path = false)
    (settings : ResolvedSettings) :
    detect files settings = detect permuted settings := by
  have candidatesLevel :
      SameLevels Candidate.order (files.flatMap Fingerprints.candidates)
        (permuted.flatMap Fingerprints.candidates) :=
    sameLevels_of_perm perm apart fun fingerprints member =>
      (isLocal fingerprints member).candidates
  have chainsLevel :
      SameLevels Chain.order (files.flatMap Fingerprints.chains)
        (permuted.flatMap Fingerprints.chains) :=
    sameLevels_of_perm perm apart fun fingerprints member => (isLocal fingerprints member).chains
  simp only [detect, exactClusters_eq_of_sameLevels candidatesLevel,
    similarClusters_eq_of_sameLevels candidatesLevel,
    duplicateConditionals_eq_of_sameLevels chainsLevel]

end StructuralLint.Duplication
