import Mathlib.Data.Finset.Card
import Mathlib.Data.List.Perm.Subperm
import Mathlib.Data.List.Permutation
import Mathlib.Data.List.Sort
import Mathlib.Data.Set.Finite.List
import Mathlib.Order.Preorder.Finite
import StructuralLint.Proofs.DuplicationFindings
import StructuralLint.Proofs.DuplicationOrder

/-!
# Clusters of copies

Candidates with one digest form a class, and a class of at least two is shared.  A copied function
brings copies of its blocks along, so a copy that lies strictly inside a copy of another shared
class is not kept for itself: of all copies with the same first class around them only one is kept,
and a class of which fewer than two are kept is not reported.

The first main statement says that nothing is lost by that.  A copy of the largest range around a
given copy lies in no other class, so it is kept, and its class is reported with it.  The second
says exactly which classes are reported.  Classes are tried in the order of their digests, and only
the first class around a copy counts, so a class may be reported although another class lies around
all its copies.
-/

namespace StructuralLint

open Std

/-! ## Ranges by inclusion -/

theorem Range.covers_iff (outer inner : Range) :
    outer.covers inner = true ↔
      outer.file.components = inner.file.components ∧
        outer.span.start ≤ inner.span.start ∧ inner.span.stop ≤ outer.span.stop := by
  rw [Range.covers, Bool.and_eq_true, SourcePath.same_iff, Span.contains_iff]

/-- A range is up to every range of its file around it. -/
instance : Preorder Range where
  le inner outer := outer.covers inner = true
  le_refl range := by
    rw [Range.covers_iff]
    exact ⟨rfl, Position.le_refl _, Position.le_refl _⟩
  le_trans inner middle outer := by
    simp only [Range.covers_iff]
    rintro ⟨middleFile, middleStart, middleStop⟩ ⟨outerFile, outerStart, outerStop⟩
    exact ⟨outerFile.trans middleFile, Position.le_trans outerStart middleStart,
      Position.le_trans middleStop outerStop⟩

theorem Range.le_iff (inner outer : Range) :
    inner ≤ outer ↔ outer.covers inner = true :=
  Iff.rfl

/-- Ranges inside each other are the same. -/
theorem Range.same_iff_le_and_le (left right : Range) :
    left.same right = true ↔ left ≤ right ∧ right ≤ left := by
  rw [Range.same_iff, Range.le_iff, Range.le_iff, Range.covers_iff, Range.covers_iff]
  constructor
  · rintro ⟨files, spans⟩
    rw [spans]
    exact ⟨⟨files.symm, Position.le_refl _, Position.le_refl _⟩,
      files, Position.le_refl _, Position.le_refl _⟩
  · rintro ⟨⟨_, rightStart, leftStop⟩, files, leftStart, rightStop⟩
    have starts := Position.le_antisymm leftStart rightStart
    have stops := Position.le_antisymm leftStop rightStop
    simp only [Span.start, Span.stop, Position.mk.injEq] at starts stops
    refine ⟨files, ?_⟩
    rw [← Span.order_eq_iff]
    simp [Span.order, Span.start, Span.stop, starts, stops, Ordering.then_eq_eq]

namespace Duplication

theorem isStrictlyInside_iff_lt (inner outer : Range) :
    isStrictlyInside inner outer = true ↔ inner < outer := by
  rw [isStrictlyInside, Bool.and_eq_true, Bool.not_eq_true', ← Bool.not_eq_true,
    Range.same_iff_le_and_le, lt_iff_le_not_ge, Range.le_iff inner outer]
  tauto

/-! ## Classes of copies -/

/-- The candidates with a digest. -/
def copiesOf (candidates : List Candidate) (digest : UInt64) : List Candidate :=
  candidates.filter (·.exact == digest)

@[simp]
theorem mem_copiesOf_iff {candidates : List Candidate} {digest : UInt64} {candidate : Candidate} :
    candidate ∈ copiesOf candidates digest ↔
      candidate ∈ candidates ∧ candidate.exact = digest := by
  rw [copiesOf, List.mem_filter, beq_iff_eq]

/-- At least two candidates have a digest. -/
def IsShared (candidates : List Candidate) (digest : UInt64) : Prop :=
  2 ≤ (copiesOf candidates digest).length

instance (candidates : List Candidate) (digest : UInt64) : Decidable (IsShared candidates digest) :=
  inferInstanceAs (Decidable (2 ≤ (copiesOf candidates digest).length))

/-- A copy of a class lies strictly around a range. -/
def Encloses (candidates : List Candidate) (digest : UInt64) (range : Range) : Prop :=
  ∃ outer ∈ copiesOf candidates digest, isStrictlyInside range outer.range = true

theorem beq_iff_compare_eq (left right : UInt64) :
    (left == right) = true ↔ compare left right = .eq := by
  simp

theorem pairwise_sorted_digests (digests : List UInt64) :
    (digests.mergeSort fun left right => left ≤ right).Pairwise
      fun left right => compare left right ≠ .gt :=
  (List.pairwise_mergeSort' (· ≤ ·) digests).imp fun le =>
    Ordering.ne_gt_iff_isLE.mpr (isLE_compare.mpr le)

/-- A set of digests is strictly increasing. -/
theorem pairwise_digestSet (digests : List UInt64) :
    (digestSet digests).Pairwise (· < ·) :=
  (pairwise_firstOfRuns beq_iff_compare_eq (pairwise_sorted_digests digests)).imp compare_eq_lt.mp

@[simp]
theorem mem_digestSet_iff {digests : List UInt64} {digest : UInt64} :
    digest ∈ digestSet digests ↔ digest ∈ digests := by
  rw [digestSet]
  constructor
  · intro member
    exact List.mem_mergeSort.mp ((firstOfRuns_sublist _ none _).subset member)
  · intro member
    have sorted := pairwise_sorted_digests digests
    have reflexive (item : UInt64) : compare item item ≠ .gt := by
      rw [level_self compare]
      decide
    rcases exists_mem_firstOfRuns beq_iff_compare_eq reflexive sorted sorted
      (List.mem_mergeSort.mpr member) with ⟨first, firstMember, level, _⟩
    rwa [← LawfulEqOrd.compare_eq_iff_eq.mp level]

/-- The digests of at least two candidates, in order. -/
def sharedDigests (candidates : List Candidate) : List UInt64 :=
  (digestSet (candidates.map (·.exact))).filter fun digest =>
    2 ≤ (copiesOf candidates digest).length

theorem exactClasses_eq_map (candidates : List Candidate) :
    exactClasses candidates = (sharedDigests candidates).map (copiesOf candidates) := by
  rw [exactClasses, buckets, List.filter_map]
  rfl

@[simp]
theorem mem_sharedDigests_iff {candidates : List Candidate} {digest : UInt64} :
    digest ∈ sharedDigests candidates ↔ IsShared candidates digest := by
  rw [sharedDigests, List.mem_filter, mem_digestSet_iff, decide_eq_true_iff, IsShared,
    and_iff_right_iff_imp]
  intro shared
  rcases List.exists_mem_of_length_pos (Nat.zero_lt_of_lt shared) with ⟨candidate, member⟩
  rw [mem_copiesOf_iff] at member
  exact List.mem_map.mpr ⟨candidate, member⟩

theorem pairwise_sharedDigests (candidates : List Candidate) :
    (sharedDigests candidates).Pairwise (· < ·) :=
  (pairwise_digestSet _).filter _

theorem nodup_sharedDigests (candidates : List Candidate) :
    (sharedDigests candidates).Nodup :=
  (pairwise_sharedDigests candidates).imp fun before => UInt64.ne_of_lt before

/-- Classes of different digests hold each candidate at most once. -/
theorem flatMap_copiesOf_subperm (candidates : List Candidate) {digests : List UInt64}
    (distinct : digests.Nodup) :
    (digests.flatMap (copiesOf candidates)).Subperm candidates := by
  induction digests generalizing candidates with
  | nil => exact List.nil_subperm
  | cons digest rest induction =>
      rw [List.nodup_cons] at distinct
      -- The other classes are classes of the candidates without this digest.
      let others := candidates.filter fun candidate => !(candidate.exact == digest)
      have restOthers (other : UInt64) (member : other ∈ rest) :
          copiesOf candidates other = copiesOf others other := by
        have different : other ≠ digest := fun equal => distinct.1 (equal ▸ member)
        rw [copiesOf, copiesOf, List.filter_filter]
        apply List.filter_congr
        intro candidate _
        by_cases isCopy : candidate.exact = other
        · simp [isCopy, different]
        · simp [isCopy]
      rw [List.flatMap_cons, List.flatMap_congr restOthers]
      have split : (copiesOf candidates digest ++ others).Perm candidates :=
        List.filter_append_perm _ candidates
      exact ((List.subperm_append_left _).mpr (induction others distinct.2)).trans split.subperm

/-! ## The first class around a range -/

section Classes

variable {candidates : List Candidate} {digest : UInt64} {range : Range}

/--
A class is the first around a copy of another: it is shared, it lies around the copy, and no shared
class of smaller digest does.
-/
structure FirstEncloses (candidates : List Candidate) (digest : UInt64) (range : Range)
    (outer : UInt64) : Prop where
  different : outer ≠ digest
  shared : IsShared candidates outer
  encloses : Encloses candidates outer range
  first :
    ∀ smaller < outer, smaller ≠ digest → IsShared candidates smaller →
      ¬ Encloses candidates smaller range

/-- The position of a digest among the shared ones. -/
def position (candidates : List Candidate) (digest : UInt64) : Nat :=
  (sharedDigests candidates).idxOf digest

theorem ne_position_iff {index : Nat} (bound : index < (sharedDigests candidates).length) :
    index ≠ position candidates digest ↔ (sharedDigests candidates)[index] ≠ digest := by
  rw [not_iff_not, position]
  constructor
  · rintro rfl
    exact List.getElem_idxOf bound
  · rintro rfl
    exact ((nodup_sharedDigests candidates).idxOf_getElem index bound).symm

theorem getElem_lt_getElem_iff {left right : Nat}
    (leftBound : left < (sharedDigests candidates).length)
    (rightBound : right < (sharedDigests candidates).length) :
    (sharedDigests candidates)[left] < (sharedDigests candidates)[right] ↔ left < right := by
  have increasing := List.pairwise_iff_getElem.mp (pairwise_sharedDigests candidates)
  constructor
  · intro less
    by_contra notBefore
    rcases Nat.lt_or_eq_of_le (Nat.le_of_not_lt notBefore) with after | rfl
    · exact UInt64.lt_asymm less (increasing right left rightBound leftBound after)
    · exact UInt64.lt_irrefl _ less
  · exact increasing left right leftBound rightBound

/-- What is asked of the class at a position is asked of its digest. -/
theorem isEnclosing_at_iff {index : Nat} (bound : index < (sharedDigests candidates).length) :
    (index != position candidates digest &&
        ((exactClasses candidates)[index]?.getD []).any fun member =>
          isStrictlyInside range member.range) = true ↔
      (sharedDigests candidates)[index] ≠ digest ∧
        Encloses candidates (sharedDigests candidates)[index] range := by
  rw [Bool.and_eq_true, bne_iff_ne, ne_position_iff bound, exactClasses_eq_map,
    List.getElem?_map, List.getElem?_eq_getElem bound, Option.map_some, Option.getD_some,
    List.any_eq_true, Encloses]

theorem length_exactClasses (candidates : List Candidate) :
    (exactClasses candidates).length = (sharedDigests candidates).length := by
  rw [exactClasses_eq_map, List.length_map]

/-- The class that is found around a copy is the first one. -/
theorem enclosingClass?_eq_some_iff {index : Nat} :
    enclosingClass? (exactClasses candidates) (position candidates digest) range = some index ↔
      ∃ bound : index < (sharedDigests candidates).length,
        FirstEncloses candidates digest range (sharedDigests candidates)[index] := by
  rw [enclosingClass?, List.find?_range_eq_some, List.mem_range, length_exactClasses]
  constructor
  · rintro ⟨found, bound, before⟩
    rw [isEnclosing_at_iff bound] at found
    refine ⟨bound, found.1, mem_sharedDigests_iff.mp (List.getElem_mem bound), found.2, ?_⟩
    intro smaller less different shared encloses
    rcases List.getElem_of_mem (mem_sharedDigests_iff.mpr shared) with ⟨other, otherBound, rfl⟩
    have earlier := (getElem_lt_getElem_iff otherBound bound).mp less
    have notFound := before other earlier
    rw [(isEnclosing_at_iff otherBound).mpr ⟨different, encloses⟩] at notFound
    cases notFound
  · rintro ⟨bound, isFirst⟩
    refine ⟨(isEnclosing_at_iff bound).mpr ⟨isFirst.different, isFirst.encloses⟩, bound, ?_⟩
    intro other earlier
    have otherBound : other < (sharedDigests candidates).length := Nat.lt_trans earlier bound
    rw [Bool.not_eq_true', ← Bool.not_eq_true, isEnclosing_at_iff otherBound]
    rintro ⟨different, encloses⟩
    exact isFirst.first _ ((getElem_lt_getElem_iff otherBound bound).mpr earlier) different
      (mem_sharedDigests_iff.mp (List.getElem_mem otherBound)) encloses

theorem enclosingClass?_eq_none_iff :
    enclosingClass? (exactClasses candidates) (position candidates digest) range = none ↔
      ∀ outer, outer ≠ digest → IsShared candidates outer → ¬ Encloses candidates outer range := by
  rw [enclosingClass?, List.find?_eq_none, length_exactClasses]
  constructor
  · intro noneFound outer different shared encloses
    rcases List.getElem_of_mem (mem_sharedDigests_iff.mpr shared) with ⟨index, bound, rfl⟩
    exact noneFound index (List.mem_range.mpr bound)
      ((isEnclosing_at_iff bound).mpr ⟨different, encloses⟩)
  · intro noneEncloses index inRange found
    have bound := List.mem_range.mp inRange
    rcases (isEnclosing_at_iff bound).mp found with ⟨different, encloses⟩
    exact noneEncloses _ different (mem_sharedDigests_iff.mp (List.getElem_mem bound)) encloses

end Classes

/-! ## What is kept of a class -/

section Collapse

/-- The class that is found around a candidate. -/
def classAround? (classes : List (List Candidate)) (own : Nat) (candidate : Candidate) :
    Option Nat :=
  enclosingClass? classes own candidate.range

variable {classes : List (List Candidate)} {own : Nat}

theorem mem_collapse_of_eq_none {met : List Nat} {members : List Candidate} {member : Candidate}
    (isMember : member ∈ members)
    (outermost : classAround? classes own member = none) :
    member ∈ collapse classes own met members := by
  induction members generalizing met with
  | nil => cases isMember
  | cons head rest induction =>
      rw [collapse, ← classAround?]
      rcases List.mem_cons.mp isMember with rfl | later
      · rw [outermost]
        exact List.mem_cons_self
      · split
        next => exact List.mem_cons_of_mem head (induction later)
        next outer _ =>
          split
          · exact induction later
          · exact List.mem_cons_of_mem head (induction later)

/--
Kept are all members without a class around them, and one member for each class around others that
was not met before.
-/
theorem length_collapse (met : List Nat) (members : List Candidate) :
    (collapse classes own met members).length =
      members.countP (classAround? classes own · == none) +
        ((members.filterMap (classAround? classes own)).toFinset \ met.toFinset).card := by
  induction members generalizing met with
  | nil => simp [collapse]
  | cons member rest induction =>
      rw [collapse, ← classAround?]
      cases found : classAround? classes own member with
      | none =>
          rw [List.countP_cons_of_pos (by simp [found]), List.filterMap_cons_none found,
            List.length_cons, induction met]
          omega
      | some outer =>
          rw [List.countP_cons_of_neg (by simp [found]), List.filterMap_cons_some found,
            List.toFinset_cons]
          by_cases again : outer ∈ met
          · rw [Finset.insert_sdiff_of_mem _ (List.mem_toFinset.mpr again), ← induction met]
            simp [again]
          · have fresh : outer ∉ met.toFinset := by simpa using again
            have counted :
                (insert outer (rest.filterMap (classAround? classes own)).toFinset \
                    met.toFinset).card =
                  ((rest.filterMap (classAround? classes own)).toFinset \
                    (outer :: met).toFinset).card + 1 := by
              rw [Finset.insert_sdiff_of_notMem _ fresh, List.toFinset_cons, Finset.sdiff_insert,
                ← Finset.erase_insert_eq_erase,
                Finset.card_erase_add_one (Finset.mem_insert_self _ _)]
            rw [counted, ← Nat.add_assoc, ← induction (outer :: met)]
            simp [again]

theorem length_eq_countP_add_length_filterMap (members : List Candidate) :
    members.length =
      members.countP (classAround? classes own · == none) +
        (members.filterMap (classAround? classes own)).length := by
  rw [List.length_eq_countP_add_countP (classAround? classes own · == none),
    List.length_filterMap_eq_countP]
  congr 1
  apply List.countP_congr
  intro member _
  cases classAround? classes own member <;> simp

/-- At least two members are kept unless one class is the one around all of them. -/
theorem two_le_length_collapse_iff {members : List Candidate} (many : 2 ≤ members.length) :
    2 ≤ (collapse classes own [] members).length ↔
      ¬ ∃ outer, ∀ member ∈ members, classAround? classes own member = some outer := by
  let bare := members.countP (classAround? classes own · == none)
  let outers := members.filterMap (classAround? classes own)
  have counts : members.length = bare + outers.length :=
    length_eq_countP_add_length_filterMap members
  have kept : (collapse classes own [] members).length = bare + outers.toFinset.card := by
    rw [length_collapse, List.toFinset_nil, Finset.sdiff_empty]
  have mem_outers (outer : Nat) :
      outer ∈ outers.toFinset ↔
        ∃ member ∈ members, classAround? classes own member = some outer := by
    rw [List.mem_toFinset, List.mem_filterMap]
  rw [kept]
  constructor
  · rintro two ⟨outer, all⟩
    have noneBare : bare = 0 := by
      rw [List.countP_eq_zero]
      intro member isMember
      simp [all member isMember]
    have oneOuter : outers.toFinset ⊆ {outer} := by
      intro other isOuter
      rcases (mem_outers other).mp isOuter with ⟨member, isMember, found⟩
      rw [all member isMember] at found
      exact Finset.mem_singleton.mpr (Option.some.inj found).symm
    have few := Finset.card_le_card oneOuter
    rw [Finset.card_singleton] at few
    omega
  · intro notOne
    by_contra few
    -- Were no class around any member, all members would be kept.
    have someOuter : outers ≠ [] := by
      intro empty
      rw [empty] at counts few
      simp only [List.length_nil, List.toFinset_nil, Finset.card_empty] at counts few
      omega
    rcases List.exists_mem_of_ne_nil _ someOuter with ⟨outer, isOuter⟩
    rw [← List.mem_toFinset] at isOuter
    have positive := Finset.card_pos.mpr ⟨outer, isOuter⟩
    have noneBare : bare = 0 := by omega
    have oneOuter : outers.toFinset.card ≤ 1 := by omega
    refine notOne ⟨outer, fun member isMember => ?_⟩
    cases found : classAround? classes own member with
    | none => exact absurd (beq_iff_eq.mpr found) (List.countP_eq_zero.mp noneBare member isMember)
    | some other =>
        have isOther := (mem_outers other).mpr ⟨member, isMember, found⟩
        rw [Finset.card_le_one.mp oneOuter other isOther outer isOuter]

end Collapse

/-! ## The clusters that are reported -/

/-- What is kept of the class of a shared digest. -/
def keptCopies (candidates : List Candidate) (digest : UInt64) : List Candidate :=
  collapse (exactClasses candidates) (position candidates digest) []
    (sortMembers (copiesOf candidates digest))

theorem exactClusters_eq_filter_map (candidates : List Candidate) :
    exactClusters candidates =
      ((sharedDigests candidates).map (keptCopies candidates)).filter fun kept =>
        2 ≤ kept.length := by
  rw [exactClusters]
  congr 1
  apply List.ext_getElem
  · rw [List.length_mapIdx, List.length_map, length_exactClasses]
  · intro index bound mapBound
    have digestBound : index < (sharedDigests candidates).length := by simpa using mapBound
    have atIndex : position candidates (sharedDigests candidates)[index] = index :=
      (nodup_sharedDigests candidates).idxOf_getElem index digestBound
    rw [List.getElem_mapIdx, List.getElem_map, keptCopies, atIndex]
    simp only [exactClasses_eq_map, List.getElem_map]

theorem mem_exactClusters_iff {candidates cluster : List Candidate} :
    cluster ∈ exactClusters candidates ↔
      ∃ digest, IsShared candidates digest ∧ keptCopies candidates digest = cluster ∧
        2 ≤ cluster.length := by
  rw [exactClusters_eq_filter_map, List.mem_filter, decide_eq_true_iff, List.mem_map]
  simp only [mem_sharedDigests_iff]
  constructor
  · rintro ⟨⟨digest, shared, equal⟩, many⟩
    exact ⟨digest, shared, equal, many⟩
  · rintro ⟨digest, shared, equal, many⟩
    exact ⟨⟨digest, shared, equal⟩, many⟩

section KeptCopies

variable {candidates : List Candidate} {digest : UInt64}

theorem mem_sortMembers_iff {members : List Candidate} {member : Candidate} :
    member ∈ sortMembers members ↔ member ∈ members :=
  List.mem_mergeSort

theorem keptCopies_sublist (candidates : List Candidate) (digest : UInt64) :
    (keptCopies candidates digest).Sublist (sortMembers (copiesOf candidates digest)) :=
  collapse_sublist _ _ _ _

theorem exact_eq_of_mem_keptCopies {member : Candidate}
    (kept : member ∈ keptCopies candidates digest) :
    member.exact = digest :=
  (mem_copiesOf_iff.mp (mem_sortMembers_iff.mp ((keptCopies_sublist _ _).subset kept))).2

theorem keptCopies_subperm (candidates : List Candidate) (digest : UInt64) :
    (keptCopies candidates digest).Subperm (copiesOf candidates digest) :=
  (keptCopies_sublist candidates digest).subperm.trans (List.mergeSort_perm _ _).subperm

theorem pairwise_keptCopies (candidates : List Candidate) (digest : UInt64) :
    (keptCopies candidates digest).Pairwise fun left right =>
      left.range.orderByStart right.range ≠ .gt :=
  (pairwise_sorted Candidate.order (copiesOf candidates digest)).sublist
    (keptCopies_sublist candidates digest)

/-- A class of copies is reported unless one class is the first around all of them. -/
theorem two_le_length_keptCopies_iff (shared : IsShared candidates digest) :
    2 ≤ (keptCopies candidates digest).length ↔
      ∀ outer, ∃ member ∈ copiesOf candidates digest,
        ¬ FirstEncloses candidates digest member.range outer := by
  have many : 2 ≤ (sortMembers (copiesOf candidates digest)).length := by
    rwa [sortMembers, List.length_mergeSort]
  rw [keptCopies, two_le_length_collapse_iff many, not_exists]
  simp only [mem_sortMembers_iff, classAround?, enclosingClass?_eq_some_iff]
  constructor
  · intro notOne outer
    by_contra all
    push Not at all
    rcases List.exists_mem_of_length_pos (Nat.zero_lt_of_lt shared) with ⟨member, isMember⟩
    have isShared := mem_sharedDigests_iff.mpr (all member isMember).shared
    rcases List.getElem_of_mem isShared with ⟨index, bound, rfl⟩
    exact notOne index fun other isOther => ⟨bound, all other isOther⟩
  · intro notOne index all
    rcases List.exists_mem_of_length_pos (Nat.zero_lt_of_lt shared) with ⟨member, isMember⟩
    rcases all member isMember with ⟨bound, _⟩
    rcases notOne (sharedDigests candidates)[index] with ⟨other, isOther, notFirst⟩
    exact notFirst (all other isOther).2

end KeptCopies

/-! ## Nothing is lost -/

/-- Around every candidate lies one that is strictly inside no other. -/
theorem exists_outermost_of_mem {candidates : List Candidate} {candidate : Candidate}
    (member : candidate ∈ candidates) :
    ∃ outermost ∈ candidates,
      outermost.range.covers candidate.range = true ∧
        ∀ other ∈ candidates, ¬ isStrictlyInside outermost.range other.range = true := by
  -- Following one enclosing candidate after another may take many steps; a maximal range is the end
  -- of all these ways at once.
  let ranges : Set Range := Candidate.range '' { listed | listed ∈ candidates }
  have finite : ranges.Finite := (List.finite_toSet candidates).image _
  rcases finite.exists_le_maximal ⟨candidate, member, rfl⟩ with
    ⟨_, covers, ⟨outermost, isMember, rfl⟩, largest⟩
  refine ⟨outermost, isMember, covers, ?_⟩
  intro other otherMember inside
  rw [isStrictlyInside_iff_lt] at inside
  exact inside.not_ge (largest ⟨other, otherMember, rfl⟩ inside.le)

/-- Around every copy of a shared class lies one whose range is the largest of all such copies. -/
theorem exists_outermost {candidates : List Candidate} {candidate : Candidate}
    (member : candidate ∈ candidates)
    (shared : IsShared candidates candidate.exact) :
    ∃ outermost ∈ candidates,
      IsShared candidates outermost.exact ∧ outermost.range.covers candidate.range = true ∧
        ∀ digest, IsShared candidates digest → ¬ Encloses candidates digest outermost.range := by
  let copies := candidates.filter fun copy => IsShared candidates copy.exact
  have mem_copies_iff (copy : Candidate) :
      copy ∈ copies ↔ copy ∈ candidates ∧ IsShared candidates copy.exact := by
    rw [List.mem_filter, decide_eq_true_iff]
  rcases exists_outermost_of_mem ((mem_copies_iff candidate).mpr ⟨member, shared⟩) with
    ⟨outermost, isCopy, covers, noneAround⟩
  rcases (mem_copies_iff outermost).mp isCopy with ⟨isMember, isShared⟩
  refine ⟨outermost, isMember, isShared, covers, ?_⟩
  rintro digest digestShared ⟨outer, isOuter, inside⟩
  rw [mem_copiesOf_iff] at isOuter
  have outerShared : IsShared candidates outer.exact := by rwa [isOuter.2]
  exact noneAround outer ((mem_copies_iff outer).mpr ⟨isOuter.1, outerShared⟩) inside

/-- A copy without a class around it is reported. -/
theorem exists_mem_exactClusters_of_outermost {candidates : List Candidate} {copy : Candidate}
    (member : copy ∈ candidates)
    (shared : IsShared candidates copy.exact)
    (outermost : ∀ digest, IsShared candidates digest → ¬ Encloses candidates digest copy.range) :
    ∃ cluster ∈ exactClusters candidates, copy ∈ cluster := by
  have isCopy : copy ∈ copiesOf candidates copy.exact := mem_copiesOf_iff.mpr ⟨member, rfl⟩
  have many : 2 ≤ (keptCopies candidates copy.exact).length := by
    rw [two_le_length_keptCopies_iff shared]
    intro outer
    exact ⟨copy, isCopy, fun isFirst => outermost outer isFirst.shared isFirst.encloses⟩
  have noneAround :
      classAround? (exactClasses candidates) (position candidates copy.exact) copy = none :=
    enclosingClass?_eq_none_iff.mpr fun outer _ => outermost outer
  exact ⟨keptCopies candidates copy.exact,
    mem_exactClusters_iff.mpr ⟨copy.exact, shared, rfl, many⟩,
    mem_collapse_of_eq_none (mem_sortMembers_iff.mpr isCopy) noneAround⟩

theorem pairwise_exactClusters (candidates : List Candidate) :
    (exactClusters candidates).Pairwise fun left right =>
      ∀ first ∈ left, ∀ second ∈ right, first.exact ≠ second.exact := by
  rw [exactClusters_eq_filter_map]
  apply List.Pairwise.filter
  rw [List.pairwise_map]
  apply (nodup_sharedDigests candidates).imp
  intro left right different first firstKept second secondKept
  rwa [exact_eq_of_mem_keptCopies firstKept, exact_eq_of_mem_keptCopies secondKept]

theorem flatMap_keptCopies_subperm (candidates : List Candidate) (digests : List UInt64) :
    (digests.flatMap (keptCopies candidates)).Subperm (digests.flatMap (copiesOf candidates)) := by
  induction digests with
  | nil => exact List.nil_subperm
  | cons digest rest induction =>
      rw [List.flatMap_cons, List.flatMap_cons]
      exact (keptCopies_subperm candidates digest).append induction

/-- Clusters hold each candidate at most as often as it came in. -/
theorem flatten_exactClusters_subperm (candidates : List Candidate) :
    (exactClusters candidates).flatten.Subperm candidates := by
  rw [exactClusters_eq_filter_map]
  have reported :
      (((sharedDigests candidates).map (keptCopies candidates)).filter fun kept =>
          2 ≤ kept.length).flatten.Sublist
        ((sharedDigests candidates).flatMap (keptCopies candidates)) :=
    List.filter_sublist.flatten
  exact (reported.subperm.trans (flatMap_keptCopies_subperm candidates _)).trans
    (flatMap_copiesOf_subperm candidates (nodup_sharedDigests candidates))

/--
Clusters of copies have at least two members, all with one digest and in order of file and start.
Different clusters have different digests, and no candidate is used twice.  Whatever candidate has
its digest in common with another lies inside a member of some cluster.
-/
theorem exactClusters_cover_shared (candidates : List Candidate) :
    (∀ cluster ∈ exactClusters candidates,
      2 ≤ cluster.length ∧
        (∃ digest, ∀ member ∈ cluster, member.exact = digest) ∧
        cluster.Pairwise fun left right => left.range.orderByStart right.range ≠ .gt) ∧
      (exactClusters candidates).Pairwise
        (fun left right => ∀ first ∈ left, ∀ second ∈ right, first.exact ≠ second.exact) ∧
      (exactClusters candidates).flatten.Subperm candidates ∧
      ∀ candidate ∈ candidates,
        2 ≤ (candidates.filter fun other => other.exact == candidate.exact).length →
          ∃ cluster ∈ exactClusters candidates, ∃ member ∈ cluster,
            member.range.covers candidate.range = true := by
  refine ⟨?_, pairwise_exactClusters candidates, flatten_exactClusters_subperm candidates, ?_⟩
  · intro cluster isCluster
    rcases mem_exactClusters_iff.mp isCluster with ⟨digest, _, rfl, many⟩
    exact ⟨many, ⟨digest, fun member => exact_eq_of_mem_keptCopies⟩,
      pairwise_keptCopies candidates digest⟩
  · intro candidate member shared
    rcases exists_outermost member shared with ⟨outermost, isMember, isShared, covers, isOutermost⟩
    rcases exists_mem_exactClusters_of_outermost isMember isShared isOutermost with
      ⟨cluster, isCluster, inCluster⟩
    exact ⟨cluster, isCluster, outermost, inCluster, covers⟩

/-! ## Which classes are reported -/

/-- A class is reported when it is shared and enough is kept of it. -/
theorem exists_cluster_iff_two_le {candidates : List Candidate} {digest : UInt64} :
    (∃ cluster ∈ exactClusters candidates, ∃ member ∈ cluster, member.exact = digest) ↔
      IsShared candidates digest ∧ 2 ≤ (keptCopies candidates digest).length := by
  constructor
  · rintro ⟨cluster, isCluster, member, isMember, rfl⟩
    rcases mem_exactClusters_iff.mp isCluster with ⟨digest, shared, rfl, many⟩
    rw [exact_eq_of_mem_keptCopies isMember]
    exact ⟨shared, many⟩
  · rintro ⟨shared, many⟩
    rcases List.exists_mem_of_length_pos (Nat.zero_lt_of_lt many) with ⟨member, isMember⟩
    exact ⟨keptCopies candidates digest, mem_exactClusters_iff.mpr ⟨digest, shared, rfl, many⟩,
      member, isMember, exact_eq_of_mem_keptCopies isMember⟩

/--
A shared class is the first around a range unless it does not lie around it, or a shared class
of smaller digest lies around it as well.
-/
theorem not_firstEncloses_iff {candidates : List Candidate} {digest outer : UInt64} {range : Range}
    (different : outer ≠ digest)
    (shared : IsShared candidates outer) :
    ¬ FirstEncloses candidates digest range outer ↔
      ¬ Encloses candidates outer range ∨
        ∃ smaller < outer, smaller ≠ digest ∧ IsShared candidates smaller ∧
          Encloses candidates smaller range := by
  constructor
  · intro notFirst
    by_contra neither
    rw [not_or, not_not, not_exists] at neither
    exact notFirst ⟨different, shared, neither.1, fun smaller less smallerDifferent smallerShared
      encloses => neither.2 smaller ⟨less, smallerDifferent, smallerShared, encloses⟩⟩
  · rintro (notAround | ⟨smaller, less, smallerDifferent, smallerShared, encloses⟩) isFirst
    · exact notAround isFirst.encloses
    · exact isFirst.first smaller less smallerDifferent smallerShared encloses

/--
A class of copies is reported exactly when it is shared and no other shared class is the first
around all its copies: for every other shared class it has a copy that the other does not lie
around, or that lies in a shared class of a smaller digest as well.
-/
theorem exists_cluster_of_digest_iff (candidates : List Candidate) (digest : UInt64) :
    (∃ cluster ∈ exactClusters candidates, ∃ member ∈ cluster, member.exact = digest) ↔
      IsShared candidates digest ∧
        ∀ outer, outer ≠ digest → IsShared candidates outer →
          ∃ copy ∈ copiesOf candidates digest,
            ¬ Encloses candidates outer copy.range ∨
              ∃ smaller < outer, smaller ≠ digest ∧ IsShared candidates smaller ∧
                Encloses candidates smaller copy.range := by
  rw [exists_cluster_iff_two_le, and_congr_right_iff]
  intro shared
  rw [two_le_length_keptCopies_iff shared]
  constructor
  · intro notOne outer different outerShared
    rcases notOne outer with ⟨copy, isCopy, notFirst⟩
    exact ⟨copy, isCopy, (not_firstEncloses_iff different outerShared).mp notFirst⟩
  · intro notOne outer
    by_cases possible : outer ≠ digest ∧ IsShared candidates outer
    · rcases notOne outer possible.1 possible.2 with ⟨copy, isCopy, found⟩
      exact ⟨copy, isCopy, (not_firstEncloses_iff possible.1 possible.2).mpr found⟩
    · rcases List.exists_mem_of_length_pos (Nat.zero_lt_of_lt shared) with ⟨copy, isCopy⟩
      exact ⟨copy, isCopy, fun isFirst => possible ⟨isFirst.different, isFirst.shared⟩⟩

/-- A block of three statements on some lines. -/
def blockOn (exact : UInt64) (startLine endLine : UInt32) : Candidate :=
  { kind := .block
    range :=
      { file := { text := "copies.ir.json" }
        span := { startLine, startCol := 1, endLine, endCol := 9 } }
    name := none
    statements := 3
    exact
    shape := none
    bigrams := [] }

/--
Two copies (of digest 3) of code that holds one block (of digest 1) twice: once in a larger
block (of digest 2), and once outside it.
-/
def nestedCopies : List Candidate :=
  [blockOn 3 2 19, blockOn 2 6 13, blockOn 1 9 12, blockOn 1 16 19,
    blockOn 3 20 37, blockOn 2 24 31, blockOn 1 27 30, blockOn 1 34 37]

/--
A class may be reported although another class lies around all its copies, when a class of smaller
digest lies around some of them.
-/
theorem exists_reported_class_inside_other :
    ¬ ∀ (candidates : List Candidate) (digest outer : UInt64),
      IsShared candidates digest → IsShared candidates outer → outer ≠ digest →
        (∃ cluster ∈ exactClusters candidates, ∃ member ∈ cluster, member.exact = digest) →
          ∃ copy ∈ copiesOf candidates digest, ¬ Encloses candidates outer copy.range := by
  intro claim
  have clusters : exactClusters nestedCopies =
      [[blockOn 1 9 12, blockOn 1 16 19], [blockOn 3 2 19, blockOn 3 20 37]] := by cbv
  have inside : ((copiesOf nestedCopies 1).all fun copy =>
      (copiesOf nestedCopies 3).any fun outer => isStrictlyInside copy.range outer.range) =
        true := by
    cbv
  have reported : ∃ cluster ∈ exactClusters nestedCopies, ∃ member ∈ cluster, member.exact = 1 := by
    rw [clusters]
    exact ⟨_, List.mem_cons_self, _, List.mem_cons_self, rfl⟩
  rcases claim nestedCopies 1 3 (by decide) (by decide) (by decide) reported with
    ⟨copy, isCopy, notInside⟩
  exact notInside (List.any_eq_true.mp (List.all_eq_true.mp inside copy isCopy))

end Duplication

end StructuralLint
