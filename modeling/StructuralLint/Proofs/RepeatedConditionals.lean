import Mathlib.Data.List.InsertIdx
import StructuralLint.Proofs.ExactCopies
import StructuralLint.Proofs.NestedFindings

/-!
# Repeated conditionals

A chain is eligible when it has enough branches, and at least one.  An eligible chain is reported
when another one with its key lies in a different function or module.  This is decided for a whole
bucket of chains with one key: once two of them have different owners, every one of them has another
one with an owner different from its own.

The same chain may come in more than once, so chains are told apart by their positions.  The
findings are made bucket by bucket from sorted chains; sorting the positions of a bucket by their
chains makes the same list, in which it can be seen which position each finding is on.
-/

namespace StructuralLint.Duplication

/-- A chain has enough branches to be reported. -/
def IsEligible (minLength : Nat) (chain : Chain) : Prop :=
  max minLength 1 ≤ chain.branches

instance (minLength : Nat) (chain : Chain) : Decidable (IsEligible minLength chain) :=
  inferInstanceAs (Decidable (_ ≤ _))

/-- An eligible chain at another position has the key of the chain at a position. -/
structure IsRepetition (chains : List Chain) (minLength : Nat)
    (position other : Fin chains.length) : Prop where
  elsewhere : other ≠ position
  eligible : IsEligible minLength chains[other]
  key : chains[other].key = chains[position].key

/-- The chain at a position is eligible, and a repetition of it has another owner. -/
def CrossesFunctions (chains : List Chain) (minLength : Nat)
    (position : Fin chains.length) : Prop :=
  IsEligible minLength chains[position] ∧
    ∃ other, IsRepetition chains minLength position other ∧
      ¬ chains[other].owner.same chains[position].owner = true

/--
Positions are those of all repetitions of the chain at a position, in order of file and start.
-/
structure ListsRepetitions (chains : List Chain) (minLength : Nat) (position : Fin chains.length)
    (repetitions : List (Fin chains.length)) : Prop where
  nodup : repetitions.Nodup
  mem_iff : ∀ other, other ∈ repetitions ↔ IsRepetition chains minLength position other
  sorted : repetitions.Pairwise fun left right =>
    chains[left].range.orderByStart chains[right].range ≠ .gt

/-- The finding on a chain that relates to some other ranges. -/
def repetitionFinding (chain : Chain) (related : List Range) : Violation :=
  { ruleId := duplicateConditionalId
    severity := .medium
    range := chain.range
    message :=
      "The same " ++ toString chain.branches ++ "-branch conditional appears in " ++
        toString related.length ++ " other place" ++ Rule.plural related.length ++
        "; replace it with polymorphism or a lookup"
    related }

/-- A violation is the finding on the chain at a position, and relates to all its repetitions. -/
def ReportsChain (chains : List Chain) (minLength : Nat) (position : Fin chains.length)
    (violation : Violation) : Prop :=
  ∃ repetitions,
    ListsRepetitions chains minLength position repetitions ∧
      violation =
        repetitionFinding chains[position] (repetitions.map fun other => chains[other].range)

/-- A bucket yields one finding on each of its chains, which relates to the others. -/
theorem repeatedChains_eq_mapIdx (members : List Chain) :
    repeatedChains members =
      (sortChains members).mapIdx fun index chain =>
        repetitionFinding chain (((sortChains members).eraseIdx index).map (·.range)) := by
  rw [repeatedChains, perMember]
  generalize sortChains members = sorted
  apply List.ext_getElem
  · simp
  · intro index bound _
    have inSorted : index < sorted.length := by simpa using bound
    simp [repetitionFinding, othersThan, List.eraseIdx_map, List.length_eraseIdx_of_lt inSorted,
      inSorted]

section Buckets

variable (chains : List Chain) (minLength : Nat)

/-- The eligible chains with a key. -/
def chainsOfKey (digest : UInt64) : List Chain :=
  (chains.filter fun chain => IsEligible minLength chain).filter (·.key == digest)

/-- The keys of chains that cross functions. -/
def crossingKeys : List UInt64 :=
  (digestSet ((chains.filter fun chain => IsEligible minLength chain).map (·.key))).filter
    fun digest => crossesFunctions (chainsOfKey chains minLength digest)

/-- The positions of the eligible chains with a key, in order of file and start. -/
def positionsOfKey (digest : UInt64) : List (Fin chains.length) :=
  ((List.finRange chains.length).filter fun position =>
    decide (IsEligible minLength (chains.get position)) && (chains.get position).key == digest)
      |>.mergeSort fun left right =>
        (chains.get left).range.orderByStart (chains.get right).range != .gt

theorem duplicateConditionals_eq_flatMap :
    duplicateConditionals chains minLength =
      (crossingKeys chains minLength).flatMap fun digest =>
        repeatedChains (chainsOfKey chains minLength digest) := by
  rw [duplicateConditionals, buckets, List.filter_map, List.flatMap_map]
  rfl

variable {chains minLength}

theorem mem_chainsOfKey_iff {digest : UInt64} {chain : Chain} :
    chain ∈ chainsOfKey chains minLength digest ↔
      chain ∈ chains ∧ IsEligible minLength chain ∧ chain.key = digest := by
  simp only [chainsOfKey, List.mem_filter, decide_eq_true_eq, beq_iff_eq, and_assoc]

theorem mem_positionsOfKey_iff {digest : UInt64} {position : Fin chains.length} :
    position ∈ positionsOfKey chains minLength digest ↔
      IsEligible minLength chains[position] ∧ chains[position].key = digest := by
  simp [positionsOfKey]

theorem nodup_positionsOfKey (digest : UInt64) :
    (positionsOfKey chains minLength digest).Nodup := by
  apply List.nodup_mergeSort.mpr
  exact (List.nodup_finRange chains.length).filter _

/-- The chains at the positions of a key are the sorted bucket. -/
theorem map_get_positionsOfKey (digest : UInt64) :
    (positionsOfKey chains minLength digest).map chains.get =
      sortChains (chainsOfKey chains minLength digest) := by
  let isOfKey (chain : Chain) : Bool := decide (IsEligible minLength chain) && chain.key == digest
  have filtered :
      chainsOfKey chains minLength digest =
        ((List.finRange chains.length).filter (isOfKey ∘ chains.get)).map chains.get :=
    calc
      chainsOfKey chains minLength digest = chains.filter isOfKey := by
        rw [chainsOfKey, List.filter_filter]
        exact List.filter_congr fun _ _ => Bool.and_comm _ _
      _ = ((List.finRange chains.length).map chains.get).filter isOfKey := by
        rw [List.map_get_finRange]
      _ = ((List.finRange chains.length).filter (isOfKey ∘ chains.get)).map chains.get :=
        List.filter_map
  rw [filtered]
  exact List.map_mergeSort fun _ _ _ _ => rfl

theorem mem_crossingKeys_iff {digest : UInt64} :
    digest ∈ crossingKeys chains minLength ↔
      ∃ first ∈ chainsOfKey chains minLength digest,
        ∃ second ∈ chainsOfKey chains minLength digest,
          ¬ first.owner.same second.owner = true := by
  rw [crossingKeys, List.mem_filter, mem_digestSet_iff, crossesFunctions_iff, and_iff_right_iff_imp]
  rintro ⟨first, isFirst, _⟩
  rcases List.mem_filter.mp isFirst with ⟨isEligible, hasKey⟩
  exact List.mem_map.mpr ⟨first, isEligible, beq_iff_eq.mp hasKey⟩

/-- Of two chains with different owners one has an owner different from a third one. -/
theorem exists_different_owner {first second : Chain}
    (different : ¬ first.owner.same second.owner = true)
    (range : Range) :
    ¬ first.owner.same range = true ∨ ¬ second.owner.same range = true := by
  by_contra both
  rw [not_or, not_not, not_not, Range.same_iff, Range.same_iff] at both
  apply different
  rw [Range.same_iff]
  exact ⟨both.1.1.trans both.2.1.symm, both.1.2.trans both.2.2.symm⟩

/--
The bucket of an eligible chain crosses functions when one of its repetitions has an owner
different from its own.
-/
theorem crossesFunctions_iff_key_mem_crossingKeys {position : Fin chains.length} :
    CrossesFunctions chains minLength position ↔
      IsEligible minLength chains[position] ∧
        chains[position].key ∈ crossingKeys chains minLength := by
  rw [CrossesFunctions, mem_crossingKeys_iff, and_congr_right_iff]
  intro eligible
  constructor
  · rintro ⟨other, repetition, different⟩
    exact ⟨_, mem_chainsOfKey_iff.mpr
        ⟨List.getElem_mem other.isLt, repetition.eligible, repetition.key⟩,
      _, mem_chainsOfKey_iff.mpr ⟨List.getElem_mem position.isLt, eligible, rfl⟩, different⟩
  · rintro ⟨first, isFirst, second, isSecond, different⟩
    have exists_chain :
        ∃ chain ∈ chainsOfKey chains minLength chains[position].key,
          ¬ chain.owner.same chains[position].owner = true := by
      rcases exists_different_owner different chains[position].owner with differs | differs
      · exact ⟨first, isFirst, differs⟩
      · exact ⟨second, isSecond, differs⟩
    rcases exists_chain with ⟨chain, isChain, differs⟩
    rcases mem_chainsOfKey_iff.mp isChain with ⟨member, otherEligible, key⟩
    rcases List.getElem_of_mem member with ⟨other, bound, rfl⟩
    refine ⟨⟨other, bound⟩, ⟨?_, otherEligible, key⟩, differs⟩
    rintro rfl
    exact differs ((Range.same_iff _ _).mpr ⟨rfl, rfl⟩)

/-- What is left of the positions of a key are the repetitions of the chain that is left out. -/
theorem listsRepetitions_eraseIdx {digest : UInt64} {index : Nat}
    (bound : index < (positionsOfKey chains minLength digest).length) :
    ListsRepetitions chains minLength (positionsOfKey chains minLength digest)[index]
      ((positionsOfKey chains minLength digest).eraseIdx index) where
  nodup := (nodup_positionsOfKey digest).eraseIdx index
  mem_iff other := by
    have own := mem_positionsOfKey_iff.mp (List.getElem_mem bound)
    rw [List.mem_eraseIdx_iff_getElem]
    constructor
    · rintro ⟨otherIndex, otherBound, different, rfl⟩
      have found := mem_positionsOfKey_iff.mp (List.getElem_mem otherBound)
      refine ⟨?_, found.1, found.2.trans own.2.symm⟩
      exact fun equal => different ((nodup_positionsOfKey digest).getElem_inj_iff.mp equal)
    · intro repetition
      have isOther : other ∈ positionsOfKey chains minLength digest :=
        mem_positionsOfKey_iff.mpr ⟨repetition.eligible, repetition.key.trans own.2⟩
      rcases List.getElem_of_mem isOther with ⟨otherIndex, otherBound, rfl⟩
      refine ⟨otherIndex, otherBound, ?_, rfl⟩
      rintro rfl
      exact repetition.elsewhere rfl
  sorted := by
    have sorted : ((positionsOfKey chains minLength digest).map chains.get).Pairwise
        fun left right => left.range.orderByStart right.range ≠ .gt := by
      rw [map_get_positionsOfKey]
      exact pairwise_sorted Chain.order _
    exact (List.pairwise_map.mp sorted).sublist (List.eraseIdx_sublist _ _)

/-- The findings on a bucket report its positions one by one. -/
theorem forall₂_reportsChain (digest : UInt64) :
    List.Forall₂ (ReportsChain chains minLength) (positionsOfKey chains minLength digest)
      (repeatedChains (chainsOfKey chains minLength digest)) := by
  rw [repeatedChains_eq_mapIdx, ← map_get_positionsOfKey]
  apply List.forall₂_iff_get.mpr
  refine ⟨by rw [List.length_mapIdx, List.length_map], fun index bound _ => ?_⟩
  refine ⟨_, listsRepetitions_eraseIdx bound, ?_⟩
  rw [List.get_eq_getElem, List.getElem_mapIdx, List.getElem_map, List.eraseIdx_map, List.map_map]
  rfl

end Buckets

/--
The findings on repeated conditionals are on the positions of the eligible chains that have a
repetition with another owner, one on each of them, and each relates to all repetitions in order of
file and start.  Under the rule nothing else is found when files are compared.
-/
theorem duplicateConditionals_report_crossing_chains_once
    (files : List Fingerprints)
    (minLength : Nat) :
    (∃ reported : List (Fin (files.flatMap (·.chains)).length),
      reported.Nodup ∧
        (∀ position,
          position ∈ reported ↔
            CrossesFunctions (files.flatMap (·.chains)) minLength position) ∧
        List.Forall₂ (ReportsChain (files.flatMap (·.chains)) minLength) reported
          (duplicateConditionals (files.flatMap (·.chains)) minLength)) ∧
      ∀ settings,
        (detect files settings).filter (·.ruleId == duplicateConditionalId) =
          if settings.isEnabled duplicateConditionalId then
            duplicateConditionals (files.flatMap (·.chains)) (minLengthOf settings)
          else [] := by
  refine ⟨?_, filter_detect_duplicateConditional files⟩
  generalize files.flatMap (·.chains) = chains
  refine ⟨(crossingKeys chains minLength).flatMap (positionsOfKey chains minLength), ?_, ?_, ?_⟩
  · rw [List.nodup_flatMap]
    refine ⟨fun digest _ => nodup_positionsOfKey digest, ?_⟩
    have increasing : (crossingKeys chains minLength).Pairwise (· < ·) :=
      (pairwise_digestSet _).filter _
    refine increasing.imp fun less position inFirst inSecond => ?_
    have sameKey :=
      (mem_positionsOfKey_iff.mp inFirst).2.symm.trans (mem_positionsOfKey_iff.mp inSecond).2
    exact UInt64.ne_of_lt less sameKey
  · intro position
    rw [crossesFunctions_iff_key_mem_crossingKeys, List.mem_flatMap]
    constructor
    · rintro ⟨digest, isCrossing, isPosition⟩
      rcases mem_positionsOfKey_iff.mp isPosition with ⟨eligible, rfl⟩
      exact ⟨eligible, isCrossing⟩
    · rintro ⟨eligible, isCrossing⟩
      exact ⟨_, isCrossing, mem_positionsOfKey_iff.mpr ⟨eligible, rfl⟩⟩
  · rw [duplicateConditionals_eq_flatMap]
    exact List.rel_flatMap (List.forall₂_same.mpr fun _ _ => rfl) fun digest _ equal =>
      equal ▸ forall₂_reportsChain digest

end StructuralLint.Duplication
