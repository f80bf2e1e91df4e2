import Mathlib.Data.List.Basic
import StructuralLint.Proofs.Order

/-!
# Stable sorting and first items of runs

The library sorts lists by `List.mergeSort` and keeps the first items of runs by `firstOfRuns`.
This module describes both for an arbitrary total preorder.

Sorting is stable, so it commutes with every filter, and its result is determined by the sublists of
level items: two lists that agree on every class of level items have the same sorted list, however
the classes are interleaved.  Lists that share no level items can therefore be put together in any
order before sorting.  On a sorted list the first items of runs are one item of each class,
the earliest, in strictly increasing order.
-/

namespace StructuralLint

open Std

section StableSort

variable {α : Type} (order : α → α → Ordering) [TransCmp order]

theorem notAfter_trans (first second third : α)
    (firstSecond : (order first second != .gt) = true)
    (secondThird : (order second third != .gt) = true) :
    (order first third != .gt) = true := by
  simp only [bne_iff_ne, ne_eq, Ordering.ne_gt_iff_isLE] at firstSecond secondThird ⊢
  exact TransCmp.isLE_trans firstSecond secondThird

theorem notAfter_total (first second : α) :
    ((order first second != .gt) || (order second first != .gt)) = true := by
  have swapped : order second first = (order first second).swap := OrientedCmp.eq_swap
  rw [swapped]
  cases order first second <;> rfl

/-- Items that are not after each other are level. -/
theorem level_of_notAfter {first second : α}
    (forth : order first second ≠ .gt)
    (back : order second first ≠ .gt) :
    order first second = .eq :=
  OrientedCmp.isLE_antisymm (Ordering.ne_gt_iff_isLE.mp forth) (Ordering.ne_gt_iff_isLE.mp back)

/-- Sorting puts no item before one that it is after. -/
theorem pairwise_sorted (items : List α) :
    (items.mergeSort fun left right => order left right != .gt).Pairwise
      fun left right => order left right ≠ .gt := by
  have sorted :=
    List.pairwise_mergeSort (notAfter_trans order) (notAfter_total order) items
  exact sorted.imp fun notAfter => by simpa using notAfter

/--
Sorting one more item in front puts it right before the items that it is not after, and a sorted
list is cut in two there.
-/
theorem sorted_cons (item : α) (items : List α) :
    let sorted := items.mergeSort fun left right => order left right != .gt
    let before := sorted.filter fun other => order item other == .gt
    let after := sorted.filter fun other => order item other != .gt
    ((item :: items).mergeSort fun left right => order left right != .gt) =
        before ++ item :: after ∧
      sorted = before ++ after := by
  rcases List.mergeSort_cons (notAfter_trans order) (notAfter_total order) item items with
    ⟨front, back, whole, parts, frontBefore⟩
  have backAfter : ∀ other ∈ back, order item other ≠ .gt := by
    have sorted := pairwise_sorted order (item :: items)
    rw [whole, List.pairwise_append] at sorted
    intro other member
    exact List.rel_of_pairwise_cons sorted.2.1 member
  have frontGreater : ∀ other ∈ front, order item other = .gt := by
    intro other member
    simpa using frontBefore other member
  have beforeFilter :
      (front ++ back).filter (fun other => order item other == .gt) = front := by
    rw [List.filter_append, List.filter_eq_self.mpr, List.filter_eq_nil_iff.mpr,
      List.append_nil]
    · intro other member
      simpa using backAfter other member
    · intro other member
      simpa using frontGreater other member
  have afterFilter :
      (front ++ back).filter (fun other => order item other != .gt) = back := by
    rw [List.filter_append, List.filter_eq_nil_iff.mpr, List.filter_eq_self.mpr,
      List.nil_append]
    · intro other member
      simpa using backAfter other member
    · intro other member
      simpa using frontGreater other member
  simp only [parts, beforeFilter, afterFilter]
  exact ⟨whole, trivial⟩

/-- Sorting commutes with every filter. -/
theorem filter_sorted (keep : α → Bool) (items : List α) :
    (items.mergeSort fun left right => order left right != .gt).filter keep =
      (items.filter keep).mergeSort fun left right => order left right != .gt := by
  induction items with
  | nil => simp
  | cons item rest induction =>
      rcases sorted_cons order item rest with ⟨whole, _⟩
      rcases sorted_cons order item (rest.filter keep) with ⟨keptWhole, keptParts⟩
      rw [whole, List.filter_append, List.filter_cons]
      simp only [List.filter_comm keep, induction]
      by_cases kept : keep item = true
      · rw [if_pos kept, List.filter_cons_of_pos kept, keptWhole]
      · rw [if_neg kept, List.filter_cons_of_neg kept, ← keptParts]

/-- Two lists agree on every class of level items. -/
def SameLevels {α : Type} (order : α → α → Ordering) (left right : List α) : Prop :=
  ∀ item,
    left.filter (fun other => order item other == .eq) =
      right.filter fun other => order item other == .eq

theorem SameLevels.mem_of_mem {left right : List α}
    (levels : SameLevels order left right)
    {item : α}
    (member : item ∈ left) :
    item ∈ right := by
  have inClass : item ∈ left.filter fun other => order item other == .eq := by
    simp [member, level_self order]
  rw [levels item] at inClass
  exact (List.mem_filter.mp inClass).1

/-- Sorted lists that hold each other's first items start with level items. -/
theorem level_of_sorted_heads {leftHead rightHead : α} {leftTail rightTail : List α}
    (leftSorted :
      (leftHead :: leftTail).Pairwise fun first second => order first second ≠ .gt)
    (rightSorted :
      (rightHead :: rightTail).Pairwise fun first second => order first second ≠ .gt)
    (leftInRight : leftHead ∈ rightHead :: rightTail)
    (rightInLeft : rightHead ∈ leftHead :: leftTail) :
    order leftHead rightHead = .eq := by
  rcases List.mem_cons.mp leftInRight with equal | leftLater
  · rw [equal]
    exact ReflCmp.compare_self
  · rcases List.mem_cons.mp rightInLeft with equal | rightLater
    · rw [equal]
      exact ReflCmp.compare_self
    · have forth := List.rel_of_pairwise_cons leftSorted rightLater
      have back := List.rel_of_pairwise_cons rightSorted leftLater
      exact level_of_notAfter order forth back

/-- Sorted lists that agree on every class of level items are equal. -/
theorem eq_of_sorted_of_levels {left right : List α}
    (leftSorted : left.Pairwise fun first second => order first second ≠ .gt)
    (rightSorted : right.Pairwise fun first second => order first second ≠ .gt)
    (levels : SameLevels order left right) :
    left = right := by
  have back : SameLevels order right left := fun item => (levels item).symm
  induction left generalizing right with
  | nil =>
      cases right with
      | nil => rfl
      | cons head tail => cases back.mem_of_mem order List.mem_cons_self
  | cons head tail induction =>
      cases right with
      | nil => cases levels.mem_of_mem order List.mem_cons_self
      | cons rightHead rightTail =>
          have level : order head rightHead = .eq :=
            level_of_sorted_heads order leftSorted rightSorted
              (levels.mem_of_mem order List.mem_cons_self)
              (back.mem_of_mem order List.mem_cons_self)
          -- Level first items are both the first of their class, and the classes are equal.
          have headsEqual : head = rightHead := by
            have sameClass := levels head
            simp only [List.filter_cons, ReflCmp.compare_self, level, BEq.rfl, if_true] at sameClass
            exact (List.cons.inj sameClass).1
          subst headsEqual
          have tailLevels : SameLevels order tail rightTail := by
            intro item
            have sameClass := levels item
            simp only [List.filter_cons] at sameClass
            split at sameClass
            · exact (List.cons.inj sameClass).2
            · exact sameClass
          rw [induction leftSorted.of_cons rightSorted.of_cons tailLevels
            fun item => (tailLevels item).symm]

/-- Lists that agree on every class of level items have the same sorted list. -/
theorem SameLevels.sorted_eq {left right : List α}
    (levels : SameLevels order left right) :
    (left.mergeSort fun first second => order first second != .gt) =
      right.mergeSort fun first second => order first second != .gt := by
  apply eq_of_sorted_of_levels order (pairwise_sorted order left) (pairwise_sorted order right)
  intro item
  rw [filter_sorted, filter_sorted, levels item]

/-- Lists that agree on every class of level items hold the same items. -/
theorem SameLevels.perm {left right : List α}
    (levels : SameLevels order left right) :
    left.Perm right := by
  have sortedLeft := List.mergeSort_perm left fun first second => order first second != .gt
  rw [levels.sorted_eq order] at sortedLeft
  exact sortedLeft.symm.trans (List.mergeSort_perm right _)

omit [TransCmp order] in
theorem SameLevels.filter {left right : List α}
    (levels : SameLevels order left right) (keep : α → Bool) :
    SameLevels order (left.filter keep) (right.filter keep) := by
  intro item
  rw [List.filter_comm, levels item, List.filter_comm]

omit [TransCmp order] in
theorem SameLevels.append_right {left right : List α}
    (levels : SameLevels order left right) (rest : List α) :
    SameLevels order (left ++ rest) (right ++ rest) := by
  intro item
  rw [List.filter_append, List.filter_append, levels item]

omit [TransCmp order] in
/-- Where of any two items only one contributes, the order of the items does not matter. -/
theorem flatMap_eq_of_perm {β : Type} {items permuted : List β}
    (perm : items.Perm permuted)
    (contribution : β → List α)
    (apart : items.Pairwise fun left right => contribution left = [] ∨ contribution right = []) :
    items.flatMap contribution = permuted.flatMap contribution := by
  induction perm with
  | nil => rfl
  | cons item _ induction =>
      rw [List.flatMap_cons, List.flatMap_cons, induction apart.of_cons]
  | swap first second rest =>
      rcases List.rel_of_pairwise_cons apart List.mem_cons_self with empty | empty
      · simp [empty]
      · simp [empty]
  | trans perm _ firstInduction secondInduction =>
      rw [firstInduction apart]
      exact secondInduction (perm.pairwise apart Or.symm)

/-- Lists that share no level items can be put together in any order without reordering a class. -/
theorem sameLevels_flatMap_of_perm {β : Type} {items permuted : List β}
    (perm : items.Perm permuted)
    (contribution : β → List α)
    (apart :
      items.Pairwise fun left right =>
        ∀ first ∈ contribution left, ∀ second ∈ contribution right, order first second ≠ .eq) :
    SameLevels order (items.flatMap contribution) (permuted.flatMap contribution) := by
  intro item
  rw [List.filter_flatMap, List.filter_flatMap]
  apply flatMap_eq_of_perm perm
  refine apart.imp ?_
  intro left right noneLevel
  by_contra both
  rw [not_or] at both
  rcases List.exists_mem_of_ne_nil _ both.1 with ⟨first, firstMember⟩
  rcases List.exists_mem_of_ne_nil _ both.2 with ⟨second, secondMember⟩
  rw [List.mem_filter, beq_iff_eq] at firstMember secondMember
  apply noneLevel first firstMember.1 second secondMember.1
  exact TransCmp.eq_trans (OrientedCmp.eq_symm firstMember.2) secondMember.2

end StableSort

/-! ## First items of runs -/

section Runs

variable {α : Type}

theorem firstOfRuns_sublist (same : α → α → Bool) (previous : Option α) (items : List α) :
    (firstOfRuns same previous items).Sublist items := by
  induction items generalizing previous with
  | nil => exact List.Sublist.slnil
  | cons item rest induction =>
      rw [firstOfRuns]
      split
      · exact (induction previous).cons item
      · exact (induction (some item)).cons_cons item

theorem mem_firstOfRuns_or_iff [DecidableEq α] {previous : Option α} {items : List α} {item : α} :
    item ∈ firstOfRuns (· == ·) previous items ∨ previous = some item ↔
      item ∈ items ∨ previous = some item := by
  induction items generalizing previous with
  | nil => rfl
  | cons head rest induction =>
      rw [firstOfRuns, List.mem_cons]
      by_cases again : previous = some head
      · rw [again, Option.any_some, beq_self_eq_true, if_pos rfl, induction, Option.some_inj]
        constructor
        · rintro (later | isHead)
          · exact Or.inl (Or.inr later)
          · exact Or.inr isHead
        · rintro ((isItem | later) | isHead)
          · exact Or.inr isItem.symm
          · exact Or.inl later
          · exact Or.inr isHead
      · have new : previous.any (· == head) = false := by
          cases previous with
          | none => rfl
          | some last => simpa using again
        have kept := @induction (some head)
        rw [Option.some_inj, eq_comm] at kept
        rw [new, if_neg Bool.false_ne_true, List.mem_cons, or_comm (a := item = head), kept,
          or_comm (a := item = head)]

/-- Dropping repeated neighbours loses no item. -/
theorem mem_firstOfRuns_iff [DecidableEq α] {items : List α} {item : α} :
    item ∈ firstOfRuns (· == ·) none items ↔ item ∈ items := by
  simpa using @mem_firstOfRuns_or_iff α _ none items item

/-- After an item was kept, the items of its run are skipped. -/
theorem firstOfRuns_some (same : α → α → Bool) (previous : α) (items : List α) :
    firstOfRuns same (some previous) items =
      firstOfRuns same none (items.dropWhile (same previous)) := by
  induction items with
  | nil => rfl
  | cons item rest induction =>
      by_cases again : same previous item = true
      · rw [List.dropWhile_cons_of_pos again, ← induction, firstOfRuns]
        simp [again]
      · rw [List.dropWhile_cons_of_neg again, firstOfRuns, firstOfRuns]
        simp [again]

/-- First items of runs are carried along by a function that runs do not see. -/
theorem map_firstOfRuns {β : Type} (same : α → α → Bool) (sameImage : β → β → Bool) (image : α → β)
    (unseen : ∀ left right, same left right = sameImage (image left) (image right))
    (previous : Option α) (items : List α) :
    (firstOfRuns same previous items).map image =
      firstOfRuns sameImage (previous.map image) (items.map image) := by
  induction items generalizing previous with
  | nil => rfl
  | cons item rest induction =>
      have again :
          (previous.map image).any (sameImage · (image item)) = previous.any (same · item) := by
        cases previous with
        | none => rfl
        | some last => exact (unseen last item).symm
      rw [firstOfRuns, List.map_cons, firstOfRuns, again]
      split
      · exact induction previous
      · rw [List.map_cons, induction (some item), Option.map_some]

/-- Induction that removes the first item together with all items of its class. -/
theorem classInduction (same : α → α → Bool) {motive : List α → Prop}
    (nil : motive [])
    (cons :
      ∀ item rest,
        motive (rest.filter fun other => !same item other) → motive (item :: rest))
    (items : List α) :
    motive items := by
  induction length : items.length using Nat.strongRecOn generalizing items with
  | ind count induction =>
      cases items with
      | nil => exact nil
      | cons item rest =>
          apply cons
          refine induction _ ?_ _ rfl
          calc
            (rest.filter fun other => !same item other).length ≤ rest.length :=
              List.length_filter_le _ rest
            _ < (item :: rest).length := Nat.lt_succ_self rest.length
            _ = count := length

variable {place : α → α → Ordering} [TransCmp place] {same : α → α → Bool}

/-- In a sorted list the class of the first item is a run at its start. -/
theorem dropWhile_eq_filter_of_sorted
    (level : ∀ left right, same left right = true ↔ place left right = .eq)
    {item : α} {rest : List α}
    (sorted : (item :: rest).Pairwise fun left right => place left right ≠ .gt) :
    rest.dropWhile (same item) = rest.filter fun other => !same item other := by
  induction rest with
  | nil => rfl
  | cons next rest induction =>
      rw [List.pairwise_cons, List.pairwise_cons] at sorted
      rcases sorted with ⟨itemFirst, nextFirst, restSorted⟩
      by_cases again : same item next = true
      · rw [List.dropWhile_cons_of_pos again, List.filter_cons_of_neg (by simpa using again)]
        apply induction
        rw [List.pairwise_cons]
        exact ⟨fun other member => itemFirst other (List.mem_cons_of_mem next member), restSorted⟩
      · have before : place item next = .lt := by
          have notAfter := itemFirst next List.mem_cons_self
          exact lt_of_ne_gt_of_ne_eq notAfter fun equal => again ((level item next).mpr equal)
        rw [List.dropWhile_cons_of_neg again, eq_comm, List.filter_eq_self]
        intro other member
        have otherBefore : place item other = .lt := by
          rcases List.mem_cons.mp member with equal | later
          · rw [equal]
            exact before
          · exact TransCmp.lt_of_lt_of_isLE before
              (Ordering.ne_gt_iff_isLE.mp (nextFirst other later))
        have different : same item other ≠ true := by
          intro equal
          rw [(level item other).mp equal] at otherBefore
          cases otherBefore
        simpa using different

/-- Of a sorted list the first item is kept and the rest of its class is dropped. -/
theorem firstOfRuns_cons_of_sorted
    (level : ∀ left right, same left right = true ↔ place left right = .eq)
    {item : α} {rest : List α}
    (sorted : (item :: rest).Pairwise fun left right => place left right ≠ .gt) :
    firstOfRuns same none (item :: rest) =
      item :: firstOfRuns same none (rest.filter fun other => !same item other) := by
  rw [← dropWhile_eq_filter_of_sorted level sorted, ← firstOfRuns_some, firstOfRuns]
  rfl

/-- The first items of the runs of a sorted list are strictly increasing. -/
theorem pairwise_firstOfRuns
    (level : ∀ left right, same left right = true ↔ place left right = .eq)
    {items : List α}
    (sorted : items.Pairwise fun left right => place left right ≠ .gt) :
    (firstOfRuns same none items).Pairwise fun left right => place left right = .lt := by
  induction items using classInduction same with
  | nil => exact List.Pairwise.nil
  | cons item rest induction =>
      rw [firstOfRuns_cons_of_sorted level sorted, List.pairwise_cons]
      rw [List.pairwise_cons] at sorted
      refine ⟨?_, induction (sorted.2.filter _)⟩
      intro other member
      have kept := (firstOfRuns_sublist same none _).subset member
      rw [List.mem_filter] at kept
      apply lt_of_ne_gt_of_ne_eq (sorted.1 other kept.1)
      intro equal
      simp [(level item other).mpr equal] at kept

/-- A filter that treats level items alike commutes with taking the first items of runs. -/
theorem filter_firstOfRuns
    (level : ∀ left right, same left right = true ↔ place left right = .eq)
    (keep : α → Bool)
    (alike : ∀ left right, same left right = true → keep left = keep right)
    {items : List α}
    (sorted : items.Pairwise fun left right => place left right ≠ .gt) :
    (firstOfRuns same none items).filter keep = firstOfRuns same none (items.filter keep) := by
  induction items using classInduction same with
  | nil => rfl
  | cons item rest induction =>
      have restSorted := (List.pairwise_cons.mp sorted).2
      have keptSorted := sorted.filter keep
      rw [firstOfRuns_cons_of_sorted level sorted, List.filter_cons,
        induction (restSorted.filter _), List.filter_comm]
      by_cases kept : keep item = true
      · rw [List.filter_cons_of_pos kept] at keptSorted ⊢
        rw [if_pos kept, firstOfRuns_cons_of_sorted level keptSorted]
      · rw [List.filter_cons_of_neg kept, if_neg kept]
        congr 1
        rw [List.filter_eq_self]
        intro other member
        have otherKept := (List.mem_filter.mp member).2
        cases again : same item other with
        | false => rfl
        | true =>
            rw [alike item other again] at kept
            exact absurd otherKept kept

/-- Every item of a sorted list has a level first item that does not come after it. -/
theorem exists_mem_firstOfRuns
    (level : ∀ left right, same left right = true ↔ place left right = .eq)
    {related : α → α → Prop}
    (reflexive : ∀ item, related item item)
    {items : List α}
    (sorted : items.Pairwise fun left right => place left right ≠ .gt)
    (pairwise : items.Pairwise related)
    {item : α}
    (member : item ∈ items) :
    ∃ first ∈ firstOfRuns same none items, place first item = .eq ∧ related first item := by
  induction items using classInduction same with
  | nil => cases member
  | cons head rest induction =>
      rw [firstOfRuns_cons_of_sorted level sorted]
      rw [List.pairwise_cons] at sorted pairwise
      rcases List.mem_cons.mp member with equal | later
      · subst equal
        exact ⟨item, List.mem_cons_self, ReflCmp.compare_self, reflexive item⟩
      · cases again : same head item with
        | true =>
            exact ⟨head, List.mem_cons_self, (level head item).mp again, pairwise.1 item later⟩
        | false =>
            have kept : item ∈ rest.filter fun other => !same head other := by
              simp [later, again]
            rcases induction (sorted.2.filter _) (pairwise.2.filter _) kept with
              ⟨first, firstMember, found⟩
            exact ⟨first, List.mem_cons_of_mem head firstMember, found⟩

/-- A strictly increasing list holds one item of the class of each member. -/
theorem filter_level_of_strict
    (level : ∀ left right, same left right = true ↔ place left right = .eq)
    {items : List α}
    (strict : items.Pairwise fun left right => place left right = .lt)
    {item : α}
    (member : item ∈ items) :
    items.filter (same item) = [item] := by
  induction items with
  | nil => cases member
  | cons head rest induction =>
      rw [List.pairwise_cons] at strict
      rcases List.mem_cons.mp member with equal | later
      · subst equal
        have self : same item item = true := (level item item).mpr ReflCmp.compare_self
        rw [List.filter_cons_of_pos self, List.filter_eq_nil_iff.mpr]
        intro other otherMember again
        have before := strict.1 other otherMember
        rw [(level item other).mp again] at before
        cases before
      · have different : same item head ≠ true := by
          intro again
          have before := strict.1 item later
          rw [OrientedCmp.eq_comm.mp ((level item head).mp again)] at before
          cases before
        rw [List.filter_cons_of_neg different]
        exact induction strict.2 later

end Runs

end StructuralLint
