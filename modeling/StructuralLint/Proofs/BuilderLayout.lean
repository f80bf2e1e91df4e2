import StructuralLint.Proofs.BuilderTree

/-!
# The layout of a builder

The cursor never moves back, and a new node stands between the old cursor and the new one.  Only the
nodes that enclose the new one are stretched, up to the new cursor.  What is not stretched ends
before the new node starts, and what is stretched encloses all that was created behind it, comments
apart; so siblings stay apart.
-/

namespace StructuralLint.Model.Builder

open Relation

/-! ## Spans -/

/--
The spans of the nodes are laid out: they are not inverted, end within the file and, comments
apart, at the cursor at the latest; parents contain their children, and of two nodes the first
encloses the second or ends before it.
-/
structure HasLayout (builder : Builder) : Prop where
  ordered : ∀ node ∈ builder.nodes, node.span.start ≤ node.span.stop
  endsInFile : ∀ node ∈ builder.nodes, node.span.endLine ≤ builder.line
  behindCursor : ∀ node ∈ builder.nodes, node.kind ≠ .comment → node.span.stop ≤ builder.cursor
  inside : ∀ position index parent child,
    HasParent builder.parents position index → builder.nodes[position]? = some parent →
      builder.nodes[index]? = some child →
        parent.span.start ≤ child.span.start ∧ child.span.stop ≤ parent.span.stop
  apart : ∀ first second earlier later,
    builder.nodes[first]? = some earlier → builder.nodes[second]? = some later →
      earlier.kind ≠ .comment → later.kind ≠ .comment → first < second →
        Encloses builder.parents first second ∨ earlier.span.stop ≤ later.span.start

theorem line_le_of_cursor_le {before after : Builder} (advances : before.cursor ≤ after.cursor) :
    before.line ≤ after.line := by
  rcases (Position.le_iff _ _).mp advances with less | ⟨same, _⟩
  · exact UInt32.le_of_lt less
  · exact UInt32.le_of_eq same

theorem Places.advances {before after : Builder} {node : Node} (places : Places before node after) :
    before.cursor ≤ after.cursor := by
  by_cases isComment : node.kind = .comment
  · exact (places.comment isComment).advances
  · have inTree := places.inTree isComment
    have starts := Position.le_trans inTree.starts places.ordered
    rw [inTree.stops] at starts
    exact starts

theorem Places.endsInFile {before after : Builder} {node : Node}
    (places : Places before node after) :
    node.span.endLine ≤ after.line := by
  by_cases isComment : node.kind = .comment
  · exact (places.comment isComment).endsInFile
  · exact UInt32.le_of_eq (congrArg Position.line (places.inTree isComment).stops)

/-- An older node ends where it ended, or where the new node ends. -/
theorem Kept.stop_eq {isParent isAround : Prop} {added old new : Node}
    (kept : Kept isParent isAround added old new) :
    new.span.stop = old.span.stop ∨ isAround ∧ new.span.stop = added.span.stop := by
  by_cases around : isAround
  · rcases kept.grown around with same | grown
    · exact Or.inl same
    · exact Or.inr ⟨around, grown⟩
  · exact Or.inl (kept.still around)

section Grows

variable {before after : Builder} {parent : Option Nat} {node : Node}
  (layout : before.HasLayout)
  (linked : before.IsLinked)
  (adds : Adds before parent node after)
  (hangs : Hangs before parent node)
  (places : Places before node after)

include layout in
theorem HasLayout.stop_le_cursor {position : Nat} {old : Node}
    (found : before.nodes[position]? = some old)
    (notComment : old.kind ≠ .comment) :
    old.span.stop ≤ before.cursor :=
  layout.behindCursor old (List.mem_of_getElem? found) notComment

include layout linked adds hangs places in
/-- Parents still contain their children: what encloses a stretched node is stretched as well. -/
theorem HasLayout.contains {position index : Nat} {top bottom : Node}
    (isParent : HasParent after.parents position index)
    (topFound : after.nodes[position]? = some top)
    (bottomFound : after.nodes[index]? = some bottom) :
    top.span.start ≤ bottom.span.start ∧ bottom.span.stop ≤ top.span.stop := by
  rcases (adds.hasParent_iff linked).mp isParent with wasParent | ⟨rfl, rfl⟩
  · have within := lt_length_of_hasParent linked wasParent
    have aboveWithin := Nat.lt_trans (linked.back position index wasParent) within
    rcases adds.eq_or_kept topFound with ⟨atEnd, _⟩ | ⟨oldTop, oldTopFound, topKept⟩
    · exact absurd aboveWithin (Nat.not_lt.mpr (Nat.le_of_eq atEnd.symm))
    rcases adds.eq_or_kept bottomFound with ⟨atEnd, _⟩ | ⟨oldBottom, oldBottomFound, bottomKept⟩
    · exact absurd within (Nat.not_lt.mpr (Nat.le_of_eq atEnd.symm))
    rcases layout.inside position index oldTop oldBottom wasParent oldTopFound oldBottomFound with
      ⟨starts, stops⟩
    rw [topKept.start, bottomKept.start]
    refine ⟨starts, ?_⟩
    rcases bottomKept.stop_eq with same | ⟨⟨added, isAdded, around⟩, same⟩
    · rw [same]
      exact Position.le_trans stops topKept.noShorter
    · rw [same]
      exact topKept.reaches ⟨added, isAdded, ReflTransGen.head wasParent around⟩
  · rw [adds.added, Option.some_inj] at bottomFound
    subst bottomFound
    have inTree := (hangs.below position rfl).1
    rcases adds.eq_or_kept topFound with ⟨atEnd, _⟩ | ⟨oldTop, oldTopFound, kept⟩
    · exact absurd inTree.lt_length (Nat.not_lt.mpr (Nat.le_of_eq atEnd.symm))
    · have notComment : node.kind ≠ .comment := by
        intro isComment
        cases hangs.loose.mpr isComment
      have topInTree : oldTop.kind ≠ .comment := by
        rcases inTree with ⟨same, sameFound, isInTree⟩
        rw [oldTopFound, Option.some_inj] at sameFound
        rw [sameFound]
        exact isInTree
      refine ⟨?_, kept.reaches ⟨position, rfl, ReflTransGen.refl⟩⟩
      rw [kept.start]
      exact Position.le_trans (layout.ordered oldTop (List.mem_of_getElem? oldTopFound))
        (Position.le_trans (layout.stop_le_cursor oldTopFound topInTree)
          (places.inTree notComment).starts)

include layout linked adds hangs places in
/-- Nodes stay apart: a stretched node encloses all of the tree that stands behind it. -/
theorem HasLayout.encloses_or_apart (tree : before.HasTree) {first second : Nat}
    {earlier later : Node}
    (earlierFound : after.nodes[first]? = some earlier)
    (laterFound : after.nodes[second]? = some later)
    (earlierInTree : earlier.kind ≠ .comment)
    (laterInTree : later.kind ≠ .comment)
    (less : first < second) :
    Encloses after.parents first second ∨ earlier.span.stop ≤ later.span.start := by
  rcases adds.eq_or_kept earlierFound with ⟨rfl, _⟩ | ⟨oldEarlier, oldEarlierFound, earlierKept⟩
  · have within := (List.getElem?_eq_some_iff.mp laterFound).1
    rw [adds.length] at within
    exact absurd less (Nat.not_lt.mpr (Nat.le_of_lt_succ within))
  rw [earlierKept.kind] at earlierInTree
  rcases adds.eq_or_kept laterFound with ⟨rfl, rfl⟩ | ⟨oldLater, oldLaterFound, laterKept⟩
  · cases parent with
    | none => exact absurd (hangs.loose.mp rfl) laterInTree
    | some index =>
        rcases earlierKept.stop_eq with same | ⟨⟨_, ⟨⟩, around⟩, _⟩
        · rw [same]
          exact Or.inr (Position.le_trans (layout.stop_le_cursor oldEarlierFound earlierInTree)
            (places.inTree laterInTree).starts)
        · have isParent : HasParent after.parents index before.nodes.length :=
            (adds.hasParent_iff linked).mpr (Or.inr ⟨rfl, rfl⟩)
          have aroundNow :=
            (adds.encloses_iff linked (hangs.below index rfl).1.lt_length).mpr around
          exact Or.inl (aroundNow.tail isParent)
  · rw [laterKept.kind] at laterInTree
    rw [adds.encloses_iff linked (List.getElem?_eq_some_iff.mp oldLaterFound).1, laterKept.start]
    rcases earlierKept.stop_eq with same | ⟨⟨index, isAdded, around⟩, _⟩
    · rw [same]
      exact layout.apart first second oldEarlier oldLater oldEarlierFound oldLaterFound
        earlierInTree laterInTree less
    · rcases hangs.below index isAdded with ⟨_, last, _, isLast, further⟩
      have laterIsInTree : before.InTree second := ⟨oldLater, oldLaterFound, laterInTree⟩
      exact Or.inl (tree.nested first second last laterIsInTree (Nat.le_of_lt less)
        (isLast second laterIsInTree) (around.trans further))

include layout linked adds hangs places in
/-- The layout is kept. -/
theorem HasLayout.grows (tree : before.HasTree) : after.HasLayout := by
  have advances := places.advances
  constructor
  case ordered =>
    intro new member
    rcases List.getElem?_of_mem member with ⟨position, found⟩
    rcases adds.eq_or_kept found with ⟨_, rfl⟩ | ⟨old, wasFound, kept⟩
    · exact places.ordered
    · rw [kept.start]
      exact Position.le_trans (layout.ordered old (List.mem_of_getElem? wasFound)) kept.noShorter
  case endsInFile =>
    intro new member
    rcases List.getElem?_of_mem member with ⟨position, found⟩
    rcases adds.eq_or_kept found with ⟨_, rfl⟩ | ⟨old, wasFound, kept⟩
    · exact places.endsInFile
    · rcases kept.stop_eq with same | ⟨_, same⟩
      · have sameLine : new.span.endLine = old.span.endLine := congrArg Position.line same
        rw [sameLine]
        exact UInt32.le_trans (layout.endsInFile old (List.mem_of_getElem? wasFound))
          (line_le_of_cursor_le advances)
      · have sameLine : new.span.endLine = node.span.endLine := congrArg Position.line same
        rw [sameLine]
        exact places.endsInFile
  case behindCursor =>
    intro new member notComment
    rcases List.getElem?_of_mem member with ⟨position, found⟩
    rcases adds.eq_or_kept found with ⟨_, rfl⟩ | ⟨old, wasFound, kept⟩
    · rw [(places.inTree notComment).stops]
      exact Position.le_refl _
    · rcases kept.stop_eq with same | ⟨⟨index, isAdded, _⟩, same⟩
      · rw [kept.kind] at notComment
        rw [same]
        exact Position.le_trans (layout.stop_le_cursor wasFound notComment) advances
      · have addedInTree : node.kind ≠ .comment := by
          intro isComment
          rw [hangs.loose.mpr isComment] at isAdded
          cases isAdded
        rw [same, (places.inTree addedInTree).stops]
        exact Position.le_refl _
  case inside =>
    intro position index top bottom isParent topFound bottomFound
    exact layout.contains linked adds hangs places isParent topFound bottomFound
  case apart =>
    intro first second earlier later earlierFound laterFound earlierInTree laterInTree less
    exact layout.encloses_or_apart linked adds hangs places tree earlierFound laterFound
      earlierInTree laterInTree less

end Grows

end StructuralLint.Model.Builder
