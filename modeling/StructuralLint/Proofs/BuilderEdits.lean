import StructuralLint.Proofs.BuilderLayout
import StructuralLint.Proofs.WaitingComments

/-!
# Edits of nodes

Between requests the nodes of a builder may be edited.  An edit that keeps the outline of its node
is not noticed by the tree, by the layout or by the owners of comments, because each of them is read
from the parents, the counters and the outlines alone.
-/

namespace StructuralLint.Model.Builder

/-- Builders in which the tree, the layout and the owners of comments are read alike. -/
structure Agrees (before after : Builder) : Prop where
  root : after.root = before.root
  parents : after.parents = before.parents
  line : after.line = before.line
  column : after.column = before.column
  waiting : after.pendingComments = before.pendingComments
  outlines : after.nodes.map outline = before.nodes.map outline

theorem agrees_modify {builder : Builder} {id : NodeId} {change : Node → Node}
    (keeps : ∀ node, builder.node? id = some node → outline (change node) = outline node) :
    Agrees builder (builder.modify id change) := by
  refine ⟨rfl, rfl, rfl, rfl, rfl, ?_⟩
  show (builder.nodes.modify id.index.toNat change).map outline = _
  apply List.ext_getElem?
  intro position
  rw [List.getElem?_map, List.getElem?_map, List.getElem?_modify]
  by_cases isEdited : id.index.toNat = position
  · subst isEdited
    cases found : builder.nodes[id.index.toNat]? with
    | none => rfl
    | some node => simp [keeps node found]
  · simp [isEdited]

namespace Agrees

variable {before after : Builder} (agrees : Agrees before after)

include agrees

theorem symm : Agrees after before where
  root := agrees.root.symm
  parents := agrees.parents.symm
  line := agrees.line.symm
  column := agrees.column.symm
  waiting := agrees.waiting.symm
  outlines := agrees.outlines.symm

theorem cursor_eq : after.cursor = before.cursor := by
  rw [cursor, cursor, agrees.line, agrees.column]

/-- What is read from outlines is read alike. -/
theorem map_eq {α : Type} {read : Node → α} (isRead : ∀ node, read node = read (outline node)) :
    after.nodes.map read = before.nodes.map read := by
  have read_eq : read = read ∘ outline := funext isRead
  rw [read_eq, ← List.map_map, agrees.outlines, List.map_map]

theorem length_eq : after.nodes.length = before.nodes.length := by
  have lengths := congrArg List.length agrees.outlines
  rwa [List.length_map, List.length_map] at lengths

/-- Every node stands where one of the same outline stood. -/
theorem exists_old {position : Nat} {new : Node} (found : after.nodes[position]? = some new) :
    ∃ old, before.nodes[position]? = some old ∧ outline new = outline old := by
  have same : (after.nodes.map outline)[position]? = (before.nodes.map outline)[position]? := by
    rw [agrees.outlines]
  rw [List.getElem?_map, List.getElem?_map, found] at same
  rcases Option.map_eq_some_iff.mp same.symm with ⟨old, wasFound, sameOutline⟩
  exact ⟨old, wasFound, sameOutline.symm⟩

theorem exists_old_of_mem {new : Node} (member : new ∈ after.nodes) :
    ∃ old ∈ before.nodes, outline new = outline old := by
  rcases List.getElem?_of_mem member with ⟨position, found⟩
  rcases agrees.exists_old found with ⟨old, wasFound, same⟩
  exact ⟨old, List.mem_of_getElem? wasFound, same⟩

theorem inTree {position : Nat} (inTree : before.InTree position) : after.InTree position := by
  rcases inTree with ⟨old, wasFound, notComment⟩
  rcases agrees.symm.exists_old wasFound with ⟨new, found, same⟩
  refine ⟨new, found, ?_⟩
  rw [← (outline_eq_iff.mp same).2.1]
  exact notComment

theorem isLinked (linked : before.IsLinked) : after.IsLinked := by
  constructor
  case length => rw [agrees.parents, agrees.length_eq, linked.length]
  case back =>
    rw [agrees.parents]
    exact linked.back

theorem isNumbered (numbered : before.IsNumbered) : after.IsNumbered := by
  rw [IsNumbered, agrees.map_eq fun _ => rfl, agrees.length_eq]
  exact numbered

theorem hasTree (tree : before.HasTree) : after.HasTree := by
  constructor
  case rootIsModule =>
    rcases tree.rootIsModule with ⟨old, wasFound, isModule⟩
    rcases agrees.symm.exists_old wasFound with ⟨new, found, same⟩
    exact ⟨new, found, (outline_eq_iff.mp same).2.1.symm.trans isModule⟩
  case loose =>
    intro position new found
    rcases agrees.exists_old found with ⟨old, wasFound, same⟩
    rw [agrees.parents, (outline_eq_iff.mp same).2.1]
    exact tree.loose position old wasFound
  case parentsInTree =>
    intro parent child isParent
    rw [agrees.parents] at isParent
    exact agrees.inTree (tree.parentsInTree parent child isParent)
  case listed =>
    intro position new found
    rcases agrees.exists_old found with ⟨old, wasFound, same⟩
    rw [agrees.parents, (outline_eq_iff.mp same).2.2.2.1]
    exact tree.listed position old wasFound
  case ascending =>
    intro new member
    rcases agrees.exists_old_of_mem member with ⟨old, wasMember, same⟩
    rw [(outline_eq_iff.mp same).2.2.2.1]
    exact tree.ascending old wasMember
  case nested =>
    intro above between below inTree
    rw [agrees.parents]
    exact tree.nested above between below (agrees.symm.inTree inTree)

theorem hasLayout (layout : before.HasLayout) : after.HasLayout := by
  have sameSpan {new old : Node} (same : outline new = outline old) : new.span = old.span :=
    (outline_eq_iff.mp same).2.2.1
  have sameKind {new old : Node} (same : outline new = outline old) : new.kind = old.kind :=
    (outline_eq_iff.mp same).2.1
  constructor
  case ordered =>
    intro new member
    rcases agrees.exists_old_of_mem member with ⟨old, wasMember, same⟩
    rw [sameSpan same]
    exact layout.ordered old wasMember
  case endsInFile =>
    intro new member
    rcases agrees.exists_old_of_mem member with ⟨old, wasMember, same⟩
    rw [sameSpan same, agrees.line]
    exact layout.endsInFile old wasMember
  case behindCursor =>
    intro new member
    rcases agrees.exists_old_of_mem member with ⟨old, wasMember, same⟩
    rw [sameSpan same, sameKind same, agrees.cursor_eq]
    exact layout.behindCursor old wasMember
  case inside =>
    intro position index newParent newChild isParent parentFound childFound
    rcases agrees.exists_old parentFound with ⟨parent, parentWasFound, sameParent⟩
    rcases agrees.exists_old childFound with ⟨child, childWasFound, sameChild⟩
    rw [agrees.parents] at isParent
    rw [sameSpan sameParent, sameSpan sameChild]
    exact layout.inside position index parent child isParent parentWasFound childWasFound
  case apart =>
    intro first second newEarlier newLater earlierFound laterFound
    rcases agrees.exists_old earlierFound with ⟨earlier, earlierWasFound, sameEarlier⟩
    rcases agrees.exists_old laterFound with ⟨later, laterWasFound, sameLater⟩
    rw [sameKind sameEarlier, sameKind sameLater, sameSpan sameEarlier, sameSpan sameLater,
      agrees.parents]
    exact layout.apart first second earlier later earlierWasFound laterWasFound

theorem hasOwners (owners : before.HasOwners) : after.HasOwners := by
  have sameNodes : after.nodes.map bare = before.nodes.map bare := agrees.map_eq fun _ => rfl
  constructor
  case gathered =>
    rw [sameNodes, agrees.waiting]
    exact owners.gathered
  case owned =>
    rw [sameNodes, agrees.waiting]
    exact owners.owned

end Agrees

end StructuralLint.Model.Builder
