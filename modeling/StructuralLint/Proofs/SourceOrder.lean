import StructuralLint.Proofs.TreeOrder

/-!
# Spans along the tree

Ingestion looks at a node and its children only: a child lies inside its parent, and of two
neighbours among the children the first ends before the second starts.  This module carries the two
checks to any two nodes that hang from the root.  The upper one of two nodes on one branch contains
the lower one; of two nodes on different branches, the one that comes first in pre-order ends before
the other starts, because they lie below two children of one node.
-/

namespace StructuralLint.Model

/-- The spans of a model lie in the source as its nodes lie in the tree. -/
structure SpansFollowTree (model : Model) : Prop where
  /-- What lies below a node lies inside its span. -/
  inside :
    ∀ above ∈ model.nodes, ∀ below ∈ model.nodes,
      Reachable model.nodes model.root above.id → Reachable model.nodes model.root below.id →
        model.isWithin below.id above.id = true → above.span.contains below.span = true
  /-- Of two nodes on different branches the first in pre-order ends before the second starts. -/
  apart :
    ∀ first second,
      [first, second].Sublist (model.descendants model.root) →
        model.isWithin first.id second.id = false → model.isWithin second.id first.id = false →
          first.span.stop ≤ second.span.start
  /-- The walk down from the root goes through the source from its start to its end. -/
  ascending :
    (model.descendants model.root).Pairwise fun first second =>
      first.span.start ≤ second.span.start
  /-- The root contains all that hangs from it. -/
  withinRoot :
    ∃ rootNode,
      model.node? model.root = some rootNode ∧
        ∀ node ∈ model.nodes,
          Reachable model.nodes model.root node.id → rootNode.span.contains node.span = true

instance : Trans (α := Position) LE.le LE.le LE.le where
  trans := Position.le_trans

/-! ## Children of one node -/

section Neighbours

variable {nodes : List Node}

theorem Follows.trans
    (ordered : ∀ node ∈ nodes, node.span.start ≤ node.span.stop)
    {first middle last : NodeId}
    (present : ∃ node ∈ nodes, node.id = middle)
    (firstMiddle : Follows nodes first middle)
    (middleLast : Follows nodes middle last) :
    Follows nodes first last := by
  intro earlier earlierMember later laterMember isFirst isLast
  rcases present with ⟨between, betweenMember, isMiddle⟩
  calc earlier.span.stop
    _ ≤ between.span.start :=
      firstMiddle earlier earlierMember between betweenMember isFirst isMiddle
    _ ≤ between.span.stop := ordered between betweenMember
    _ ≤ later.span.start :=
      middleLast between betweenMember later laterMember isMiddle isLast

/-- Where every neighbour follows the one before, all that stand later follow. -/
theorem pairwise_follows_of_isChain
    (ordered : ∀ node ∈ nodes, node.span.start ≤ node.span.stop)
    {ids : List NodeId}
    (present : ∀ id ∈ ids, ∃ node ∈ nodes, node.id = id)
    (chain : ids.IsChain (Follows nodes)) :
    ids.Pairwise (Follows nodes) := by
  induction ids with
  | nil => exact List.Pairwise.nil
  | cons first rest induction =>
      have laterPresent : ∀ id ∈ rest, ∃ node ∈ nodes, node.id = id :=
        fun id later => present id (List.mem_cons_of_mem first later)
      cases rest with
      | nil => exact List.pairwise_singleton _ first
      | cons next others =>
          rcases List.isChain_cons_cons.mp chain with ⟨neighbours, restChain⟩
          have restOrdered := induction laterPresent restChain
          refine List.pairwise_cons.mpr ⟨?_, restOrdered⟩
          intro id later
          rcases List.mem_cons.mp later with rfl | behind
          · exact neighbours
          · exact neighbours.trans ordered (laterPresent next List.mem_cons_self)
              ((List.pairwise_cons.mp restOrdered).1 id behind)

end Neighbours

/-! ## Well-formed models -/

namespace IsWellFormed

variable {model : Model} (wellFormed : model.IsWellFormed)

include wellFormed

theorem follows_of_sublist_children {parent : Node}
    (member : parent ∈ model.nodes)
    {earlier later : NodeId}
    (inOrder : [earlier, later].Sublist parent.children) :
    Follows model.nodes earlier later :=
  List.pairwise_iff_forall_sublist.mp
    (pairwise_follows_of_isChain wellFormed.spansOrdered (wellFormed.childrenExist parent member)
      (wellFormed.childrenInOrder parent member))
    inOrder

/-- A node contains all that it leads to. -/
theorem contains_of_reachable {above below : Node}
    (aboveMember : above ∈ model.nodes)
    (belowMember : below ∈ model.nodes)
    (leads : Reachable model.nodes above.id below.id) :
    above.span.start ≤ below.span.start ∧ below.span.stop ≤ above.span.stop := by
  generalize isBelow : below.id = id at leads
  induction leads generalizing below with
  | refl =>
      rw [wellFormed.eq_of_id_eq belowMember aboveMember isBelow]
      exact ⟨Position.le_refl _, Position.le_refl _⟩
  | tail _ listed induction =>
      rcases listed with ⟨parent, parentMember, isParent, listed⟩
      subst isBelow
      rcases induction parentMember isParent with ⟨start, stop⟩
      rcases wellFormed.childrenInside parent parentMember below belowMember listed with
        ⟨childStart, childStop⟩
      exact ⟨Position.le_trans start childStart, Position.le_trans childStop stop⟩

/-- Of two ids in pre-order the first lies above the second or ends before it starts. -/
theorem reachable_or_stop_le_start {first second : Node}
    (firstMember : first ∈ model.nodes)
    (secondMember : second ∈ model.nodes)
    (precedes : Precedes model.nodes first.id second.id) :
    Reachable model.nodes first.id second.id ∨ first.span.stop ≤ second.span.start := by
  rcases precedes with above | ⟨parent, member, earlierId, laterId, inOrder, toFirst, toSecond⟩
  · exact Or.inl above.to_reflTransGen
  · right
    have listed {id : NodeId} (isChild : id ∈ [earlierId, laterId]) : id ∈ parent.children :=
      inOrder.subset isChild
    rcases wellFormed.childrenExist parent member earlierId (listed List.mem_cons_self) with
      ⟨earlier, earlierMember, rfl⟩
    rcases wellFormed.childrenExist parent member laterId
        (listed (List.mem_cons_of_mem _ List.mem_cons_self)) with
      ⟨later, laterMember, rfl⟩
    have follows := wellFormed.follows_of_sublist_children member inOrder earlier earlierMember
      later laterMember rfl rfl
    calc first.span.stop
      _ ≤ earlier.span.stop :=
        (wellFormed.contains_of_reachable earlierMember firstMember toFirst).2
      _ ≤ later.span.start := follows
      _ ≤ second.span.start :=
        (wellFormed.contains_of_reachable laterMember secondMember toSecond).1

theorem spansFollowTree : model.SpansFollowTree where
  inside above aboveMember below belowMember _ belowReachable isWithin := by
    have leads := (wellFormed.isWithin_iff belowReachable).mp isWithin
    exact (Span.contains_iff _ _).mpr
      (wellFormed.contains_of_reachable aboveMember belowMember leads)
  apart first second inOrder _ notBelow := by
    have members {node : Node} (isEither : node ∈ [first, second]) :=
      wellFormed.mem_descendants_iff.mp (inOrder.subset isEither)
    rcases members List.mem_cons_self with ⟨firstMember, _⟩
    rcases members (List.mem_cons_of_mem _ List.mem_cons_self) with ⟨secondMember, hangs⟩
    have precedes := List.pairwise_iff_forall_sublist.mp
      (pairwise_precedes_descendantsWithin model _ model.root) inOrder
    rcases wellFormed.reachable_or_stop_le_start firstMember secondMember precedes with
      leads | before
    · rw [(wellFormed.isWithin_iff hangs).mpr leads] at notBelow
      cases notBelow
    · exact before
  ascending := by
    refine (pairwise_precedes_descendantsWithin model _ model.root).imp_of_mem ?_
    intro first second isFirst isSecond precedes
    have firstMember := (wellFormed.mem_descendants_iff.mp isFirst).1
    have secondMember := (wellFormed.mem_descendants_iff.mp isSecond).1
    rcases wellFormed.reachable_or_stop_le_start firstMember secondMember precedes with
      leads | before
    · exact (wellFormed.contains_of_reachable firstMember secondMember leads).1
    · exact Position.le_trans (wellFormed.spansOrdered first firstMember) before
  withinRoot := by
    rcases wellFormed.exists_node?_root with ⟨rootNode, found, _⟩
    rcases mem_of_node?_eq_some found with ⟨rootMember, isRoot⟩
    refine ⟨rootNode, found, ?_⟩
    intro node member hangs
    rw [← isRoot] at hangs
    exact (Span.contains_iff _ _).mpr
      (wellFormed.contains_of_reachable rootMember member hangs)

end IsWellFormed

/-! ## Accepted models -/

/--
In every model that ingestion accepts, the spans of all nodes that hang from the root follow the
tree: they are nested along a branch, and ordered from branch to branch.
-/
theorem ingest_spansFollowTree
    (path : SourcePath)
    (root : NodeId)
    (nodes : List Node)
    (lineCount : Option UInt32)
    (model : Model)
    (accepted : ingest path root nodes lineCount = .ok model) :
    model.SpansFollowTree :=
  (IsWellFormed.of_ingest accepted).spansFollowTree

/-- The spans of a module with two functions follow its tree. -/
theorem siblingsModule_spansFollowTree :
    ingest siblingsModule.path siblingsModule.root siblingsModule.nodes siblingsModule.lineCount =
        .ok siblingsModule ∧
      siblingsModule.SpansFollowTree := by
  have accepted :
      ingest siblingsModule.path siblingsModule.root siblingsModule.nodes
          siblingsModule.lineCount =
        .ok siblingsModule := rfl
  exact ⟨accepted, ingest_spansFollowTree _ _ _ _ siblingsModule accepted⟩

end StructuralLint.Model
