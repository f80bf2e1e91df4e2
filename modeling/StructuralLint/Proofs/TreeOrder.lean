import StructuralLint.Proofs.PreOrder

/-!
# Two views of one tree

The walk down follows child lists, and the walk up looks for the node that lists an id.  In a
well-formed model both describe one tree.  The subtree of an id is its node and then the subtrees of
its children in their order; it meets exactly the nodes from which the walk up comes to the id; and
every walk up ends at the root.

`Precedes` says without any walk which of two ids comes first in pre-order: the upper one of two ids
on one branch, and otherwise the one below the earlier child, where the branches part.
-/

namespace StructuralLint.Model

/--
The first id comes before the second in pre-order: it lies above the second, or some node has
two children, in this order, that lead to the first and to the second.
-/
def Precedes (nodes : List Node) (first second : NodeId) : Prop :=
  Relation.TransGen (ListsChild nodes) first second ∨
    ∃ parent ∈ nodes, ∃ earlier later,
      [earlier, later].Sublist parent.children ∧
        Reachable nodes earlier first ∧ Reachable nodes later second

/-- The walks and look-ups of a model describe one tree. -/
structure IsOneTree (model : Model) : Prop where
  /-- Both walks end from everything that hangs from the root. -/
  walksEnd :
    ∀ id, Reachable model.nodes model.root id → model.WalkUpEnds id ∧ model.WalkDownEnds id
  /-- The walk up comes to the root. -/
  upToRoot :
    ∀ id, Reachable model.nodes model.root id →
      (id :: (model.ancestors id).map Node.id).getLast? = some model.root
  /-- The subtree of a node is the node and the subtrees of its children, one after another. -/
  subtrees :
    ∀ node ∈ model.nodes, Reachable model.nodes model.root node.id →
      model.descendants node.id = node :: node.children.flatMap model.descendants
  preOrder :
    ∀ id, Reachable model.nodes model.root id →
      (model.descendants id).Pairwise fun first second => Precedes model.nodes first.id second.id
  once :
    ∀ id, Reachable model.nodes model.root id → ((model.descendants id).map Node.id).Nodup
  /-- The walk down meets exactly the nodes that look up to where it starts. -/
  within :
    ∀ id, Reachable model.nodes model.root id →
      ∀ node,
        node ∈ model.descendants id ↔
          node ∈ model.nodes ∧ Reachable model.nodes model.root node.id ∧
            model.isWithin node.id id = true
  parents :
    ∀ child parent,
      model.parent? child = some parent ↔ parent ∈ model.nodes ∧ child ∈ parent.children
  /-- A child is found at its position among the children of its parent. -/
  positions :
    ∀ child parent, model.parent? child = some parent →
      ∃ index node,
        model.childIndex? child = some index ∧ model.child? parent.id index = some node ∧
          node.id = child
  owners :
    ∀ comment owner,
      model.commentOwner? comment = some owner ↔ owner ∈ model.nodes ∧ comment ∈ owner.comments
  /-- Everything but comments hangs from the root, in one place. -/
  complete :
    ∀ node ∈ model.nodes, node.kind ≠ .comment →
      ((model.descendants model.root).map Node.id).count node.id = 1

/-! ## Walks and look-ups -/

/-- The walk down goes through its nodes in pre-order. -/
theorem pairwise_precedes_descendantsWithin (model : Model) (levels : Nat) (id : NodeId) :
    (model.descendantsWithin levels id).Pairwise fun first second =>
      Precedes model.nodes first.id second.id := by
  induction levels generalizing id with
  | zero => exact List.Pairwise.nil
  | succ levels induction =>
      rw [descendantsWithin]
      cases found : model.node? id with
      | none => exact List.Pairwise.nil
      | some node =>
          rcases mem_of_node?_eq_some found with ⟨member, rfl⟩
          have lists {child : NodeId} (listed : child ∈ node.children) :
              ListsChild model.nodes node.id child := ⟨node, member, rfl, listed⟩
          refine List.pairwise_cons.mpr ⟨?_, List.pairwise_flatMap.mpr ⟨?_, ?_⟩⟩
          · intro other below
            rcases List.mem_flatMap.mp below with ⟨child, listed, belowChild⟩
            exact Or.inl (Relation.TransGen.head' (lists listed)
              (reachable_of_mem_descendantsWithin belowChild).2)
          · intro child listed
            exact induction child
          · rw [List.pairwise_iff_forall_sublist]
            intro earlier later inOrder first belowEarlier second belowLater
            exact Or.inr ⟨node, member, earlier, later, inOrder,
              (reachable_of_mem_descendantsWithin belowEarlier).2,
              (reachable_of_mem_descendantsWithin belowLater).2⟩

/-! ## Well-formed models -/

namespace IsWellFormed

variable {model : Model} (wellFormed : model.IsWellFormed)

include wellFormed

/-! ### The walk down -/

theorem no_cycle_below {id : NodeId}
    (reachable : Reachable model.nodes model.root id) (below : NodeId)
    (leads : Reachable model.nodes id below) :
    ¬ OnCycle model.nodes below :=
  wellFormed.not_onCycle_of_reachable (reachable.trans leads)

theorem no_cycle_above {id : NodeId}
    (reachable : Reachable model.nodes model.root id) (above : NodeId)
    (leads : Reachable model.nodes above id) :
    ¬ OnCycle model.nodes above :=
  wellFormed.not_onCycle_of_reachable (wellFormed.reachable_above reachable leads)

theorem descendants_eq {node : Node}
    (member : node ∈ model.nodes)
    (reachable : Reachable model.nodes model.root node.id) :
    model.descendants node.id = node :: node.children.flatMap model.descendants := by
  rw [← descendantsWithin_eq_of_no_cycle wellFormed.nonempty wellFormed.children_mem_ids
    (wellFormed.no_cycle_below reachable) (Nat.le_succ _), descendantsWithin,
    exists_node?_eq_some wellFormed.distinctIds member]
  rfl

/-- The walk down meets exactly what its start leads to. -/
theorem mem_descendants_iff_reachable {id : NodeId} {node : Node}
    (reachable : Reachable model.nodes model.root id) :
    node ∈ model.descendants id ↔ node ∈ model.nodes ∧ Reachable model.nodes id node.id := by
  constructor
  · exact reachable_of_mem_descendantsWithin
  · rintro ⟨member, leads⟩
    rcases leads.exists_atDepth with ⟨depth, atDepth⟩
    have bounded := atDepth.lt_length_of_no_cycle wellFormed.nonempty wellFormed.children_mem_ids
      fun passed reached _ => wellFormed.no_cycle_below reachable passed reached
    exact descendantsWithin_subset bounded
      (atDepth.mem_descendantsWithin wellFormed.distinctIds member)

/-! ### The walk up -/

/-- The walk up meets exactly what leads to its start. -/
theorem mem_ids_ancestors_iff {above id : NodeId}
    (reachable : Reachable model.nodes model.root id) :
    above ∈ (model.ancestors id).map Node.id ↔
      Relation.TransGen (ListsChild model.nodes) above id := by
  induction reachable with
  | refl =>
      rw [wellFormed.ancestors_root]
      constructor
      · exact nofun
      · intro leads
        rcases Relation.TransGen.tail'_iff.mp leads with ⟨_, _, parent, member, _, listed⟩
        exact absurd listed (wellFormed.rootUnlisted parent member)
  | @tail parentId child parentReachable listed induction =>
      rcases listed with ⟨parent, member, rfl, listed⟩
      rw [wellFormed.ancestors_child member parentReachable listed, List.map_cons, List.mem_cons,
        induction]
      constructor
      · rintro (rfl | leads)
        · exact Relation.TransGen.single ⟨parent, member, rfl, listed⟩
        · exact leads.tail ⟨parent, member, rfl, listed⟩
      · intro leads
        rcases Relation.TransGen.tail'_iff.mp leads with
          ⟨_, leadsToParent, other, otherMember, rfl, otherListed⟩
        have same :=
          eq_of_mem_children wellFormed.childrenOnce otherMember member otherListed listed
        rw [same] at leadsToParent
        rcases Relation.reflTransGen_iff_eq_or_transGen.mp leadsToParent with equal | properly
        · exact Or.inl equal.symm
        · exact Or.inr properly

/-- What hangs from the root lies within another id exactly when the other id leads to it. -/
theorem isWithin_iff {id above : NodeId}
    (reachable : Reachable model.nodes model.root id) :
    model.isWithin id above = true ↔ Reachable model.nodes above id := by
  have climbed :
      (model.ancestors id).any (·.id == above) = true ↔
        above ∈ (model.ancestors id).map Node.id := by
    simp [List.any_eq_true, List.mem_map]
  rw [isWithin, Bool.or_eq_true, beq_iff_eq, climbed, wellFormed.mem_ids_ancestors_iff reachable,
    Reachable, Relation.reflTransGen_iff_eq_or_transGen]

theorem getLast?_ancestors {id : NodeId}
    (reachable : Reachable model.nodes model.root id) :
    (id :: (model.ancestors id).map Node.id).getLast? = some model.root := by
  induction reachable with
  | refl => rw [wellFormed.ancestors_root]; rfl
  | tail parentReachable listed induction =>
      rcases listed with ⟨parent, member, rfl, listed⟩
      rw [wellFormed.ancestors_child member parentReachable listed, List.map_cons,
        List.getLast?_cons_cons]
      exact induction

/-! ### Look-ups -/

theorem exists_child?_childIndex? {child : NodeId} {parent : Node}
    (found : model.parent? child = some parent) :
    ∃ index node,
      model.childIndex? child = some index ∧ model.child? parent.id index = some node ∧
        node.id = child := by
  rcases wellFormed.parent?_eq_some_iff.mp found with ⟨member, listed⟩
  rcases wellFormed.childrenExist parent member child listed with ⟨node, isNode, rfl⟩
  rcases Option.isSome_iff_exists.mp (List.isSome_idxOf?.mpr listed) with
    ⟨index, isIndex⟩
  rcases List.idxOf?_eq_some_iff.mp isIndex with ⟨within, atIndex, _⟩
  refine ⟨index, node, ?_, ?_, rfl⟩
  · rw [childIndex?, found]
    exact isIndex
  · rw [child?, exists_node?_eq_some wellFormed.distinctIds member, Option.bind_eq_bind,
      Option.bind_some, List.getElem?_eq_getElem within, atIndex]
    exact exists_node?_eq_some wellFormed.distinctIds isNode

theorem isOneTree : model.IsOneTree where
  walksEnd id reachable := by
    constructor
    · refine ⟨model.nodes.length, fun more le => ?_⟩
      exact ancestorsWithin_eq_of_no_cycle wellFormed (wellFormed.no_cycle_above reachable) le
    · refine ⟨model.nodes.length, fun more le => ?_⟩
      exact descendantsWithin_eq_of_no_cycle wellFormed.nonempty wellFormed.children_mem_ids
        (wellFormed.no_cycle_below reachable) le
  upToRoot id reachable := wellFormed.getLast?_ancestors reachable
  subtrees node member reachable := wellFormed.descendants_eq member reachable
  preOrder id _ := pairwise_precedes_descendantsWithin model _ id
  once id reachable := wellFormed.nodup_descendantsWithin reachable
  within id reachable node := by
    rw [wellFormed.mem_descendants_iff_reachable reachable]
    constructor
    · rintro ⟨member, leads⟩
      have hangs := reachable.trans leads
      exact ⟨member, hangs, (wellFormed.isWithin_iff hangs).mpr leads⟩
    · rintro ⟨member, hangs, isWithin⟩
      exact ⟨member, (wellFormed.isWithin_iff hangs).mp isWithin⟩
  parents child parent := wellFormed.parent?_eq_some_iff
  positions child parent found := wellFormed.exists_child?_childIndex? found
  owners comment owner := wellFormed.commentOwner?_eq_some_iff
  complete node member notComment :=
    List.count_eq_one_of_mem wellFormed.nodup_descendants
      (List.mem_map_of_mem (wellFormed.mem_descendants_of_not_comment member notComment))

end IsWellFormed

/-! ## Accepted models -/

/--
In every model that ingestion accepts, the walks up and down and the look-ups of parents,
positions and owners describe one tree.
-/
theorem ingest_isOneTree
    (path : SourcePath)
    (root : NodeId)
    (nodes : List Node)
    (lineCount : Option UInt32)
    (model : Model)
    (accepted : ingest path root nodes lineCount = .ok model) :
    model.IsOneTree :=
  (IsWellFormed.of_ingest accepted).isOneTree

/--
A module with two functions, the second with a parameter and a body, and with a comment that
lists itself as its child.
-/
def siblingsModule : Model :=
  let lines (startLine endLine : UInt32) : Span :=
    { startLine, startCol := 1, endLine, endCol := 20 }
  .linked
    { path := { text := "siblings.ir.json" }
      root := { index := 0 }
      lineCount := some 9
      nodes :=
        [{ id := { index := 4 }, kind := .parameter, span := lines 5 5, name := some "limit" },
          { id := { index := 0 }, kind := .module, span := lines 1 9
            children := [{ index := 1 }, { index := 3 }] },
          { id := { index := 3 }, kind := .function, span := lines 4 9, name := some "second"
            children := [{ index := 4 }, { index := 5 }], comments := [{ index := 7 }] },
          { id := { index := 1 }, kind := .function, span := lines 2 3, name := some "first"
            children := [{ index := 2 }] },
          { id := { index := 2 }, kind := .statement, span := lines 3 3, statement := some .block },
          { id := { index := 5 }, kind := .statement, span := lines 6 9, statement := some .block
            children := [{ index := 6 }] },
          { id := { index := 6 }, kind := .statement, span := lines 7 7
            statement := some .return },
          { id := { index := 7 }, kind := .comment, span := lines 4 4, text := some "# around"
            children := [{ index := 7 }] }] }

/-- The module is accepted although its nodes come in no order and its comment lies on a cycle. -/
theorem siblingsModule_isOneTree :
    ingest siblingsModule.path siblingsModule.root siblingsModule.nodes siblingsModule.lineCount =
        .ok siblingsModule ∧
      siblingsModule.IsOneTree := by
  have accepted :
      ingest siblingsModule.path siblingsModule.root siblingsModule.nodes
          siblingsModule.lineCount =
        .ok siblingsModule := rfl
  exact ⟨accepted, ingest_isOneTree _ _ _ _ siblingsModule accepted⟩

end StructuralLint.Model
