import Mathlib.Algebra.Ring.Nat
import Mathlib.Data.List.Perm.Subperm
import StructuralLint.Proofs.Measures
import StructuralLint.Proofs.TreeOrder

/-!
# The own code of functions

A function is measured by the nodes below it that lie in no function, class or lambda inside it.
The walk that collects them turns back at every node that starts code of its own, so it is the walk
down in the model without these nodes, and meets its nodes in the same order.

Going up from a node of the own code of a function, the first node that starts code of its own is
that function.  So no node belongs to two functions, and counts over the own code of all functions
count no node twice.
-/

namespace StructuralLint

namespace Model

/-- The model without the nodes that start code of their own. -/
def withoutBoundaries (model : Model) : Model :=
  { model with nodes := model.nodes.filter fun node => !node.isCodeBoundary }

/-- A node lies below a function, and neither it nor a node between them starts code of its own. -/
structure IsOwnCode (model : Model) (function : NodeId) (node : Node) : Prop where
  member : node ∈ model.nodes
  below : Relation.TransGen (ListsChild model.nodes) function node.id
  undivided :
    ∀ between ∈ model.nodes,
      Relation.TransGen (ListsChild model.nodes) function between.id →
      Reachable model.nodes between.id node.id →
        between.isCodeBoundary = false

/-- The walk over own code lists it in pre-order and completely, and no node for two functions. -/
structure OwnsCodeApart (model : Model) : Prop where
  members :
    ∀ function ∈ model.nodesOfKind .function, ∀ node,
      node ∈ model.ownCode function.id ↔ IsOwnCode model function.id node
  preOrder :
    ∀ function ∈ model.nodesOfKind .function,
      (model.ownCode function.id).Pairwise fun first second =>
        Precedes model.nodes first.id second.id
  once :
    ∀ function ∈ model.nodesOfKind .function, ((model.ownCode function.id).map Node.id).Nodup
  apart :
    ∀ first ∈ model.nodesOfKind .function, ∀ second ∈ model.nodesOfKind .function,
      first.id ≠ second.id →
        ((model.ownCode first.id).map Node.id).Disjoint ((model.ownCode second.id).map Node.id)

/-! ## Fewer nodes -/

section Fewer

variable {nodes more : List Node} (subset : nodes ⊆ more)

include subset

theorem ListsChild.mono {parent child : NodeId}
    (listed : ListsChild nodes parent child) :
    ListsChild more parent child := by
  rcases listed with ⟨node, member, isParent, listed⟩
  exact ⟨node, subset member, isParent, listed⟩

theorem Reachable.mono {above below : NodeId}
    (leads : Reachable nodes above below) :
    Reachable more above below :=
  Relation.ReflTransGen.mono (fun _ _ => ListsChild.mono subset) _ _ leads

theorem AtDepth.mono {top bottom : NodeId} {depth : Nat}
    (chain : AtDepth nodes top depth bottom) :
    AtDepth more top depth bottom := by
  induction chain with
  | root => exact .root
  | child _ listed induction => exact .child induction (listed.mono subset)

end Fewer

/-! ## The walk without boundaries -/

section Walk

variable {model : Model}

theorem mem_withoutBoundaries_iff {node : Node} :
    node ∈ model.withoutBoundaries.nodes ↔ node ∈ model.nodes ∧ node.isCodeBoundary = false := by
  rw [withoutBoundaries, List.mem_filter, Bool.not_eq_true']

theorem withoutBoundaries_subset : model.withoutBoundaries.nodes ⊆ model.nodes :=
  fun _ member => (mem_withoutBoundaries_iff.mp member).1

section Distinct

variable (distinct : (model.nodes.map Node.id).Nodup)

include distinct

theorem nodup_ids_withoutBoundaries : (model.withoutBoundaries.nodes.map Node.id).Nodup :=
  distinct.sublist (List.filter_sublist.map _)

theorem node?_withoutBoundaries (id : NodeId) :
    model.withoutBoundaries.node? id =
      (model.node? id).filter fun node => !node.isCodeBoundary := by
  apply Option.ext
  intro node
  rw [node?_eq_some_iff (nodup_ids_withoutBoundaries distinct), mem_withoutBoundaries_iff,
    Option.filter_eq_some_iff, node?_eq_some_iff distinct, Bool.not_eq_true', and_right_comm]

/-- The walk that turns back at boundaries is the walk down without them. -/
theorem ownCodeWithin_eq (levels : Nat) (id : NodeId) :
    model.ownCodeWithin levels id = model.withoutBoundaries.descendantsWithin levels id := by
  induction levels generalizing id with
  | zero => rfl
  | succ levels induction =>
      rw [ownCodeWithin, descendantsWithin, node?_withoutBoundaries distinct]
      cases model.node? id with
      | none => rfl
      | some node =>
          cases isBoundary : node.isCodeBoundary with
          | true => simp [Option.filter, isBoundary]
          | false => simp [Option.filter, isBoundary, funext induction]

end Distinct

theorem ownCodeWithin_sublist (levels : Nat) (id : NodeId) :
    (model.ownCodeWithin levels id).Sublist (model.descendantsWithin levels id) := by
  induction levels generalizing id with
  | zero => exact List.Sublist.refl _
  | succ levels induction =>
      rw [ownCodeWithin, descendantsWithin]
      cases model.node? id with
      | none => exact List.Sublist.refl _
      | some node =>
          dsimp only
          split
          · exact List.nil_sublist _
          · exact (List.Sublist.flatMap_right _ fun child _ => induction child).cons_cons _

end Walk

namespace IsWellFormed

variable {model : Model} (wellFormed : model.IsWellFormed)
  {function : Node} (member : function ∈ model.nodes)
  (reachable : Reachable model.nodes model.root function.id)

include wellFormed

/-! ## Above a node -/

theorem not_above_root (above : NodeId) :
    ¬ Relation.TransGen (ListsChild model.nodes) above model.root := by
  intro leads
  rcases Relation.TransGen.tail'_iff.mp leads with ⟨_, _, parent, member, _, listed⟩
  exact wellFormed.rootUnlisted parent member listed

/-- What lies above a child is its parent or lies above the parent. -/
theorem above_child_iff {parent : Node} {above child : NodeId}
    (member : parent ∈ model.nodes)
    (listed : child ∈ parent.children) :
    Relation.TransGen (ListsChild model.nodes) above child ↔
      Reachable model.nodes above parent.id := by
  rw [Relation.TransGen.tail'_iff]
  constructor
  · rintro ⟨_, leads, other, otherMember, rfl, otherLists⟩
    rwa [← eq_of_mem_children wellFormed.childrenOnce otherMember member otherLists listed]
  · intro leads
    exact ⟨parent.id, leads, parent, member, rfl, listed⟩

/-! ## What own code consists of -/

section Members

include member reachable

theorem ownCode_sublist : (model.ownCode function.id).Sublist (model.descendants function.id) := by
  rw [wellFormed.descendants_eq member reachable, ownCode,
    exists_node?_eq_some wellFormed.distinctIds member]
  exact (List.Sublist.flatMap_right _ fun child _ => ownCodeWithin_sublist _ child).cons _

/-- From some child of the function, child lists lead to the node through nodes of its own code. -/
theorem mem_ownCode_iff {node : Node} :
    node ∈ model.ownCode function.id ↔
      node ∈ model.withoutBoundaries.nodes ∧
        ∃ child ∈ function.children, Reachable model.withoutBoundaries.nodes child node.id := by
  rw [ownCode, exists_node?_eq_some wellFormed.distinctIds member]
  simp only [List.mem_flatMap, ownCodeWithin_eq wellFormed.distinctIds]
  constructor
  · rintro ⟨child, listed, met⟩
    rcases reachable_of_mem_descendantsWithin met with ⟨isOpen, leads⟩
    exact ⟨isOpen, child, listed, leads⟩
  · rintro ⟨isOpen, child, listed, leads⟩
    rcases leads.exists_atDepth with ⟨depth, chain⟩
    -- The chain is one of the whole model, in which no chain has as many links as there are nodes.
    have hangs := reachable.tail ⟨function, member, rfl, listed⟩
    have bounded :=
      (chain.mono withoutBoundaries_subset).lt_length_of_no_cycle wellFormed.nonempty
        wellFormed.children_mem_ids fun passed reached _ =>
          wellFormed.no_cycle_below hangs passed reached
    exact ⟨child, listed, descendantsWithin_subset bounded
      (chain.mem_descendantsWithin (nodup_ids_withoutBoundaries wellFormed.distinctIds) isOpen)⟩

theorem below_of_mem_ownCode {node : Node}
    (isOwn : node ∈ model.ownCode function.id) :
    Relation.TransGen (ListsChild model.nodes) function.id node.id := by
  rcases (wellFormed.mem_ownCode_iff member reachable).mp isOwn with ⟨_, child, listed, leads⟩
  exact Relation.TransGen.head' ⟨function, member, rfl, listed⟩
    (leads.mono withoutBoundaries_subset)

/--
A child belongs to a function if its parent is the function or belongs to it, and the child
starts no code of its own.
-/
theorem mem_ownCode_child_iff {parent node : Node}
    (parentMember : parent ∈ model.nodes)
    (nodeMember : node ∈ model.nodes)
    (listed : node.id ∈ parent.children) :
    node ∈ model.ownCode function.id ↔
      node.isCodeBoundary = false ∧
        (parent = function ∨ parent ∈ model.ownCode function.id) := by
  rw [wellFormed.mem_ownCode_iff member reachable, wellFormed.mem_ownCode_iff member reachable,
    mem_withoutBoundaries_iff, and_iff_right nodeMember, and_congr_right_iff]
  intro _
  have isParent {other : Node} (otherMember : other ∈ model.nodes)
      (otherLists : node.id ∈ other.children) :
      other = parent :=
    eq_of_mem_children wellFormed.childrenOnce otherMember parentMember otherLists listed
  constructor
  · rintro ⟨child, isChild, leads⟩
    rcases Relation.ReflTransGen.cases_tail leads with
      isSame | ⟨_, above, other, otherOpen, rfl, otherLists⟩
    · rw [← isSame] at isChild
      exact Or.inl (isParent member isChild).symm
    · right
      rw [← isParent (withoutBoundaries_subset otherOpen) otherLists]
      exact ⟨otherOpen, child, isChild, above⟩
  · rintro (rfl | ⟨parentOpen, child, isChild, leads⟩)
    · exact ⟨node.id, listed, Relation.ReflTransGen.refl⟩
    · exact ⟨child, isChild, leads.tail ⟨parent, parentOpen, rfl, listed⟩⟩

theorem isOwnCode_child_iff {parent node : Node}
    (parentMember : parent ∈ model.nodes)
    (nodeMember : node ∈ model.nodes)
    (listed : node.id ∈ parent.children) :
    IsOwnCode model function.id node ↔
      node.isCodeBoundary = false ∧
        (parent = function ∨ IsOwnCode model function.id parent) := by
  have toNode (above : NodeId) :
      Relation.TransGen (ListsChild model.nodes) above node.id ↔
        Reachable model.nodes above parent.id :=
    wellFormed.above_child_iff parentMember listed
  have throughParent {between : Node} (betweenMember : between ∈ model.nodes)
      (leads : Reachable model.nodes between.id node.id) :
      between = node ∨ Reachable model.nodes between.id parent.id :=
    (wellFormed.eq_or_below_of_reachable betweenMember nodeMember leads).imp_right
      (toNode between.id).mp
  constructor
  · rintro ⟨_, below, undivided⟩
    refine ⟨undivided node nodeMember below Relation.ReflTransGen.refl, ?_⟩
    rcases wellFormed.eq_or_below_of_reachable member parentMember ((toNode function.id).mp below)
      with isFunction | properly
    · exact Or.inl isFunction.symm
    · exact Or.inr ⟨parentMember, properly, fun between betweenMember fromFunction toParent =>
        undivided between betweenMember fromFunction
          ((toNode between.id).mpr toParent).to_reflTransGen⟩
  · rintro ⟨isOpen, rfl | ⟨_, below, undivided⟩⟩
    · refine ⟨nodeMember, (toNode parent.id).mpr Relation.ReflTransGen.refl, ?_⟩
      intro between betweenMember fromFunction leads
      rcases throughParent betweenMember leads with rfl | back
      · exact isOpen
      · exact absurd (fromFunction.trans_left back) (wellFormed.not_onCycle_of_reachable reachable)
    · refine ⟨nodeMember, (toNode function.id).mpr below.to_reflTransGen, ?_⟩
      intro between betweenMember fromFunction leads
      rcases throughParent betweenMember leads with rfl | toParent
      · exact isOpen
      · exact undivided between betweenMember fromFunction toParent

/-- The own code of a function are the nodes below it with no boundary on the way. -/
theorem mem_ownCode_iff_isOwnCode {node : Node} :
    node ∈ model.ownCode function.id ↔ IsOwnCode model function.id node := by
  have fromRoot {node : Node}
      (below : Relation.TransGen (ListsChild model.nodes) function.id node.id) :
      Reachable model.nodes model.root node.id :=
    reachable.trans below.to_reflTransGen
  have both (nodeMember : node ∈ model.nodes)
      (hangs : Reachable model.nodes model.root node.id) :
      node ∈ model.ownCode function.id ↔ IsOwnCode model function.id node := by
    generalize isId : node.id = id at hangs
    induction hangs generalizing node with
    | refl =>
        have notBelow : ¬ Relation.TransGen (ListsChild model.nodes) function.id node.id := by
          rw [isId]
          exact wellFormed.not_above_root function.id
        exact iff_of_false
          (fun isOwn => notBelow (wellFormed.below_of_mem_ownCode member reachable isOwn))
          (fun isOwn => notBelow isOwn.below)
    | tail _ listsChild induction =>
        rcases listsChild with ⟨parent, parentMember, rfl, listed⟩
        rw [← isId] at listed
        rw [wellFormed.mem_ownCode_child_iff member reachable parentMember nodeMember listed,
          wellFormed.isOwnCode_child_iff member reachable parentMember nodeMember listed,
          induction parentMember rfl]
  constructor
  · intro isOwn
    exact (both (mem_of_mem_ownCode isOwn)
      (fromRoot (wellFormed.below_of_mem_ownCode member reachable isOwn))).mp isOwn
  · intro isOwn
    exact (both isOwn.member (fromRoot isOwn.below)).mpr isOwn

theorem nodup_ownCode : ((model.ownCode function.id).map Node.id).Nodup :=
  (wellFormed.nodup_descendantsWithin reachable).sublist
    ((wellFormed.ownCode_sublist member reachable).map _)

theorem pairwise_precedes_ownCode :
    (model.ownCode function.id).Pairwise fun first second =>
      Precedes model.nodes first.id second.id :=
  (pairwise_precedes_descendantsWithin model _ function.id).sublist
    (wellFormed.ownCode_sublist member reachable)

/-- Going up from own code, the first node that starts code of its own is the function. -/
theorem find?_ancestors_of_mem_ownCode
    (isBoundary : function.isCodeBoundary = true)
    {node : Node}
    (isOwn : node ∈ model.ownCode function.id) :
    (model.ancestors node.id).find? (·.isCodeBoundary) = some function := by
  have below := wellFormed.below_of_mem_ownCode member reachable isOwn
  have hangs := reachable.trans below.to_reflTransGen
  generalize isId : node.id = id at below hangs
  induction hangs generalizing node with
  | refl => exact absurd below (wellFormed.not_above_root function.id)
  | tail above listsChild induction =>
      rcases listsChild with ⟨parent, parentMember, rfl, listed⟩
      rw [← isId] at listed ⊢
      rw [wellFormed.ancestors_child parentMember above listed]
      rcases ((wellFormed.mem_ownCode_child_iff member reachable parentMember
          (mem_of_mem_ownCode isOwn) listed).mp isOwn).2 with rfl | parentOwn
      · rw [List.find?_cons_of_pos isBoundary]
      · have parentOpen :=
          (mem_withoutBoundaries_iff.mp
            ((wellFormed.mem_ownCode_iff member reachable).mp parentOwn).1).2
        rw [List.find?_cons_of_neg (by simp [parentOpen])]
        exact induction parentOwn rfl
          (wellFormed.below_of_mem_ownCode member reachable parentOwn)

end Members

/-! ## Functions apart -/

theorem reachable_of_mem_functions {function : Node}
    (isFunction : function ∈ model.nodesOfKind .function) :
    function ∈ model.nodes ∧ function.kind = .function ∧
      Reachable model.nodes model.root function.id := by
  rcases List.mem_filter.mp isFunction with ⟨member, isKind⟩
  have isKind := beq_iff_eq.mp isKind
  exact ⟨member, isKind, wellFormed.reachable function member (by simp [isKind])⟩

theorem function_unique_of_mem_ownCode {first second node : Node}
    (isFirst : first ∈ model.nodesOfKind .function)
    (isSecond : second ∈ model.nodesOfKind .function)
    (inFirst : node ∈ model.ownCode first.id)
    (inSecond : node ∈ model.ownCode second.id) :
    first = second := by
  have nearest {function : Node} (isFunction : function ∈ model.nodesOfKind .function)
      (isOwn : node ∈ model.ownCode function.id) :
      (model.ancestors node.id).find? (·.isCodeBoundary) = some function := by
    rcases wellFormed.reachable_of_mem_functions isFunction with ⟨member, isKind, reachable⟩
    exact wellFormed.find?_ancestors_of_mem_ownCode member reachable
      (by simp [Node.isCodeBoundary, isKind]) isOwn
  exact Option.some.inj ((nearest isFirst inFirst).symm.trans (nearest isSecond inSecond))

theorem ownsCodeApart : model.OwnsCodeApart where
  members function isFunction node := by
    rcases wellFormed.reachable_of_mem_functions isFunction with ⟨member, _, reachable⟩
    exact wellFormed.mem_ownCode_iff_isOwnCode member reachable
  preOrder function isFunction := by
    rcases wellFormed.reachable_of_mem_functions isFunction with ⟨member, _, reachable⟩
    exact wellFormed.pairwise_precedes_ownCode member reachable
  once function isFunction := by
    rcases wellFormed.reachable_of_mem_functions isFunction with ⟨member, _, reachable⟩
    exact wellFormed.nodup_ownCode member reachable
  apart first isFirst second isSecond different := by
    intro id inFirst inSecond
    rcases List.mem_map.mp inFirst with ⟨node, isOwn, rfl⟩
    rcases List.mem_map.mp inSecond with ⟨other, otherOwn, sameId⟩
    have same := wellFormed.eq_of_id_eq (mem_of_mem_ownCode otherOwn)
      (mem_of_mem_ownCode isOwn) sameId
    subst same
    exact different (congrArg Node.id
      (wellFormed.function_unique_of_mem_ownCode isFirst isSecond isOwn otherOwn))

/-- Over the own code of all functions no more nodes are counted than the model has. -/
theorem sum_countP_ownCode_le (counted : Node → Bool) :
    ((model.nodesOfKind .function).map fun function =>
        (model.ownCode function.id).countP counted).sum ≤
      model.nodes.countP counted := by
  have apart := wellFormed.ownsCodeApart
  have functionsOnce : (model.nodesOfKind .function).Nodup :=
    (List.Nodup.of_map _ wellFormed.distinctIds).filter _
  have once :
      ((model.nodesOfKind .function).flatMap fun function => model.ownCode function.id).Nodup := by
    rw [List.nodup_flatMap]
    refine ⟨fun function isFunction => List.Nodup.of_map _ (apart.once function isFunction), ?_⟩
    refine functionsOnce.imp_of_mem ?_
    intro first second isFirst isSecond different node inFirst inSecond
    exact different (wellFormed.function_unique_of_mem_ownCode isFirst isSecond inFirst inSecond)
  have inModel :
      ((model.nodesOfKind .function).flatMap fun function => model.ownCode function.id) ⊆
        model.nodes := by
    intro node isOwn
    rcases List.mem_flatMap.mp isOwn with ⟨_, _, inCode⟩
    exact mem_of_mem_ownCode inCode
  calc ((model.nodesOfKind .function).map fun function =>
        (model.ownCode function.id).countP counted).sum
    _ = ((model.nodesOfKind .function).flatMap fun function =>
          model.ownCode function.id).countP counted := List.countP_flatMap.symm
    _ ≤ model.nodes.countP counted := (once.subperm inModel).countP_le counted

end IsWellFormed

end Model

/-! ## Counts over own code -/

/-- Statements and branches are counted over own code, each for one function at most. -/
structure Metrics.CountOnce (model : Model) (metrics : Metrics) : Prop where
  statements :
    ∀ function ∈ model.nodesOfKind .function,
      metrics.get? function.id .statementCount =
        some ((model.ownCode function.id).countP Metric.isCountedStatement)
  branches :
    ∀ function ∈ model.nodesOfKind .function,
      metrics.get? function.id .cyclomaticBranches =
        some ((model.ownCode function.id).countP Metric.isBranch + 1)
  allStatements :
    ((model.nodesOfKind .function).map fun function =>
        metrics.count function.id .statementCount).sum ≤
      model.nodes.countP Metric.isCountedStatement
  allBranches :
    ((model.nodesOfKind .function).map fun function =>
        metrics.count function.id .cyclomaticBranches - 1).sum ≤
      model.nodes.countP Metric.isBranch

theorem Model.IsWellFormed.countOnce {model : Model}
    (wellFormed : model.IsWellFormed)
    {table : Symbols.Table} {metrics : Metrics}
    (measured : Metrics.ofModel model table = .ok metrics) :
    metrics.CountOnce model := by
  have statements (function : Node) (isFunction : function ∈ model.nodesOfKind .function) :
      metrics.get? function.id .statementCount =
        some ((model.ownCode function.id).countP Metric.isCountedStatement) := by
    rcases Metrics.exists_lines_of_ofModel wellFormed.distinctIds measured isFunction with
      ⟨lines, _, values⟩
    exact values .statementCount
  have branches (function : Node) (isFunction : function ∈ model.nodesOfKind .function) :
      metrics.get? function.id .cyclomaticBranches =
        some ((model.ownCode function.id).countP Metric.isBranch + 1) := by
    rcases Metrics.exists_lines_of_ofModel wellFormed.distinctIds measured isFunction with
      ⟨lines, _, values⟩
    exact values .cyclomaticBranches
  refine ⟨statements, branches, ?_, ?_⟩
  · refine le_of_eq_of_le (congrArg List.sum (List.map_congr_left ?_))
      (wellFormed.sum_countP_ownCode_le Metric.isCountedStatement)
    intro function isFunction
    rw [Metrics.count, statements function isFunction, Option.getD_some]
  · refine le_of_eq_of_le (congrArg List.sum (List.map_congr_left ?_))
      (wellFormed.sum_countP_ownCode_le Metric.isBranch)
    intro function isFunction
    rw [Metrics.count, branches function isFunction, Option.getD_some, Nat.add_sub_cancel]

namespace Model

/--
In every model that ingestion accepts, the walk over the own code of a function lists in pre-order,
and once, the nodes below the function with no boundary on the way; different functions share none
of them, and statements and branches are counted for one function at most.  The model is measured
unless some function has too many lines to count.
-/
theorem ingest_ownsCodeApart
    (path : SourcePath)
    (root : NodeId)
    (nodes : List Node)
    (lineCount : Option UInt32)
    (model : Model)
    (accepted : ingest path root nodes lineCount = .ok model) :
    model.OwnsCodeApart ∧
      ∀ table,
        ((∀ function ∈ model.nodesOfKind .function, ¬ function.span.HasEveryLine) →
            ∃ metrics, Metrics.ofModel model table = .ok metrics) ∧
          ∀ metrics, Metrics.ofModel model table = .ok metrics → metrics.CountOnce model := by
  have wellFormed := IsWellFormed.of_ingest accepted
  exact ⟨wellFormed.ownsCodeApart, fun _ =>
    ⟨Metrics.exists_ofModel_eq_ok_iff.mpr, fun _ => wellFormed.countOnce⟩⟩

/--
A module with a function that holds a loop, a lambda, another function and a class with a
method.
-/
def enclosingModule : Model :=
  let lines (startLine endLine : UInt32) : Span :=
    { startLine, startCol := 1, endLine, endCol := 9 }
  .linked
    { path := { text := "enclosing.ir.json" }
      root := { index := 0 }
      lineCount := some 12
      nodes :=
        [{ id := { index := 0 }, kind := .module, span := lines 1 12
           children := [{ index := 1 }] },
          { id := { index := 1 }, kind := .function, span := lines 2 12, name := some "outer"
            children := [{ index := 2 }] },
          { id := { index := 2 }, kind := .statement, span := lines 3 12, statement := some .block
            children := [{ index := 3 }, { index := 6 }, { index := 9 }, { index := 13 }] },
          { id := { index := 3 }, kind := .statement, span := lines 3 5
            statement := some .whileLoop, children := [{ index := 4 }] },
          { id := { index := 4 }, kind := .expression, span := lines 4 5
            expression := some .lambda, children := [{ index := 5 }] },
          { id := { index := 5 }, kind := .statement, span := lines 5 5
            statement := some .return },
          { id := { index := 6 }, kind := .function, span := lines 6 7, name := some "inner"
            children := [{ index := 7 }] },
          { id := { index := 7 }, kind := .statement, span := lines 6 7, statement := some .block
            children := [{ index := 8 }] },
          { id := { index := 8 }, kind := .statement, span := lines 7 7
            statement := some .return },
          { id := { index := 9 }, kind := .class, span := lines 8 11, name := some "Helper"
            children := [{ index := 10 }] },
          { id := { index := 10 }, kind := .function, span := lines 9 11, name := some "help"
            children := [{ index := 11 }] },
          { id := { index := 11 }, kind := .statement, span := lines 9 11, statement := some .block
            children := [{ index := 12 }] },
          { id := { index := 12 }, kind := .statement, span := lines 10 11
            statement := some .return },
          { id := { index := 13 }, kind := .statement, span := lines 12 12
            statement := some .return }] }

/--
The outer function has its block, its loop and its last statement to itself, and one statement
belongs to no function.
-/
theorem enclosingModule_ownsCodeApart :
    ingest enclosingModule.path enclosingModule.root enclosingModule.nodes
        enclosingModule.lineCount = .ok enclosingModule ∧
      enclosingModule.OwnsCodeApart ∧
      (enclosingModule.ownCode { index := 1 }).map Node.id =
        [{ index := 2 }, { index := 3 }, { index := 13 }] ∧
      (enclosingModule.ownCode { index := 6 }).map Node.id = [{ index := 7 }, { index := 8 }] ∧
      (enclosingModule.ownCode { index := 10 }).map Node.id =
        [{ index := 11 }, { index := 12 }] ∧
      (∀ table, ∃ metrics,
        Metrics.ofModel enclosingModule table = .ok metrics ∧
          metrics.CountOnce enclosingModule) ∧
      enclosingModule.nodes.countP Metric.isCountedStatement = 5 := by
  have accepted :
      ingest enclosingModule.path enclosingModule.root enclosingModule.nodes
          enclosingModule.lineCount =
        .ok enclosingModule := rfl
  rcases ingest_ownsCodeApart _ _ _ _ enclosingModule accepted with ⟨apart, counts⟩
  refine ⟨accepted, apart, by decide, by decide, by decide, fun table => ?_, by decide⟩
  rcases (counts table).1 (by decide) with ⟨metrics, measured⟩
  exact ⟨metrics, measured, (counts table).2 metrics measured⟩

end Model

end StructuralLint
