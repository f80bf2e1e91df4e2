import Mathlib.Data.List.Flatten
import StructuralLint.Proofs.Cycles

/-!
# Pre-order of a model

In a well-formed model the walk down from the root meets every node once, and the walk up from a
child is its parent followed by the walk up from the parent.  Both follow from single parents: an id
that two subtrees share has the same depth below both of their tops, and chains of the same length
that end in one id begin in one id.
-/

namespace StructuralLint.Model

/-- Chains of one length that end in one id begin in one id. -/
theorem AtDepth.top_unique {nodes : List Node}
    (once : (nodes.flatMap Node.children).Nodup)
    {first second bottom : NodeId} {depth : Nat}
    (firstChain : AtDepth nodes first depth bottom)
    (secondChain : AtDepth nodes second depth bottom) :
    first = second := by
  induction depth generalizing bottom with
  | zero =>
      cases firstChain
      cases secondChain
      rfl
  | succ depth induction =>
      cases firstChain with
      | child firstAbove firstListed =>
          cases secondChain with
          | child secondAbove secondListed =>
              rcases firstListed with ⟨node, member, rfl, listed⟩
              rcases secondListed with ⟨other, otherMember, rfl, otherListed⟩
              have sameParent := eq_of_mem_children once member otherMember listed otherListed
              subst sameParent
              exact induction firstAbove secondAbove

namespace IsWellFormed

variable {model : Model} (wellFormed : model.IsWellFormed)

include wellFormed

/-! ## The root -/

theorem root_mem_ids : model.root ∈ model.nodes.map Node.id := by
  rcases wellFormed.rootIsModule with ⟨rootNode, member, isRoot, _⟩
  exact List.mem_map.mpr ⟨rootNode, member, isRoot⟩

theorem exists_node?_root :
    ∃ rootNode, model.node? model.root = some rootNode ∧ rootNode.kind = .module := by
  rcases wellFormed.rootIsModule with ⟨rootNode, member, isRoot, isModule⟩
  exact ⟨rootNode, (node?_eq_some_iff wellFormed.distinctIds).mpr ⟨member, isRoot⟩, isModule⟩

theorem ne_root_of_kind_ne_module {node : Node}
    (member : node ∈ model.nodes)
    (notModule : node.kind ≠ .module) :
    node.id ≠ model.root := by
  intro isRoot
  rcases wellFormed.exists_node?_root with ⟨rootNode, found, isModule⟩
  rw [← isRoot, exists_node?_eq_some wellFormed.distinctIds member, Option.some_inj] at found
  rw [found] at notModule
  exact notModule isModule

theorem parent?_root : model.parent? model.root = none := by
  rw [Option.eq_none_iff_forall_ne_some]
  intro node isParent
  rcases wellFormed.parent?_eq_some_iff.mp isParent with ⟨member, listed⟩
  exact wellFormed.rootUnlisted node member listed

theorem ne_root_of_mem_children {parent : Node} {child : NodeId}
    (member : parent ∈ model.nodes)
    (listed : child ∈ parent.children) :
    child ≠ model.root := by
  rintro rfl
  exact wellFormed.rootUnlisted parent member listed

theorem mem_descendants_iff {node : Node} :
    node ∈ model.descendants model.root ↔
      node ∈ model.nodes ∧ Reachable model.nodes model.root node.id :=
  mem_descendants_root_iff wellFormed.distinctIds wellFormed.childrenOnce wellFormed.rootUnlisted
    wellFormed.root_mem_ids wellFormed.children_mem_ids

/-- Everything but comments hangs from the root. -/
theorem mem_descendants_of_not_comment {node : Node}
    (member : node ∈ model.nodes)
    (notComment : node.kind ≠ .comment) :
    node ∈ model.descendants model.root :=
  wellFormed.mem_descendants_iff.mpr ⟨member, wellFormed.reachable node member notComment⟩

/-! ## The walk up -/

theorem parent?_of_mem_children {parent : Node} {child : NodeId}
    (member : parent ∈ model.nodes)
    (listed : child ∈ parent.children) :
    model.parent? child = some parent :=
  wellFormed.parent?_eq_some_iff.mpr ⟨member, listed⟩

theorem ancestors_root : model.ancestors model.root = [] := by
  rw [ancestors]
  cases model.nodes.length with
  | zero => rfl
  | succ levels => rw [ancestorsWithin, wellFormed.parent?_root]

/-- The walk up from a child is its parent and the walk up from there. -/
theorem ancestors_child {parent : Node} {child : NodeId}
    (member : parent ∈ model.nodes)
    (reachable : Reachable model.nodes model.root parent.id)
    (listed : child ∈ parent.children) :
    model.ancestors child = parent :: model.ancestors parent.id := by
  have listsChild : ListsChild model.nodes parent.id child := ⟨parent, member, rfl, listed⟩
  have noCycle (above : NodeId) (leads : Reachable model.nodes above child) :
      ¬ OnCycle model.nodes above :=
    wellFormed.not_onCycle_of_reachable
      (wellFormed.reachable_above (reachable.tail listsChild) leads)
  rw [← ancestorsWithin_eq_of_no_cycle wellFormed noCycle (Nat.le_succ _), ancestorsWithin,
    wellFormed.parent?_of_mem_children member listed]
  rfl

/-! ## The walk down -/

/-- Subtrees of different children of one node share nothing. -/
theorem disjoint_subtrees {parent : NodeId}
    (reachable : Reachable model.nodes model.root parent)
    {first second shared : NodeId}
    (firstListed : ListsChild model.nodes parent first)
    (secondListed : ListsChild model.nodes parent second)
    (belowFirst : Reachable model.nodes first shared)
    (belowSecond : Reachable model.nodes second shared) :
    first = second := by
  rcases reachable.exists_atDepth with ⟨depth, above⟩
  rcases belowFirst.exists_atDepth with ⟨firstDepth, firstChain⟩
  rcases belowSecond.exists_atDepth with ⟨secondDepth, secondChain⟩
  have sameDepth := AtDepth.unique wellFormed.childrenOnce wellFormed.rootUnlisted
    ((above.child firstListed).trans firstChain) ((above.child secondListed).trans secondChain)
  have equal : firstDepth = secondDepth := by omega
  subst equal
  exact firstChain.top_unique wellFormed.childrenOnce secondChain

theorem nodup_children {parent : Node}
    (member : parent ∈ model.nodes) :
    parent.children.Nodup :=
  (List.nodup_flatMap.mp wellFormed.childrenOnce).1 parent member

/-- The walk down from what hangs from the root meets no node twice. -/
theorem nodup_descendantsWithin {levels : Nat} {id : NodeId}
    (reachable : Reachable model.nodes model.root id) :
    ((model.descendantsWithin levels id).map Node.id).Nodup := by
  induction levels generalizing id with
  | zero => exact List.nodup_nil
  | succ levels induction =>
      rw [descendantsWithin]
      cases found : model.node? id with
      | none => exact List.nodup_nil
      | some node =>
          rcases mem_of_node?_eq_some found with ⟨member, rfl⟩
          have lists (child : NodeId) (listed : child ∈ node.children) :
              ListsChild model.nodes node.id child := ⟨node, member, rfl, listed⟩
          have below {child : NodeId} {bottom : NodeId}
              (met : bottom ∈ (model.descendantsWithin levels child).map Node.id) :
              Reachable model.nodes child bottom := by
            rcases List.mem_map.mp met with ⟨_, isBelow, rfl⟩
            exact (reachable_of_mem_descendantsWithin isBelow).2
          simp only [List.map_cons, List.map_flatMap, List.nodup_cons, List.nodup_flatMap]
          refine ⟨?_, fun child listed => induction (reachable.tail (lists child listed)), ?_⟩
          · -- Meeting the node again would close a cycle through one of its children.
            intro again
            rcases List.mem_flatMap.mp again with ⟨child, listed, met⟩
            exact wellFormed.not_onCycle_of_reachable reachable
              (Relation.TransGen.head' (lists child listed) (below met))
          · refine (wellFormed.nodup_children member).imp_of_mem ?_
            intro first second firstListed secondListed different
            simp only [Function.onFun, List.disjoint_left]
            intro shared inFirst inSecond
            exact different (wellFormed.disjoint_subtrees reachable (lists first firstListed)
              (lists second secondListed) (below inFirst) (below inSecond))

theorem nodup_descendants :
    ((model.descendants model.root).map Node.id).Nodup :=
  wellFormed.nodup_descendantsWithin Relation.ReflTransGen.refl

/-- Nodes of one id below the root are the same node. -/
theorem eq_of_mem_descendants {first second : Node}
    (firstMember : first ∈ model.descendants model.root)
    (secondMember : second ∈ model.descendants model.root)
    (sameId : first.id = second.id) :
    first = second :=
  List.inj_on_of_nodup_map wellFormed.nodup_descendants firstMember secondMember sameId

/--
The walk down from the root is the root and the walks down from its children, each with as many
levels as there are nodes.
-/
theorem descendants_root {rootNode : Node}
    (found : model.node? model.root = some rootNode) :
    model.descendants model.root =
      rootNode :: rootNode.children.flatMap (model.descendantsWithin model.nodes.length) := by
  have noCycle (below : NodeId) (reached : Reachable model.nodes model.root below) :
      ¬ OnCycle model.nodes below :=
    wellFormed.not_onCycle_of_reachable reached
  rw [← descendantsWithin_eq_of_no_cycle wellFormed.nonempty wellFormed.children_mem_ids noCycle
    (Nat.le_succ _), descendantsWithin, found]

end IsWellFormed

end StructuralLint.Model
