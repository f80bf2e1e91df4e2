import Mathlib.Data.List.Pairwise
import Mathlib.Logic.Relation
import StructuralLint.Model.Basic
import StructuralLint.Proofs.KeyedLists

/-!
# The tree of child lists

Child lists relate ids of nodes.  An id is reachable from a root when a chain of child lists leads
to it.  The walk `descendants` goes down only as many levels as there are nodes.  This module shows
that it misses nothing: when no id is listed twice and the root is not listed at all, every
reachable id has one depth, the ids on the way to it are all different, and so the depth is smaller
than the number of nodes.
-/

namespace StructuralLint.Model

/-! ## Looking up nodes -/

theorem mem_of_node?_eq_some {model : Model} {id : NodeId} {node : Node}
    (found : model.node? id = some node) :
    node ∈ model.nodes ∧ node.id = id := by
  refine ⟨List.mem_of_find?_eq_some found, ?_⟩
  simpa using List.find?_some found

/-- Where ids are distinct, looking up an id finds exactly the node that has it. -/
theorem node?_eq_some_iff {model : Model}
    (distinct : (model.nodes.map Node.id).Nodup)
    {id : NodeId} {node : Node} :
    model.node? id = some node ↔ node ∈ model.nodes ∧ node.id = id := by
  constructor
  · exact mem_of_node?_eq_some
  · rintro ⟨member, rfl⟩
    exact find?_eq_some_of_nodup_keys distinct member

theorem exists_node?_eq_some {model : Model}
    (distinct : (model.nodes.map Node.id).Nodup)
    {node : Node}
    (member : node ∈ model.nodes) :
    model.node? node.id = some node :=
  (node?_eq_some_iff distinct).mpr ⟨member, rfl⟩

theorem mem_of_parent?_eq_some {model : Model} {id : NodeId} {node : Node}
    (found : model.parent? id = some node) :
    node ∈ model.nodes := by
  rcases Option.bind_eq_some_iff.mp found with ⟨_, _, isParent⟩
  exact (mem_of_node?_eq_some isParent).1

theorem mem_of_mem_ancestors {model : Model} {id : NodeId} {node : Node}
    (member : node ∈ model.ancestors id) :
    node ∈ model.nodes := by
  rw [ancestors] at member
  generalize model.nodes.length = levels at member
  induction levels generalizing id with
  | zero => cases member
  | succ levels induction =>
      rw [ancestorsWithin] at member
      split at member
      next parent found =>
        rcases List.mem_cons.mp member with equal | above
        · rw [equal]
          exact mem_of_parent?_eq_some found
        · exact induction above
      next => cases member

theorem mem_of_child?_eq_some {model : Model} {id : NodeId} {index : Nat} {node : Node}
    (found : model.child? id index = some node) :
    node ∈ model.nodes := by
  simp only [child?, Option.bind_eq_bind, Option.bind_eq_some_iff] at found
  rcases found with ⟨_, _, _, _, found⟩
  exact (mem_of_node?_eq_some found).1

theorem mem_of_mem_children {model : Model} {id : NodeId} {node : Node}
    (member : node ∈ model.children id) :
    node ∈ model.nodes := by
  rw [children] at member
  split at member
  · rcases List.mem_filterMap.mp member with ⟨_, _, found⟩
    exact (mem_of_node?_eq_some found).1
  · cases member

theorem mem_of_mem_parameters {model : Model} {id : NodeId} {node : Node}
    (member : node ∈ model.parameters id) :
    node ∈ model.nodes :=
  mem_of_mem_children (List.mem_filter.mp member).1

theorem mem_of_mem_ownCodeWithin {model : Model} {levels : Nat} {id : NodeId} {node : Node}
    (member : node ∈ model.ownCodeWithin levels id) :
    node ∈ model.nodes := by
  induction levels generalizing id with
  | zero => cases member
  | succ levels induction =>
      rw [ownCodeWithin] at member
      split at member
      next top found =>
        split at member
        · cases member
        · rcases List.mem_cons.mp member with equal | below
          · rw [equal]
            exact (mem_of_node?_eq_some found).1
          · rcases List.mem_flatMap.mp below with ⟨_, _, childMember⟩
            exact induction childMember
      next => cases member

theorem mem_of_mem_ownCode {model : Model} {function : NodeId} {node : Node}
    (member : node ∈ model.ownCode function) :
    node ∈ model.nodes := by
  rw [ownCode] at member
  split at member
  · rcases List.mem_flatMap.mp member with ⟨_, _, childMember⟩
    exact mem_of_mem_ownCodeWithin childMember
  · cases member

/-! ## Reachability -/

/-- Some node with the first id lists the second among its children. -/
def ListsChild (nodes : List Node) (parent child : NodeId) : Prop :=
  ∃ node ∈ nodes, node.id = parent ∧ child ∈ node.children

theorem listsChild_of_child?_eq_some {model : Model} {id : NodeId} {index : Nat} {child : Node}
    (found : model.child? id index = some child) :
    ListsChild model.nodes id child.id := by
  simp only [child?, Option.bind_eq_bind, Option.bind_eq_some_iff] at found
  rcases found with ⟨node, isNode, childId, atIndex, isChild⟩
  rcases mem_of_node?_eq_some isNode with ⟨member, isId⟩
  rw [(mem_of_node?_eq_some isChild).2]
  exact ⟨node, member, isId, List.mem_of_getElem? atIndex⟩

theorem listsChild_of_mem_children {model : Model} {id : NodeId} {child : Node}
    (member : child ∈ model.children id) :
    ListsChild model.nodes id child.id := by
  rw [children] at member
  split at member
  next node isNode =>
    rcases List.mem_filterMap.mp member with ⟨childId, listed, isChild⟩
    rcases mem_of_node?_eq_some isNode with ⟨isMember, isId⟩
    rw [(mem_of_node?_eq_some isChild).2]
    exact ⟨node, isMember, isId, listed⟩
  next => cases member

/-- A chain of child lists leads from one id to another. -/
def Reachable (nodes : List Node) : NodeId → NodeId → Prop :=
  Relation.ReflTransGen (ListsChild nodes)

/-- A chain of so many child lists leads from a root to an id. -/
inductive AtDepth (nodes : List Node) (root : NodeId) : Nat → NodeId → Prop where
  | root : AtDepth nodes root 0 root
  | child {depth : Nat} {parent child : NodeId}
      (above : AtDepth nodes root depth parent)
      (listed : ListsChild nodes parent child) :
      AtDepth nodes root (depth + 1) child

/--
Where at most one element lies directly above each, elements with none above them are the same
if they lead to a shared one.
-/
theorem eq_of_tops_lead {α : Type} {above : α → α → Prop}
    (oneAbove :
      ∀ {left right below : α}, above left below → above right below → left = right)
    {first second shared : α}
    (firstIsTop : ∀ other, ¬ above other first)
    (secondIsTop : ∀ other, ¬ above other second)
    (fromFirst : Relation.ReflTransGen above first shared)
    (fromSecond : Relation.ReflTransGen above second shared) :
    first = second := by
  have onlyItself {top other : α} (isTop : ∀ other, ¬ above other top)
      (leads : Relation.ReflTransGen above other top) : top = other := by
    rcases Relation.ReflTransGen.cases_tail leads with equal | ⟨parent, _, isAbove⟩
    · exact equal
    · exact absurd isAbove (isTop parent)
  have rightUnique : Relator.RightUnique (Function.swap above) :=
    fun _ _ _ fromLeft fromRight => oneAbove fromLeft fromRight
  rcases Relation.ReflTransGen.total_of_right_unique rightUnique
    (Relation.reflTransGen_swap.mpr fromFirst) (Relation.reflTransGen_swap.mpr fromSecond) with
    secondLeads | firstLeads
  · exact onlyItself firstIsTop (Relation.reflTransGen_swap.mp secondLeads)
  · exact (onlyItself secondIsTop (Relation.reflTransGen_swap.mp firstLeads)).symm

theorem Reachable.exists_atDepth {nodes : List Node} {root id : NodeId}
    (reachable : Reachable nodes root id) :
    ∃ depth, AtDepth nodes root depth id := by
  induction reachable with
  | refl => exact ⟨0, .root⟩
  | tail _ listed induction =>
      rcases induction with ⟨depth, above⟩
      exact ⟨depth + 1, above.child listed⟩

/-- Where no id is listed twice, an id has at most one parent. -/
theorem eq_of_mem_children {nodes : List Node}
    (once : (nodes.flatMap Node.children).Nodup)
    {first second : Node}
    (firstMember : first ∈ nodes)
    (secondMember : second ∈ nodes)
    {id : NodeId}
    (firstLists : id ∈ first.children)
    (secondLists : id ∈ second.children) :
    first = second :=
  eq_of_mem_of_nodup_flatMap once firstMember secondMember firstLists secondLists

section SingleParents

variable {nodes : List Node} {root : NodeId}
  (once : (nodes.flatMap Node.children).Nodup)
  (unlisted : ∀ node ∈ nodes, root ∉ node.children)

include unlisted in
theorem AtDepth.eq_zero_of_root {depth : Nat}
    (atDepth : AtDepth nodes root depth root) :
    depth = 0 := by
  cases atDepth with
  | root => rfl
  | child _ listed =>
      rcases listed with ⟨node, member, _, rootListed⟩
      exact absurd rootListed (unlisted node member)

include once unlisted in
/-- An id has only one depth. -/
theorem AtDepth.unique {first second : Nat} {id : NodeId}
    (firstDepth : AtDepth nodes root first id)
    (secondDepth : AtDepth nodes root second id) :
    first = second := by
  induction firstDepth generalizing second with
  | root => exact (secondDepth.eq_zero_of_root unlisted).symm
  | child above listed induction =>
      cases secondDepth with
      | root =>
          rcases listed with ⟨node, member, _, rootListed⟩
          exact absurd rootListed (unlisted node member)
      | child secondAbove secondListed =>
          rcases listed with ⟨node, member, rfl, childListed⟩
          rcases secondListed with ⟨other, otherMember, rfl, otherListed⟩
          have sameParent := eq_of_mem_children once member otherMember childListed otherListed
          subst sameParent
          rw [induction secondAbove]

include once unlisted in
/-- The ids on the way from the root to an id are all different. -/
theorem AtDepth.exists_trail
    (rootPresent : root ∈ nodes.map Node.id)
    (present : ∀ node ∈ nodes, ∀ child ∈ node.children, child ∈ nodes.map Node.id)
    {depth : Nat} {id : NodeId}
    (atDepth : AtDepth nodes root depth id) :
    ∃ trail : List NodeId,
      trail.length = depth + 1 ∧ trail.Nodup ∧
        ∀ passed ∈ trail,
          passed ∈ nodes.map Node.id ∧ ∃ above ≤ depth, AtDepth nodes root above passed := by
  induction atDepth with
  | root =>
      refine ⟨[root], rfl, List.nodup_singleton root, ?_⟩
      intro passed member
      rw [List.mem_singleton] at member
      subst member
      exact ⟨rootPresent, 0, Nat.le_refl 0, .root⟩
  | @child depth parent child above listed induction =>
      rcases induction with ⟨trail, length, nodup, passedAbove⟩
      have childDepth : AtDepth nodes root (depth + 1) child := above.child listed
      refine ⟨child :: trail, by rw [List.length_cons, length], ?_, ?_⟩
      · -- Everything on the trail so far lies less deep than the child.
        rw [List.nodup_cons]
        refine ⟨?_, nodup⟩
        intro again
        rcases passedAbove child again with ⟨_, earlier, earlierLe, earlierDepth⟩
        have sameDepth := childDepth.unique once unlisted earlierDepth
        omega
      · intro passed member
        rcases List.mem_cons.mp member with equal | earlier
        · subst equal
          rcases listed with ⟨node, nodeMember, _, passedListed⟩
          exact ⟨present node nodeMember passed passedListed, depth + 1, Nat.le_refl _, childDepth⟩
        · rcases passedAbove passed earlier with ⟨passedPresent, above, aboveLe, aboveDepth⟩
          exact ⟨passedPresent, above, Nat.le_succ_of_le aboveLe, aboveDepth⟩

include once unlisted in
/-- The depth of an id is smaller than the number of nodes. -/
theorem AtDepth.lt_length
    (rootPresent : root ∈ nodes.map Node.id)
    (present : ∀ node ∈ nodes, ∀ child ∈ node.children, child ∈ nodes.map Node.id)
    {depth : Nat} {id : NodeId}
    (atDepth : AtDepth nodes root depth id) :
    depth < nodes.length := by
  rcases atDepth.exists_trail once unlisted rootPresent present with ⟨trail, length, nodup, passed⟩
  have bounded : trail.length ≤ (nodes.map Node.id).length :=
    nodup.length_le_of_subset fun id member => (passed id member).1
  rw [length, List.length_map] at bounded
  exact bounded

end SingleParents

/-! ## The walk down -/

theorem mem_descendantsWithin_succ_iff {model : Model} {levels : Nat} {id : NodeId} {node : Node} :
    node ∈ model.descendantsWithin (levels + 1) id ↔
      ∃ top, model.node? id = some top ∧
        (node = top ∨ ∃ child ∈ top.children, node ∈ model.descendantsWithin levels child) := by
  rw [descendantsWithin]
  cases model.node? id with
  | none => simp
  | some top => simp

/-- One level more reaches the children of what was reached. -/
theorem mem_descendantsWithin_of_child {model : Model} {levels : Nat} {id : NodeId}
    {parent child : Node}
    (member : parent ∈ model.descendantsWithin levels id)
    (listed : child.id ∈ parent.children)
    (found : model.node? child.id = some child) :
    child ∈ model.descendantsWithin (levels + 1) id := by
  induction levels generalizing id with
  | zero => cases member
  | succ levels induction =>
      rw [mem_descendantsWithin_succ_iff] at member ⊢
      rcases member with ⟨top, topFound, reached⟩
      refine ⟨top, topFound, Or.inr ?_⟩
      rcases reached with equal | ⟨next, nextListed, below⟩
      · subst equal
        refine ⟨child.id, listed, ?_⟩
        rw [mem_descendantsWithin_succ_iff]
        exact ⟨child, found, Or.inl rfl⟩
      · exact ⟨next, nextListed, induction below⟩

theorem descendantsWithin_subset_succ {model : Model} {levels : Nat} {id : NodeId} :
    model.descendantsWithin levels id ⊆ model.descendantsWithin (levels + 1) id := by
  induction levels generalizing id with
  | zero =>
      intro node member
      cases member
  | succ levels induction =>
      intro node member
      rw [mem_descendantsWithin_succ_iff] at member ⊢
      rcases member with ⟨top, topFound, reached⟩
      refine ⟨top, topFound, ?_⟩
      rcases reached with equal | ⟨next, nextListed, below⟩
      · exact Or.inl equal
      · exact Or.inr ⟨next, nextListed, induction below⟩

theorem descendantsWithin_subset {model : Model} {levels more : Nat} {id : NodeId}
    (le : levels ≤ more) :
    model.descendantsWithin levels id ⊆ model.descendantsWithin more id := by
  induction le with
  | refl => exact List.Subset.refl _
  | step _ induction => exact List.Subset.trans induction descendantsWithin_subset_succ

/-- The walk down yields only nodes of the model that are reachable from where it starts. -/
theorem reachable_of_mem_descendantsWithin {model : Model} {levels : Nat} {id : NodeId}
    {node : Node}
    (member : node ∈ model.descendantsWithin levels id) :
    node ∈ model.nodes ∧ Reachable model.nodes id node.id := by
  induction levels generalizing id with
  | zero => cases member
  | succ levels induction =>
      rw [mem_descendantsWithin_succ_iff] at member
      rcases member with ⟨top, topFound, reached⟩
      rcases mem_of_node?_eq_some topFound with ⟨topMember, topId⟩
      rcases reached with equal | ⟨child, listed, below⟩
      · subst equal
        rw [topId]
        exact ⟨topMember, Relation.ReflTransGen.refl⟩
      · rcases induction below with ⟨nodeMember, belowChild⟩
        exact ⟨nodeMember, Relation.ReflTransGen.head ⟨top, topMember, topId, listed⟩ belowChild⟩

theorem AtDepth.mem_descendantsWithin {model : Model} {root : NodeId}
    (distinct : (model.nodes.map Node.id).Nodup)
    {depth : Nat} {node : Node}
    (member : node ∈ model.nodes)
    (atDepth : AtDepth model.nodes root depth node.id) :
    node ∈ model.descendantsWithin (depth + 1) root := by
  induction depth generalizing node with
  | zero =>
      cases atDepth
      rw [mem_descendantsWithin_succ_iff]
      exact ⟨node, exists_node?_eq_some distinct member, Or.inl rfl⟩
  | succ depth induction =>
      cases atDepth with
      | child above listed =>
          rcases listed with ⟨parent, parentMember, rfl, childListed⟩
          exact mem_descendantsWithin_of_child (induction parentMember above) childListed
            (exists_node?_eq_some distinct member)

/-- The walk down from the root yields exactly the nodes that are reachable from it. -/
theorem mem_descendants_root_iff {model : Model}
    (distinct : (model.nodes.map Node.id).Nodup)
    (once : (model.nodes.flatMap Node.children).Nodup)
    (unlisted : ∀ node ∈ model.nodes, model.root ∉ node.children)
    (rootPresent : model.root ∈ model.nodes.map Node.id)
    (present :
      ∀ node ∈ model.nodes, ∀ child ∈ node.children, child ∈ model.nodes.map Node.id)
    {node : Node} :
    node ∈ model.descendants model.root ↔
      node ∈ model.nodes ∧ Reachable model.nodes model.root node.id := by
  constructor
  · exact reachable_of_mem_descendantsWithin
  · rintro ⟨member, reachable⟩
    rcases reachable.exists_atDepth with ⟨depth, atDepth⟩
    have bounded := atDepth.lt_length once unlisted rootPresent present
    exact descendantsWithin_subset bounded (atDepth.mem_descendantsWithin distinct member)

end StructuralLint.Model
