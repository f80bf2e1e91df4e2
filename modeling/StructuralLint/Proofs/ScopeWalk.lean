import StructuralLint.Proofs.PreOrder
import StructuralLint.Symbols.Scoping

/-!
# The walk that places nodes in scopes

`visits` lists what the walk down from the root meets, and keeps at each node the last node that
opened a scope and the last function.  This module says what these are in terms of the walk up: the
nearest opener and the nearest function among the ancestors of a node.

Scopes are numbered in the order in which the walk meets their openers.  An opener is met before
everything below it, so the scope around a scope has a smaller number, and the chain of scopes from
an opener outwards is the list of the openers around it.
-/

namespace StructuralLint.Symbols

/-- A node on the walk, with the node that opens the scope around it and the function around it. -/
structure Visit where
  node : Node
  opener : NodeId
  function : Option NodeId

/-- The walk over the subtree of a node, down to a number of levels. -/
def visitsWithin (model : Model) : Nat → NodeId → Option NodeId → NodeId → List Visit
  | 0, _, _, _ => []
  | levels + 1, opener, function, id =>
      match model.node? id with
      | none => []
      | some node =>
          let innerOpener := if (scopeKind? model node).isSome then id else opener
          let innerFunction := if node.kind == .function then some id else function
          { node, opener, function } ::
            node.children.flatMap (visitsWithin model levels innerOpener innerFunction)

/-- The walk over all nodes below the root, in pre-order. -/
def visits (model : Model) : List Visit :=
  match model.node? model.root with
  | some root =>
      root.children.flatMap (visitsWithin model model.nodes.length model.root none)
  | none => []

/-- A function has a node as its last child. -/
def IsLastOfFunction (model : Model) (id : NodeId) : Prop :=
  ∃ function ∈ model.nodes, function.kind = .function ∧ function.children.getLast? = some id

instance (model : Model) (id : NodeId) : Decidable (IsLastOfFunction model id) :=
  inferInstanceAs
    (Decidable (∃ function ∈ model.nodes,
      function.kind = .function ∧ function.children.getLast? = some id))

/--
A node opens a scope: it is the root, a class, a function, a loop with a variable, a lambda, or
a block that is not the last child of a function.
-/
def OpensScope (model : Model) (node : Node) : Prop :=
  node.id = model.root ∨ node.kind = .class ∨ node.kind = .function ∨
    node.isStatement .forLoop = true ∨ node.isExpression .lambda = true ∨
    (node.isStatement .block = true ∧ ¬ IsLastOfFunction model node.id)

instance (model : Model) (node : Node) : Decidable (OpensScope model node) :=
  inferInstanceAs (Decidable (_ ∨ _))

/-- The nodes around an id that open scopes, innermost first. -/
def openersAround (model : Model) (id : NodeId) : List Node :=
  (model.ancestors id).filter fun node => OpensScope model node

/-! ## Openers -/

section Openers

variable {model : Model} (wellFormed : model.IsWellFormed)

include wellFormed

theorem isFunctionBody_iff (node : Node) :
    isFunctionBody model node = true ↔ IsLastOfFunction model node.id := by
  rw [isFunctionBody, Option.any_eq_true]
  constructor
  · rintro ⟨function, isParent, isBody⟩
    simp only [Bool.and_eq_true, beq_iff_eq] at isBody
    exact ⟨function, Model.mem_of_parent?_eq_some isParent, isBody⟩
  · rintro ⟨function, member, isFunction, isLast⟩
    have listed := List.mem_of_getLast? isLast
    refine ⟨function, wellFormed.parent?_of_mem_children member listed, ?_⟩
    simp [isFunction, isLast]

/-- Below the root, the nodes with a kind of scope are those that open one. -/
theorem scopeKind?_isSome_iff {node : Node}
    (notRoot : node.id ≠ model.root) :
    (scopeKind? model node).isSome = true ↔ OpensScope model node := by
  have body := isFunctionBody_iff wellFormed node
  rw [scopeKind?, OpensScope, Node.isStatement, Node.isStatement, Node.isExpression, ← body]
  cases node.kind with
  | statement =>
      cases node.statement with
      | none => simp [notRoot]
      | some kind => cases kind <;> simp [notRoot]
  | expression => by_cases isLambda : node.expression = some .lambda <;> simp [notRoot, isLambda]
  | «module» | «class» | function | parameter | identifier | comment | literal => simp [notRoot]

theorem openersAround_root : openersAround model model.root = [] := by
  rw [openersAround, wellFormed.ancestors_root, List.filter_nil]

theorem openersAround_child {parent : Node} {child : NodeId}
    (member : parent ∈ model.nodes)
    (reachable : Model.Reachable model.nodes model.root parent.id)
    (listed : child ∈ parent.children) :
    openersAround model child =
      if OpensScope model parent then parent :: openersAround model parent.id
      else openersAround model parent.id := by
  rw [openersAround, wellFormed.ancestors_child member reachable listed, List.filter_cons]
  simp only [decide_eq_true_eq, openersAround]

/-- Outside of the innermost opener around an id lie the openers around that opener. -/
theorem openersAround_eq_cons {id : NodeId}
    (reachable : Model.Reachable model.nodes model.root id)
    {opener : Node}
    (innermost : (openersAround model id).head? = some opener) :
    openersAround model id = opener :: openersAround model opener.id := by
  induction reachable with
  | refl =>
      rw [openersAround_root wellFormed] at innermost
      cases innermost
  | tail above listed induction =>
      rcases listed with ⟨parent, member, rfl, childListed⟩
      rw [openersAround_child wellFormed member above childListed] at innermost ⊢
      split at innermost
      next opens =>
        cases innermost
        rw [if_pos opens]
      next closed =>
        rw [if_neg closed]
        exact induction innermost

theorem enclosing?_child {parent : Node} {child : NodeId} {kind : NodeKind}
    (member : parent ∈ model.nodes)
    (reachable : Model.Reachable model.nodes model.root parent.id)
    (listed : child ∈ parent.children) :
    model.enclosing? child kind =
      if parent.kind == kind then some parent else model.enclosing? parent.id kind := by
  rw [Model.enclosing?, wellFormed.ancestors_child member reachable listed, List.find?_cons]
  cases parent.kind == kind <;> rfl

end Openers

/-! ## What the walk remembers -/

section Walk

variable {model : Model}

theorem map_node_visitsWithin (levels : Nat) (opener : NodeId) (function : Option NodeId)
    (id : NodeId) :
    (visitsWithin model levels opener function id).map Visit.node =
      model.descendantsWithin levels id := by
  induction levels generalizing opener function id with
  | zero => rfl
  | succ levels induction =>
      rw [visitsWithin, Model.descendantsWithin]
      cases model.node? id with
      | none => rfl
      | some node => simp only [List.map_cons, List.map_flatMap, induction]

/-- The walk remembers the nearest opener and the nearest function. -/
def IsPlaced (model : Model) (visit : Visit) : Prop :=
  (openersAround model visit.node.id).head?.map Node.id = some visit.opener ∧
    (model.enclosing? visit.node.id .function).map Node.id = visit.function

variable (wellFormed : model.IsWellFormed)

include wellFormed

theorem isPlaced_of_mem_visitsWithin {levels : Nat} {opener : NodeId} {function : Option NodeId}
    {node : Node}
    (reachable : Model.Reachable model.nodes model.root node.id)
    (notRoot : node.id ≠ model.root)
    (placed : IsPlaced model { node, opener, function })
    {visit : Visit}
    (member : visit ∈ visitsWithin model levels opener function node.id) :
    IsPlaced model visit := by
  induction levels generalizing opener function node with
  | zero => cases member
  | succ levels induction =>
      rw [visitsWithin] at member
      cases found : model.node? node.id with
      | none => simp [found] at member
      | some same =>
          rcases Model.mem_of_node?_eq_some found with ⟨isNode, sameId⟩
          simp only [found, List.mem_cons, List.mem_flatMap] at member
          rcases member with rfl | ⟨child, listed, below⟩
          · simpa only [IsPlaced, sameId] using placed
          · rw [← sameId] at reachable notRoot
            have listsChild : Model.ListsChild model.nodes same.id child :=
              ⟨same, isNode, rfl, listed⟩
            rcases wellFormed.childrenExist same isNode child listed with ⟨next, _, rfl⟩
            refine induction (reachable.tail listsChild)
              (wellFormed.ne_root_of_mem_children isNode listed) ?_ below
            simp only [IsPlaced, ← sameId] at placed ⊢
            rw [openersAround_child wellFormed isNode reachable listed,
              enclosing?_child wellFormed isNode reachable listed]
            -- The walk opens a scope and enters a function where the walk up from the child does.
            refine ⟨?_, ?_⟩
            · by_cases opens : OpensScope model same
              · simp [opens, (scopeKind?_isSome_iff wellFormed notRoot).mpr opens]
              · have noKind : (scopeKind? model same).isSome = false := by
                  rwa [← Bool.not_eq_true, scopeKind?_isSome_iff wellFormed notRoot]
                simp [opens, noKind, placed.1]
            · cases same.kind == .function with
              | true => rfl
              | false => exact placed.2

/--
The walk starts at the children of the root, which lie in no function and in the scope of the
root.
-/
theorem isPlaced_below_root {rootNode : Node} {child : Node}
    (found : model.node? model.root = some rootNode)
    (listed : child.id ∈ rootNode.children) :
    IsPlaced model { node := child, opener := model.root, function := none } := by
  rcases Model.mem_of_node?_eq_some found with ⟨member, isRoot⟩
  rcases wellFormed.exists_node?_root with ⟨same, sameFound, isModule⟩
  rw [found, Option.some_inj] at sameFound
  subst sameFound
  have reachable : Model.Reachable model.nodes model.root rootNode.id := by
    rw [isRoot]
    exact Relation.ReflTransGen.refl
  have opens : OpensScope model rootNode := Or.inl isRoot
  have noFunction : model.enclosing? model.root .function = none := by
    rw [Model.enclosing?, wellFormed.ancestors_root, List.find?_nil]
  rw [IsPlaced, openersAround_child wellFormed member reachable listed,
    enclosing?_child wellFormed member reachable listed]
  simp [opens, isRoot, isModule, noFunction]

theorem isPlaced_of_mem_visits {visit : Visit}
    (member : visit ∈ visits model) :
    IsPlaced model visit := by
  rcases wellFormed.exists_node?_root with ⟨rootNode, found, _⟩
  rw [visits, found] at member
  rcases List.mem_flatMap.mp member with ⟨child, listed, below⟩
  rcases Model.mem_of_node?_eq_some found with ⟨rootMember, isRoot⟩
  rcases wellFormed.childrenExist rootNode rootMember child listed with ⟨node, _, rfl⟩
  have listsChild : Model.ListsChild model.nodes model.root node.id :=
    ⟨rootNode, rootMember, isRoot, listed⟩
  exact isPlaced_of_mem_visitsWithin wellFormed (Relation.ReflTransGen.single listsChild)
    (wellFormed.ne_root_of_mem_children rootMember listed)
    (isPlaced_below_root wellFormed found listed) below

/-- The walk meets the nodes below the root in pre-order. -/
theorem descendants_eq_cons_visits {rootNode : Node}
    (found : model.node? model.root = some rootNode) :
    model.descendants model.root = rootNode :: (visits model).map Visit.node := by
  rw [wellFormed.descendants_root found, visits, found]
  simp only [List.map_flatMap, map_node_visitsWithin]

theorem nodup_visits : ((visits model).map fun visit => visit.node.id).Nodup := by
  rcases wellFormed.exists_node?_root with ⟨rootNode, found, _⟩
  have nodup := wellFormed.nodup_descendants
  rw [descendants_eq_cons_visits wellFormed found, List.map_cons, List.map_map,
    List.nodup_cons] at nodup
  exact nodup.2

theorem mem_descendants_of_mem_visits {visit : Visit}
    (member : visit ∈ visits model) :
    visit.node ∈ model.descendants model.root ∧ visit.node.id ≠ model.root := by
  rcases wellFormed.exists_node?_root with ⟨rootNode, found, _⟩
  have nodup := wellFormed.nodup_descendants
  rw [descendants_eq_cons_visits wellFormed found] at nodup ⊢
  refine ⟨List.mem_cons_of_mem _ (List.mem_map_of_mem member), ?_⟩
  intro isRoot
  rw [List.map_cons, List.nodup_cons, (Model.mem_of_node?_eq_some found).2, ← isRoot] at nodup
  exact nodup.1 (List.mem_map_of_mem (List.mem_map_of_mem member))

theorem exists_visit {node : Node}
    (member : node ∈ model.descendants model.root)
    (notRoot : node.id ≠ model.root) :
    ∃ visit ∈ visits model, visit.node = node := by
  rcases wellFormed.exists_node?_root with ⟨rootNode, found, _⟩
  rw [descendants_eq_cons_visits wellFormed found, List.mem_cons, List.mem_map] at member
  rcases member with rfl | ⟨visit, isVisit, isNode⟩
  · exact absurd (Model.mem_of_node?_eq_some found).2 notRoot
  · exact ⟨visit, isVisit, isNode⟩

end Walk

/-! ## Openers come first -/

/-- The id of a visited node, if the node opens a scope. -/
def opened? (model : Model) (visit : Visit) : Option NodeId :=
  (scopeKind? model visit.node).map fun _ => visit.node.id

/-- Each visit lies in a scope whose opener is known or was visited before. -/
def OpenedInOrder (model : Model) : List NodeId → List Visit → Prop
  | _, [] => True
  | known, visit :: rest =>
      visit.opener ∈ known ∧ OpenedInOrder model (known ++ (opened? model visit).toList) rest

section Numbers

variable {model : Model}

theorem filterMap_opened?_cons (visit : Visit) (rest : List Visit) :
    (visit :: rest).filterMap (opened? model) =
      (opened? model visit).toList ++ rest.filterMap (opened? model) := by
  cases opens : opened? model visit <;> simp [opens]

theorem OpenedInOrder.append {known : List NodeId} {first second : List Visit}
    (firstInOrder : OpenedInOrder model known first)
    (secondInOrder : OpenedInOrder model (known ++ first.filterMap (opened? model)) second) :
    OpenedInOrder model known (first ++ second) := by
  induction first generalizing known with
  | nil => simpa using secondInOrder
  | cons visit rest induction =>
      rw [filterMap_opened?_cons, ← List.append_assoc] at secondInOrder
      exact ⟨firstInOrder.1, induction firstInOrder.2 secondInOrder⟩

theorem OpenedInOrder.flatMap {opener : NodeId} {walk : NodeId → List Visit}
    (inOrder : ∀ id known, opener ∈ known → OpenedInOrder model known (walk id))
    (ids : List NodeId) {known : List NodeId}
    (isKnown : opener ∈ known) :
    OpenedInOrder model known (ids.flatMap walk) := by
  induction ids generalizing known with
  | nil => trivial
  | cons id rest induction =>
      rw [List.flatMap_cons]
      exact (inOrder id known isKnown).append (induction (List.mem_append_left _ isKnown))

theorem openedInOrder_visitsWithin {levels : Nat} {opener : NodeId} {function : Option NodeId}
    {id : NodeId} {known : List NodeId}
    (isKnown : opener ∈ known) :
    OpenedInOrder model known (visitsWithin model levels opener function id) := by
  induction levels generalizing opener function id known with
  | zero => trivial
  | succ levels induction =>
      rw [visitsWithin]
      cases found : model.node? id with
      | none => trivial
      | some node =>
          refine ⟨isKnown, ?_⟩
          apply OpenedInOrder.flatMap (fun _ _ => induction)
          rw [opened?, ← (Model.mem_of_node?_eq_some found).2]
          cases scopeKind? model node with
          | none => simpa using isKnown
          | some kind => simp

theorem openedInOrder_visits : OpenedInOrder model [model.root] (visits model) := by
  rw [visits]
  cases model.node? model.root with
  | none => trivial
  | some rootNode =>
      exact
        OpenedInOrder.flatMap (fun _ _ => openedInOrder_visitsWithin) _ (List.mem_singleton_self _)

/-- Among openers in the order of the walk, the opener around another has the smaller position. -/
theorem OpenedInOrder.idxOf_lt {known : List NodeId} {walk : List Visit}
    (inOrder : OpenedInOrder model known walk)
    (distinct : (known ++ walk.filterMap (opened? model)).Nodup)
    {visit : Visit}
    (member : visit ∈ walk)
    (opens : opened? model visit = some visit.node.id) :
    (known ++ walk.filterMap (opened? model)).idxOf visit.opener <
      (known ++ walk.filterMap (opened? model)).idxOf visit.node.id := by
  induction walk generalizing known with
  | nil => cases member
  | cons first rest induction =>
      rw [filterMap_opened?_cons, ← List.append_assoc] at distinct ⊢
      rcases List.mem_cons.mp member with rfl | later
      · have notKnown : visit.node.id ∉ known := by
          intro isKnown
          rw [opens] at distinct
          have apart := (List.nodup_append.mp (List.nodup_append.mp distinct).1).2.2
          exact apart _ isKnown _ (by simp) rfl
        rw [List.append_assoc, List.idxOf_append_of_mem inOrder.1,
          List.idxOf_append_of_notMem notKnown]
        have bound := List.idxOf_lt_length_of_mem inOrder.1
        omega
      · exact induction inOrder.2 distinct later

end Numbers

end StructuralLint.Symbols
