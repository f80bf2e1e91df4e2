import Mathlib.Algebra.Ring.Nat
import StructuralLint.Proofs.ConditionalChains
import StructuralLint.Proofs.TreeOrder

/-!
# Chains of alternatives

A chain of alternatives starts at an `if` that is no alternative, and goes from each `if` down to
its third child as long as that is an `if`.  Where it starts is found by looking up, at the parent
and the position among its children.  In a well-formed model looking up and looking down agree: an
`if` is the alternative of at most one other, so no two chains meet, and above every `if` there is
one that starts a chain.  The chains therefore take the `if` statements of a model apart.
-/

namespace StructuralLint.Duplication

/-- The `if` statements of a model. -/
def ifStatements (model : Model) : List Node :=
  model.nodes.filter (·.isStatement .ifElse)

/-- An `if` is the third child of another. -/
structure IsAlternativeOf (model : Model) (above node : Node) : Prop where
  isAbove : above ∈ ifStatements model
  isNode : node ∈ ifStatements model
  third : above.children[2]? = some node.id

/-- The `if` statements that are third child of no other. -/
def ifHeads (model : Model) : List Node :=
  (ifStatements model).filter fun node =>
    ∀ above ∈ ifStatements model, above.children[2]? ≠ some node.id

/-- The third child of a node, if it is an `if`. -/
def alternative? (model : Model) (node : Node) : Option Node :=
  (model.child? node.id 2).filter (·.isStatement .ifElse)

/-- The `if` statements from one on along the alternatives, for a number of links. -/
def membersWithin (model : Model) : Nat → Node → List Node
  | 0, _ => []
  | links + 1, node =>
      node ::
        match alternative? model node with
        | some next => membersWithin model links next
        | none => []

/-- The `if` statements of the chain that starts at one. -/
def chainMembers (model : Model) (head : Node) : List Node :=
  membersWithin model model.nodes.length head

/--
From an `if` on, each stands before its alternative, the last has none, and the condition of
each stands at the same position as the `if`.
-/
inductive FollowsAlternatives (model : Model) : Node → List Node → List Node → Prop where
  | last {node condition : Node}
      (tests : model.child? node.id 0 = some condition)
      (ends : ∀ next, ¬ IsAlternativeOf model node next) :
      FollowsAlternatives model node [node] [condition]
  | next {node condition next : Node} {members conditions : List Node}
      (tests : model.child? node.id 0 = some condition)
      (continues : IsAlternativeOf model node next)
      (rest : FollowsAlternatives model next members conditions) :
      FollowsAlternatives model node (node :: members) (condition :: conditions)

/--
A chain is that of an `if`: it has a branch for each member, and its key is the digest of the
conditions of its members in order.
-/
structure IsChainOf (model : Model) (head : Node) (chain : Chain) : Prop where
  range : chain.range = model.range head
  branches : chain.branches = (chainMembers model head).length
  conditions :
    ∃ conditions,
      FollowsAlternatives model head (chainMembers model head) conditions ∧
        chain.key =
          Digest.ofText (chainText ("if" :: conditions.map fun condition =>
            predicateText model condition.id))

/-- The chains of `if` statements among those of a model. -/
def ifChains (model : Model) : List Chain :=
  (ifStatements model).filterMap (chain? model)

/-- The chains of selections among those of a model. -/
def selectionChains (model : Model) : List Chain :=
  (model.nodes.filter (·.isStatement .select)).filterMap (chain? model)

/-! ## Chains by their statements -/

theorem mem_ifStatements_iff {model : Model} {node : Node} :
    node ∈ ifStatements model ↔ node ∈ model.nodes ∧ node.isStatement .ifElse = true :=
  List.mem_filter

theorem kind_of_mem_ifStatements {model : Model} {node : Node}
    (isIf : node ∈ ifStatements model) :
    node.kind = .statement := by
  have isStatement := (mem_ifStatements_iff.mp isIf).2
  rw [Node.isStatement, Bool.and_eq_true, beq_iff_eq] at isStatement
  exact isStatement.1

theorem mem_ifHeads_iff {model : Model} {node : Node} :
    node ∈ ifHeads model ↔
      node ∈ ifStatements model ∧ ∀ above, ¬ IsAlternativeOf model above node := by
  rw [ifHeads, List.mem_filter, decide_eq_true_iff]
  constructor
  · rintro ⟨isIf, first⟩
    exact ⟨isIf, fun above alternative => first above alternative.isAbove alternative.third⟩
  · rintro ⟨isIf, first⟩
    exact ⟨isIf, fun above isAbove third => first above ⟨isAbove, isIf, third⟩⟩

theorem predicates?_of_isIf {model : Model} {node : Node}
    (isIf : node.isStatement .ifElse = true) :
    predicates? model node =
      if (model.parent? node.id).isSome && !isAlternative model node then
        (conditions? model model.nodes.length node).map fun conditions => ("if" :: conditions, 1)
      else none := by
  rw [Node.isStatement, Bool.and_eq_true, beq_iff_eq, beq_iff_eq] at isIf
  rcases isIf with ⟨isStatement, isIfElse⟩
  rw [predicates?, isStatement, isIfElse]
  cases (model.parent? node.id).isSome
  · rfl
  cases isAlternative model node
  · cases conditions? model model.nodes.length node with
    | none => rfl
    | some conditions => rfl
  · rfl

/-- Only `if` statements and selections start chains. -/
theorem chain?_eq_none {model : Model} {node : Node}
    (notIf : node.isStatement .ifElse = false)
    (notSelection : node.isStatement .select = false) :
    chain? model node = none := by
  have noPredicates : predicates? model node = none := by
    rw [predicates?]
    split
    next isIfElse => simp_all [Node.isStatement]
    next isSelect => simp_all [Node.isStatement]
    next => rfl
  rw [chain?, noPredicates]
  rfl

/-- The chains of a model are those of its `if` statements and those of its selections. -/
theorem chains_perm (model : Model) (minStatements : Nat) :
    (Fingerprints.ofModel model minStatements).chains.Perm
      (ifChains model ++ selectionChains model) := by
  have others :
      (model.nodes.filter fun node => !node.isStatement .ifElse).filterMap (chain? model) =
        selectionChains model := by
    rw [selectionChains, List.filterMap_filter, List.filterMap_filter]
    apply List.filterMap_congr
    intro node _
    cases isSelection : node.isStatement .select with
    | true =>
        have notIf : node.isStatement .ifElse = false := by
          simp_all [Node.isStatement]
        simp [notIf]
    | false =>
        cases isIf : node.isStatement .ifElse with
        | true => rfl
        | false => simp [chain?_eq_none isIf isSelection]
  rw [← others, ifChains, ifStatements, ← List.filterMap_append]
  exact (List.filter_append_perm _ model.nodes).symm.filterMap _

/-! ## Looking up and looking down -/

section Links

variable {model : Model} (wellFormed : model.IsWellFormed)

include wellFormed

theorem nodup_ifStatements : (ifStatements model).Nodup :=
  (List.Nodup.of_map _ wellFormed.distinctIds).filter _

theorem reachable_of_mem_ifStatements {node : Node}
    (isIf : node ∈ ifStatements model) :
    Model.Reachable model.nodes model.root node.id := by
  apply wellFormed.reachable node (mem_ifStatements_iff.mp isIf).1
  rw [kind_of_mem_ifStatements isIf]
  decide

theorem ne_root_of_mem_ifStatements {node : Node}
    (isIf : node ∈ ifStatements model) :
    node.id ≠ model.root := by
  apply wellFormed.ne_root_of_kind_ne_module (mem_ifStatements_iff.mp isIf).1
  rw [kind_of_mem_ifStatements isIf]
  decide

theorem exists_node?_of_mem_ifStatements {node : Node}
    (isIf : node ∈ ifStatements model) :
    model.node? node.id = some node :=
  Model.exists_node?_eq_some wellFormed.distinctIds (mem_ifStatements_iff.mp isIf).1

theorem exists_parent?_of_mem_ifStatements {node : Node}
    (isIf : node ∈ ifStatements model) :
    ∃ parent, model.parent? node.id = some parent := by
  rcases Relation.ReflTransGen.cases_tail (reachable_of_mem_ifStatements wellFormed isIf) with
    isRoot | ⟨_, _, parent, member, _, listed⟩
  · exact absurd isRoot (ne_root_of_mem_ifStatements wellFormed isIf)
  · exact ⟨parent, wellFormed.parent?_eq_some_iff.mpr ⟨member, listed⟩⟩

/-- The walk up from an `if` ends at the root, which is a module. -/
theorem exists_owner_of_mem_ifStatements {node : Node}
    (isIf : node ∈ ifStatements model) :
    ∃ owner,
      ((model.ancestors node.id).find? fun ancestor =>
        ancestor.kind == .function || ancestor.kind == .module) = some owner := by
  have last := wellFormed.getLast?_ancestors (reachable_of_mem_ifStatements wellFormed isIf)
  rcases List.mem_cons.mp (List.mem_of_getLast? last) with isRoot | above
  · exact absurd isRoot.symm (ne_root_of_mem_ifStatements wellFormed isIf)
  rcases List.mem_map.mp above with ⟨rootNode, isAncestor, isRoot⟩
  rcases wellFormed.exists_node?_root with ⟨found, isFound, isModule⟩
  have same := Model.exists_node?_eq_some wellFormed.distinctIds
    (Model.mem_of_mem_ancestors isAncestor)
  rw [isRoot, isFound, Option.some_inj] at same
  apply Option.isSome_iff_exists.mp
  rw [List.find?_isSome]
  exact ⟨rootNode, isAncestor, by simp [← same, isModule]⟩

/-- A node stands at a position exactly when the look-up of its position says so. -/
theorem childIndex?_eq_some_iff {parent node : Node} {index : Nat}
    (isParent : model.parent? node.id = some parent) :
    model.childIndex? node.id = some index ↔ parent.children[index]? = some node.id := by
  rcases wellFormed.parent?_eq_some_iff.mp isParent with ⟨member, _⟩
  have once := wellFormed.nodup_children member
  rw [Model.childIndex?, isParent, Option.bind_eq_bind, Option.bind_some,
    List.idxOf?_eq_some_iff, List.getElem?_eq_some_iff]
  constructor
  · rintro ⟨bound, atIndex, _⟩
    exact ⟨bound, atIndex⟩
  · rintro ⟨bound, atIndex⟩
    refine ⟨bound, atIndex, ?_⟩
    intro earlier isEarlier again
    have equal := once.getElem_inj_iff.mp (again.trans atIndex.symm)
    omega

/-- Looking up finds the `if` that a node is the alternative of. -/
theorem isAlternative_iff {node : Node}
    (isIf : node ∈ ifStatements model) :
    isAlternative model node = true ↔ ∃ above, IsAlternativeOf model above node := by
  rcases exists_parent?_of_mem_ifStatements wellFormed isIf with ⟨parent, isParent⟩
  rcases wellFormed.parent?_eq_some_iff.mp isParent with ⟨member, listed⟩
  rw [isAlternative, isParent, Option.any_some, Bool.and_eq_true, beq_iff_eq,
    childIndex?_eq_some_iff wellFormed isParent]
  constructor
  · rintro ⟨isAbove, third⟩
    exact ⟨parent, mem_ifStatements_iff.mpr ⟨member, isAbove⟩, isIf, third⟩
  · rintro ⟨above, isAbove, _, third⟩
    rcases mem_ifStatements_iff.mp isAbove with ⟨aboveMember, isStatement⟩
    have same := Model.eq_of_mem_children wellFormed.childrenOnce aboveMember member
      (List.mem_of_getElem? third) listed
    rw [← same]
    exact ⟨isStatement, third⟩

/-- Looking down finds the alternative of an `if`. -/
theorem isAlternativeOf_iff {node next : Node}
    (isIf : node ∈ ifStatements model) :
    IsAlternativeOf model node next ↔ alternative? model node = some next := by
  rw [alternative?, Option.filter_eq_some_iff, Model.child?,
    exists_node?_of_mem_ifStatements wellFormed isIf, Option.bind_eq_bind, Option.bind_some,
    Option.bind_eq_bind, Option.bind_eq_some_iff]
  constructor
  · rintro ⟨_, isNext, third⟩
    exact ⟨⟨next.id, third, exists_node?_of_mem_ifStatements wellFormed isNext⟩,
      (mem_ifStatements_iff.mp isNext).2⟩
  · rintro ⟨⟨id, third, found⟩, isStatement⟩
    rcases Model.mem_of_node?_eq_some found with ⟨member, rfl⟩
    exact ⟨isIf, mem_ifStatements_iff.mpr ⟨member, isStatement⟩, third⟩

theorem IsAlternativeOf.unique_above {first second node : Node}
    (fromFirst : IsAlternativeOf model first node)
    (fromSecond : IsAlternativeOf model second node) :
    first = second :=
  Model.eq_of_mem_children wellFormed.childrenOnce (mem_ifStatements_iff.mp fromFirst.isAbove).1
    (mem_ifStatements_iff.mp fromSecond.isAbove).1 (List.mem_of_getElem? fromFirst.third)
    (List.mem_of_getElem? fromSecond.third)

theorem IsAlternativeOf.unique_below {node first second : Node}
    (toFirst : IsAlternativeOf model node first)
    (toSecond : IsAlternativeOf model node second) :
    first = second := by
  have isFirst := (isAlternativeOf_iff wellFormed toFirst.isAbove).mp toFirst
  have isSecond := (isAlternativeOf_iff wellFormed toSecond.isAbove).mp toSecond
  exact Option.some.inj (isFirst.symm.trans isSecond)

/-- The first child of an `if` with children is found. -/
theorem exists_condition {node : Node}
    (isIf : node ∈ ifStatements model)
    (hasChild : node.children ≠ []) :
    ∃ condition, model.child? node.id 0 = some condition := by
  rcases List.exists_cons_of_ne_nil hasChild with ⟨first, others, children⟩
  have listed : first ∈ node.children := by
    rw [children]
    exact List.mem_cons_self
  rcases wellFormed.childrenExist node (mem_ifStatements_iff.mp isIf).1 first listed with
    ⟨condition, member, rfl⟩
  refine ⟨condition, ?_⟩
  rw [Model.child?, exists_node?_of_mem_ifStatements wellFormed isIf, Option.bind_eq_bind,
    Option.bind_some, children]
  exact Model.exists_node?_eq_some wellFormed.distinctIds member

end Links

/-! ## Members of one chain -/

theorem FollowsAlternatives.leads {model : Model} {node : Node} {members conditions : List Node}
    (follows : FollowsAlternatives model node members conditions)
    {member : Node}
    (isMember : member ∈ members) :
    Relation.ReflTransGen (IsAlternativeOf model) node member := by
  induction follows with
  | last => rw [List.mem_singleton.mp isMember]
  | next _ continues _ induction =>
      rcases List.mem_cons.mp isMember with rfl | later
      · exact .refl
      · exact .head continues (induction later)

theorem FollowsAlternatives.length_eq {model : Model} {node : Node} {members conditions : List Node}
    (follows : FollowsAlternatives model node members conditions) :
    conditions.length = members.length := by
  induction follows with
  | last => rfl
  | next _ _ _ induction => rw [List.length_cons, List.length_cons, induction]

theorem FollowsAlternatives.head_mem {model : Model} {node : Node} {members conditions : List Node}
    (follows : FollowsAlternatives model node members conditions) :
    node ∈ members := by
  cases follows with
  | last => exact List.mem_cons_self
  | next => exact List.mem_cons_self

/-- With a member its alternative is a member. -/
theorem FollowsAlternatives.alternative_mem {model : Model}
    (wellFormed : model.IsWellFormed)
    {node : Node} {members conditions : List Node}
    (follows : FollowsAlternatives model node members conditions)
    {above below : Node}
    (isMember : above ∈ members)
    (continues : IsAlternativeOf model above below) :
    below ∈ members := by
  induction follows with
  | last _ ends =>
      rw [List.mem_singleton.mp isMember] at continues
      exact absurd continues (ends below)
  | next _ toNext rest induction =>
      apply List.mem_cons_of_mem
      rcases List.mem_cons.mp isMember with rfl | later
      · rw [continues.unique_below wellFormed toNext]
        exact rest.head_mem
      · exact induction later

/-- The members of a chain lie on one branch below its start. -/
theorem membersWithin_sublist (model : Model) (links : Nat) {node : Node}
    (found : model.node? node.id = some node) :
    (membersWithin model links node).Sublist (model.descendantsWithin links node.id) := by
  induction links generalizing node with
  | zero => exact List.nil_sublist _
  | succ links induction =>
      rw [membersWithin, Model.descendantsWithin, found]
      apply List.Sublist.cons_cons
      cases isNext : alternative? model node with
      | none => exact List.nil_sublist _
      | some next =>
          rw [alternative?, Option.filter_eq_some_iff, Model.child?, found, Option.bind_eq_bind,
            Option.bind_some, Option.bind_eq_bind, Option.bind_eq_some_iff] at isNext
          rcases isNext with ⟨⟨id, third, isNode⟩, _⟩
          rcases Model.mem_of_node?_eq_some isNode with ⟨_, rfl⟩
          have subtree :
              (model.descendantsWithin links next.id).Sublist
                (node.children.flatMap (model.descendantsWithin links)) :=
            List.sublist_flatten_of_mem (List.mem_map_of_mem (List.mem_of_getElem? third))
          exact (induction isNode).trans subtree

/-- The loop over the links reads one condition and goes on with the alternative. -/
theorem conditions?_succ (model : Model) (links : Nat) {node condition : Node}
    (tests : model.child? node.id 0 = some condition) :
    conditions? model (links + 1) node =
      match alternative? model node with
      | some next =>
          (conditions? model links next).map fun rest => predicateText model condition.id :: rest
      | none => some [predicateText model condition.id] := by
  rw [conditions?, tests, alternative?]
  cases model.child? node.id 2 with
  | none => rfl
  | some next =>
      cases isIf : next.isStatement .ifElse with
      | false => simp [Option.filter, isIf]
      | true =>
          simp only [Option.filter, isIf, if_true, Option.bind_eq_bind, Option.bind_some]
          cases conditions? model links next with
          | none => rfl
          | some rest => rfl

/-- The loop over the links reads the conditions of the members of the chain. -/
theorem exists_followsAlternatives {model : Model}
    (wellFormed : model.IsWellFormed)
    (haveChildren : ∀ node ∈ ifStatements model, node.children ≠ [])
    {links : Nat} {node : Node}
    (isIf : node ∈ ifStatements model)
    (whole : IsWhole model links node.id) :
    ∃ conditions,
      FollowsAlternatives model node (membersWithin model links node) conditions ∧
        conditions? model links node =
          some (conditions.map fun condition => predicateText model condition.id) := by
  induction links generalizing node with
  | zero => cases whole
  | succ links induction =>
      rcases exists_condition wellFormed isIf (haveChildren node isIf) with ⟨condition, tests⟩
      rcases whole with ⟨found, isFound, below⟩
      cases (exists_node?_of_mem_ifStatements wellFormed isIf).symm.trans isFound
      rw [membersWithin, conditions?_succ model links tests]
      cases isNext : alternative? model node with
      | none =>
          refine ⟨[condition], .last tests ?_, rfl⟩
          intro next toNext
          rw [isAlternativeOf_iff wellFormed isIf, isNext] at toNext
          cases toNext
      | some next =>
          have toNext := (isAlternativeOf_iff wellFormed isIf).mpr isNext
          rcases induction toNext.isNode (below next.id (List.mem_of_getElem? toNext.third)) with
            ⟨conditions, follows, isConditions⟩
          refine ⟨condition :: conditions, .next tests toNext follows, ?_⟩
          simp only [isConditions]
          rfl

/-! ## All chains together -/

section Partition

variable {model : Model} (wellFormed : model.IsWellFormed)
  (haveChildren : ∀ node ∈ ifStatements model, node.children ≠ [])

include wellFormed

/-- No two chains meet: from a shared member both lead up to the same start. -/
theorem eq_of_heads_lead {first second shared : Node}
    (firstHead : first ∈ ifHeads model)
    (secondHead : second ∈ ifHeads model)
    (fromFirst : Relation.ReflTransGen (IsAlternativeOf model) first shared)
    (fromSecond : Relation.ReflTransGen (IsAlternativeOf model) second shared) :
    first = second :=
  Model.eq_of_tops_lead (fun toFirst toSecond => toFirst.unique_above wellFormed toSecond)
    (mem_ifHeads_iff.mp firstHead).2 (mem_ifHeads_iff.mp secondHead).2 fromFirst fromSecond

theorem chain?_eq_none_of_not_mem_ifHeads {node : Node}
    (isIf : node ∈ ifStatements model)
    (notHead : node ∉ ifHeads model) :
    chain? model node = none := by
  have isAlternative : isAlternative model node = true := by
    rw [isAlternative_iff wellFormed isIf]
    rw [mem_ifHeads_iff] at notHead
    push Not at notHead
    exact notHead isIf
  rw [chain?, predicates?_of_isIf (mem_ifStatements_iff.mp isIf).2, isAlternative, Bool.not_true,
    Bool.and_false]
  rfl

include haveChildren

theorem follows_chainMembers {node : Node}
    (isIf : node ∈ ifStatements model) :
    ∃ conditions,
      FollowsAlternatives model node (chainMembers model node) conditions ∧
        conditions? model model.nodes.length node =
          some (conditions.map fun condition => predicateText model condition.id) :=
  exists_followsAlternatives wellFormed haveChildren isIf
    (isWhole_of_reachable wellFormed (reachable_of_mem_ifStatements wellFormed isIf))

/-- Above every `if` there is one that starts a chain. -/
theorem exists_head_of_mem_ifStatements {node : Node}
    (isIf : node ∈ ifStatements model) :
    ∃ head ∈ ifHeads model, node ∈ chainMembers model head := by
  have hangs := reachable_of_mem_ifStatements wellFormed isIf
  generalize isId : node.id = id at hangs
  induction hangs generalizing node with
  | refl => exact absurd isId (ne_root_of_mem_ifStatements wellFormed isIf)
  | tail _ listed induction =>
      by_cases isHead : node ∈ ifHeads model
      · rcases follows_chainMembers wellFormed haveChildren isIf with ⟨_, follows, _⟩
        exact ⟨node, isHead, follows.head_mem⟩
      rw [mem_ifHeads_iff] at isHead
      push Not at isHead
      rcases isHead isIf with ⟨above, continues⟩
      rcases listed with ⟨parent, member, rfl, listed⟩
      rw [← isId] at listed
      have isParent := Model.eq_of_mem_children wellFormed.childrenOnce
        (mem_ifStatements_iff.mp continues.isAbove).1 member
        (List.mem_of_getElem? continues.third) listed
      rcases induction continues.isAbove (congrArg Node.id isParent) with ⟨head, isHead, isMember⟩
      rcases follows_chainMembers wellFormed haveChildren (mem_ifHeads_iff.mp isHead).1 with
        ⟨_, follows, _⟩
      exact ⟨head, isHead, follows.alternative_mem wellFormed isMember continues⟩

theorem leads_of_mem_chainMembers {head node : Node}
    (isHead : head ∈ ifHeads model)
    (isMember : node ∈ chainMembers model head) :
    Relation.ReflTransGen (IsAlternativeOf model) head node := by
  rcases follows_chainMembers wellFormed haveChildren (mem_ifHeads_iff.mp isHead).1 with
    ⟨_, follows, _⟩
  exact follows.leads isMember

theorem nodup_members : ((ifHeads model).flatMap (chainMembers model)).Nodup := by
  rw [List.nodup_flatMap]
  constructor
  · intro head isHead
    have isIf := (mem_ifHeads_iff.mp isHead).1
    have found := exists_node?_of_mem_ifStatements wellFormed isIf
    have subtree : ((model.descendants head.id).map Node.id).Nodup :=
      wellFormed.nodup_descendantsWithin (reachable_of_mem_ifStatements wellFormed isIf)
    exact (List.Nodup.of_map _ subtree).sublist (membersWithin_sublist model _ found)
  · refine ((nodup_ifStatements wellFormed).filter _).imp_of_mem ?_
    intro first second firstHead secondHead different
    simp only [Function.onFun, List.disjoint_left]
    intro shared inFirst inSecond
    exact different (eq_of_heads_lead wellFormed firstHead secondHead
      (leads_of_mem_chainMembers wellFormed haveChildren firstHead inFirst)
      (leads_of_mem_chainMembers wellFormed haveChildren secondHead inSecond))

/-- The members of all chains are the `if` statements, each once. -/
theorem members_perm :
    ((ifHeads model).flatMap (chainMembers model)).Perm (ifStatements model) := by
  rw [List.perm_ext_iff_of_nodup (nodup_members wellFormed haveChildren)
    (nodup_ifStatements wellFormed)]
  intro node
  rw [List.mem_flatMap]
  constructor
  · rintro ⟨head, isHead, isMember⟩
    rcases Relation.ReflTransGen.cases_tail
      (leads_of_mem_chainMembers wellFormed haveChildren isHead isMember) with
      equal | ⟨_, _, continues⟩
    · rw [equal]
      exact (mem_ifHeads_iff.mp isHead).1
    · exact continues.isNode
  · exact exists_head_of_mem_ifStatements wellFormed haveChildren

theorem exists_chain?_of_mem_ifHeads {head : Node}
    (isHead : head ∈ ifHeads model) :
    ∃ chain, chain? model head = some chain ∧ IsChainOf model head chain := by
  rcases mem_ifHeads_iff.mp isHead with ⟨isIf, first⟩
  rcases follows_chainMembers wellFormed haveChildren isIf with ⟨conditions, follows, isConditions⟩
  rcases exists_parent?_of_mem_ifStatements wellFormed isIf with ⟨parent, isParent⟩
  rcases exists_owner_of_mem_ifStatements wellFormed isIf with ⟨owner, isOwner⟩
  have notAlternative : isAlternative model head = false := by
    rw [Bool.eq_false_iff, Ne, isAlternative_iff wellFormed isIf]
    rintro ⟨above, continues⟩
    exact first above continues
  have isPredicates :
      predicates? model head =
        some ("if" :: conditions.map fun condition => predicateText model condition.id, 1) := by
    rw [predicates?_of_isIf (mem_ifStatements_iff.mp isIf).2, isParent, notAlternative,
      isConditions]
    rfl
  let chain : Chain :=
    { range := model.range head
      owner := model.range owner
      branches := conditions.length
      key :=
        Digest.ofText (chainText ("if" :: conditions.map fun condition =>
          predicateText model condition.id)) }
  have isChain : chain? model head = some chain := by
    rw [chain?, isPredicates]
    simp [isOwner, chain]
  exact ⟨chain, isChain, rfl, follows.length_eq, conditions, follows, rfl⟩

/-- The chains of the `if` statements are those of the heads, one for each. -/
theorem forall₂_ifChains : List.Forall₂ (IsChainOf model) (ifHeads model) (ifChains model) := by
  have fromHeads : ifChains model = (ifHeads model).filterMap (chain? model) := by
    rw [ifChains, ifHeads, List.filterMap_filter]
    apply List.filterMap_congr
    intro node isIf
    split
    · rfl
    next notHead =>
      apply chain?_eq_none_of_not_mem_ifHeads wellFormed isIf
      intro isHead
      exact notHead (List.mem_filter.mp isHead).2
  rw [fromHeads]
  have found (head : Node) (isHead : head ∈ ifHeads model) :=
    exists_chain?_of_mem_ifHeads wellFormed haveChildren isHead
  generalize ifHeads model = heads at found
  induction heads with
  | nil => exact .nil
  | cons head heads induction =>
      rcases found head List.mem_cons_self with ⟨chain, isChain, isChainOf⟩
      rw [List.filterMap_cons, isChain]
      apply List.Forall₂.cons isChainOf
      exact induction fun other later => found other (List.mem_cons_of_mem head later)

end Partition

/-! ## Accepted models -/

/--
Where every `if` has a child, the chains of the `if` statements take them apart: there is one chain
for each `if` that is the third child of no other, every `if` is member of exactly one chain and
gives its condition at its position along the alternatives, and the branches of all chains are as
many as the `if` statements.
-/
theorem ingest_ifChains_partition_ifStatements
    (path : SourcePath)
    (root : NodeId)
    (nodes : List Node)
    (lineCount : Option UInt32)
    (model : Model)
    (accepted : Model.ingest path root nodes lineCount = .ok model)
    (haveChildren : ∀ node ∈ ifStatements model, node.children ≠ [])
    (minStatements : Nat) :
    (Fingerprints.ofModel model minStatements).chains.Perm
        (ifChains model ++ selectionChains model) ∧
      List.Forall₂ (IsChainOf model) (ifHeads model) (ifChains model) ∧
      ((ifHeads model).flatMap (chainMembers model)).Perm (ifStatements model) ∧
      (ifStatements model).Nodup ∧
      ((ifChains model).map Chain.branches).sum = (ifStatements model).length := by
  have wellFormed := Model.IsWellFormed.of_ingest accepted
  have chains := forall₂_ifChains wellFormed haveChildren
  have members := members_perm wellFormed haveChildren
  have branches :
      ((ifHeads model).map fun head => (chainMembers model head).length) =
        (ifChains model).map Chain.branches := by
    rw [← List.forall₂_eq_eq_eq, List.forall₂_map_left_iff, List.forall₂_map_right_iff]
    exact chains.imp fun _ _ isChainOf => isChainOf.branches.symm
  refine ⟨chains_perm model minStatements, chains, members, nodup_ifStatements wellFormed, ?_⟩
  rw [← branches, ← List.length_flatMap]
  exact members.length_eq

/-- The module that tests `f(g(x))` and then `y` has two `if` statements, and one chain of both. -/
theorem nestedModule_ifChains_partition :
    let model := nestedModule "left.ir.json"
    Model.ingest model.path model.root model.nodes model.lineCount = .ok model ∧
      (∀ node ∈ ifStatements model, node.children ≠ []) ∧
      (ifStatements model).length = 2 ∧
      (ifHeads model).length = 1 ∧
      List.Forall₂ (IsChainOf model) (ifHeads model) (ifChains model) ∧
      ((ifHeads model).flatMap (chainMembers model)).Perm (ifStatements model) ∧
      ((ifChains model).map Chain.branches).sum = (ifStatements model).length := by
  intro model
  have accepted := ingest_nestedModule "left.ir.json"
  have haveChildren : ∀ node ∈ ifStatements model, node.children ≠ [] := by decide
  rcases ingest_ifChains_partition_ifStatements _ _ _ _ model accepted haveChildren 3 with
    ⟨_, chains, members, _, branches⟩
  exact ⟨accepted, haveChildren, by decide, by decide, chains, members, branches⟩

end StructuralLint.Duplication
