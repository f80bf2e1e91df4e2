import Mathlib.Data.Option.Basic
import StructuralLint.Proofs.SymbolTable
import StructuralLint.Rule.Navigation

/-!
# Chains of accesses through other objects

Each member access is classified on its own, by a walk down its objects.  In a model in which only
expressions are marked as such, the walks agree with each other: an access that goes through another
one starts where that one starts and is one step further, and the other one is listed as well.  No
two accesses go through the same one, so accesses fall into chains, along which the number of steps
counts down to one.

The rule on navigation reports only accesses that no other one goes through.  Hence it reports at
most one access of a chain, the outermost.
-/

namespace StructuralLint

namespace Symbols

/-- Accesses of which each goes through the next, and the last through none. -/
inductive ReceiverChain (accesses : List ForeignAccess) : List ForeignAccess → Prop where
  | start {access : ForeignAccess}
      (member : access ∈ accesses)
      (isFirst : access.receiver = none) :
      ReceiverChain accesses [access]
  | link {outer inner : ForeignAccess} {rest : List ForeignAccess}
      (member : outer ∈ accesses)
      (through : outer.receiver = some inner.node)
      (chain : ReceiverChain accesses (inner :: rest)) :
      ReceiverChain accesses (outer :: inner :: rest)

/-- Accesses are listed link by link. -/
structure Table.RecordsLinks (table : Table) : Prop where
  /-- An access that goes through none is the first step. -/
  first : ∀ access ∈ table.foreignAccesses, access.receiver = none → access.depth = 1
  /-- An access that goes through another one is one step further from the same start. -/
  next :
    ∀ outer ∈ table.foreignAccesses, ∀ receiver, outer.receiver = some receiver →
      ∃ inner ∈ table.foreignAccesses,
        inner.node = receiver ∧ outer.depth = inner.depth + 1 ∧
          outer.root = inner.root ∧ outer.rootName = inner.rootName
  /-- A chain ends at the access that no other one goes through. -/
  ends :
    ∀ access ∈ table.foreignAccesses,
      access.isChainEnd = true ↔
        ∀ outer ∈ table.foreignAccesses, outer.receiver ≠ some access.node
  unbranched :
    ∀ left ∈ table.foreignAccesses, ∀ right ∈ table.foreignAccesses, ∀ receiver,
      left.receiver = some receiver → right.receiver = some receiver → left = right
  distinct : (table.foreignAccesses.map ForeignAccess.node).Nodup

/--
An access at a node goes through an inner member access, which has the same start and is one
step less far.
-/
structure StepsThrough (model : Model) (access : ForeignAccess) (node inner : Node) : Prop where
  isNode : node ∈ model.nodes
  isMember : node.isExpression .member = true
  sameNode : access.node = node.id
  through : GoesThrough model node.id inner
  receiver : access.receiver = some inner.id
  hangs : Model.Reachable model.nodes model.root inner.id
  further :
    ∃ shallower past,
      access.depth = shallower + 1 ∧
        classify model (scoping model) inner.id =
          .foreign access.root access.rootName shallower past

/-- One access goes directly through the other. -/
def LeadsTo (accesses : List ForeignAccess) (outer inner : ForeignAccess) : Prop :=
  outer ∈ accesses ∧ inner ∈ accesses ∧ outer.receiver = some inner.node

/-! ## Independent walks agree -/

section Walks

variable {model : Model}

/-- The other access is a child of the access, or of a call that is. -/
theorem GoesThrough.cases {member : NodeId} {inner : Node}
    (through : GoesThrough model member inner) :
    Model.AtDepth model.nodes member 1 inner.id ∨
      ∃ call ∈ model.nodes,
        call.expression = some .call ∧ Model.AtDepth model.nodes member 1 call.id ∧
          Model.AtDepth model.nodes call.id 1 inner.id := by
  rcases through with ⟨object, isObject, isInner⟩
  have toObject := Model.AtDepth.root.child (Model.listsChild_of_child?_eq_some isObject)
  rcases innerMember?_cases isInner with ⟨rfl, _⟩ | ⟨isCall, isChild, _⟩
  · exact Or.inl toObject
  · exact Or.inr ⟨object, Model.mem_of_child?_eq_some isObject, isCall, toObject,
      Model.AtDepth.root.child (Model.listsChild_of_child?_eq_some isChild)⟩

theorem GoesThrough.exists_atDepth {member : NodeId} {inner : Node}
    (through : GoesThrough model member inner) :
    ∃ steps, Model.AtDepth model.nodes member (steps + 1) inner.id := by
  rcases through.cases with direct | ⟨call, _, _, toCall, fromCall⟩
  · exact ⟨0, direct⟩
  · exact ⟨1, toCall.trans fromCall⟩

/-- A walk with more levels than every chain below has yields the same with still more levels. -/
theorem classifyWithin_eq_of_chains_lt {scoping : Scoping} {levels more : Nat} {member : NodeId}
    (shorter : ∀ depth bottom, Model.AtDepth model.nodes member depth bottom → depth < levels)
    (le : levels ≤ more) :
    classifyWithin model scoping more member = classifyWithin model scoping levels member := by
  induction levels generalizing member more with
  | zero => exact absurd (shorter 0 member .root) (Nat.not_lt_zero 0)
  | succ levels induction =>
      cases more with
      | zero => exact absurd le (Nat.not_succ_le_zero levels)
      | succ more =>
          have inside {inner : Node} (through : GoesThrough model member inner) :
              classifyWithin model scoping more inner.id =
                classifyWithin model scoping levels inner.id := by
            apply induction _ (Nat.le_of_succ_le_succ le)
            intro depth bottom below
            rcases through.exists_atDepth with ⟨steps, above⟩
            have bounded := shorter _ bottom (above.trans below)
            omega
          rw [classifyWithin, classifyWithin]
          cases isObject : model.child? member 0 with
          | none => rfl
          | some object =>
              cases isInner : innerMember? model object with
              | none => simp only [isInner]
              | some inner => simp only [isInner, inside ⟨object, isObject, isInner⟩]

variable (wellFormed : model.IsWellFormed)

include wellFormed

/-- One level less is enough for the access that another one goes through. -/
theorem classifyWithin_eq_classify {scoping : Scoping} {member : NodeId} {inner : Node}
    (hangs : Model.Reachable model.nodes model.root member)
    (through : GoesThrough model member inner)
    {levels : Nat}
    (isNumber : model.nodes.length = levels + 1) :
    classifyWithin model scoping levels inner.id = classify model scoping inner.id := by
  rw [classify]
  refine (classifyWithin_eq_of_chains_lt ?_ (isNumber ▸ Nat.le_succ levels)).symm
  intro depth bottom below
  rcases hangs.exists_atDepth with ⟨above, toMember⟩
  rcases through.exists_atDepth with ⟨steps, toInner⟩
  have bounded := ((toMember.trans toInner).trans below).lt_length wellFormed.childrenOnce
    wellFormed.rootUnlisted wellFormed.root_mem_ids wellFormed.children_mem_ids
  omega

/-- What the walk down from an access finds agrees with what the walk from the next one finds. -/
theorem cases_of_classify {scoping : Scoping} {member : NodeId} {root : Option SymbolId}
    {rootName : Option String} {depth : Nat} {receiver : Option NodeId}
    (hangs : Model.Reachable model.nodes model.root member)
    (classified : classify model scoping member = .foreign root rootName depth receiver) :
    (receiver = none ∧ depth = 1) ∨
      ∃ inner shallower past,
        GoesThrough model member inner ∧ receiver = some inner.id ∧ depth = shallower + 1 ∧
          classify model scoping inner.id = .foreign root rootName shallower past := by
  rw [classify] at classified
  cases isNumber : model.nodes.length with
  | zero =>
      rw [isNumber] at classified
      cases classified
      exact Or.inl ⟨rfl, rfl⟩
  | succ levels =>
      rw [isNumber] at classified
      rcases cases_of_classifyWithin_succ classified with
        isFirst | ⟨inner, shallower, past, through, isInner, isDepth, inside⟩
      · exact Or.inl isFirst
      · rw [classifyWithin_eq_classify wellFormed hangs through isNumber] at inside
        exact Or.inr ⟨inner, shallower, past, through, isInner, isDepth, inside⟩

end Walks

/-! ## Accesses go through each other -/

section Links

variable {model : Model} (wellFormed : model.IsWellFormed)

/-- What is classified as an access to another object is listed as one. -/
theorem exists_access_of_classify {node : Node} {root : Option SymbolId}
    {rootName : Option String} {depth : Nat} {receiver : Option NodeId}
    (member : node ∈ model.descendants model.root)
    (isMember : node.isExpression .member = true)
    (classified :
      classify model (scoping model) node.id = .foreign root rootName depth receiver) :
    ∃ access ∈ (resolve model).foreignAccesses,
      access.node = node.id ∧ access.root = root ∧ access.rootName = rootName ∧
        access.depth = depth := by
  have found : ∃ access, foreignAccess? model (scoping model) node = some access ∧
      access.node = node.id ∧ access.root = root ∧ access.rootName = rootName ∧
        access.depth = depth := by
    rw [foreignAccess?, if_pos isMember, classified]
    exact ⟨_, rfl, rfl, rfl, rfl, rfl⟩
  rcases found with ⟨access, found, isAccess⟩
  rw [foreignAccesses_resolve]
  exact ⟨_, List.mem_map_of_mem (List.mem_filterMap.mpr ⟨node, member, found⟩), isAccess⟩

/-- A chain ends where no access is listed as going on. -/
theorem isChainEnd_iff {access : ForeignAccess}
    (member : access ∈ (resolve model).foreignAccesses) :
    access.isChainEnd = true ↔
      ∀ outer ∈ (resolve model).foreignAccesses, outer.receiver ≠ some access.node := by
  rw [foreignAccesses_resolve] at member ⊢
  rcases List.mem_map.mp member with ⟨started, _, rfl⟩
  simp [ForeignAccess.finish]

include wellFormed

/--
A member access is listed as one to another object, unless it is listed as one to the current
object.
-/
theorem exists_foreignAccess_iff {node : Node}
    (isNode : node ∈ model.nodes)
    (isMember : node.isExpression .member = true) :
    (∃ access ∈ (resolve model).foreignAccesses, access.node = node.id) ↔
      ∀ access ∈ (resolve model).fieldAccesses, access.node ≠ node.id := by
  have isKind : node.kind = .expression := by
    rw [Node.isExpression, Bool.and_eq_true, beq_iff_eq] at isMember
    exact isMember.1
  have nodeMember := wellFormed.mem_descendants_of_not_comment isNode (by simp [isKind])
  have resolved :
      resolution? model (scoping model) node =
        some (classify model (scoping model) node.id).resolution := by
    rw [resolution?, if_neg (by simp [isKind]), if_pos isMember]
  have same {other : Node} (otherMember : other ∈ model.descendants model.root)
      (sameId : other.id = node.id) : other = node :=
    wellFormed.eq_of_id_eq (wellFormed.mem_descendants_iff.mp otherMember).1 isNode sameId
  cases classified : classify model (scoping model) node.id with
  | own symbol =>
      refine iff_of_false ?_ ?_
      · rintro ⟨access, member, sameNode⟩
        rcases exists_node_of_foreignAccess member with ⟨other, otherMember, _, isOther, _, foreign⟩
        rw [same otherMember (isOther.symm.trans sameNode), classified] at foreign
        cases foreign
      · intro notListed
        have found : ∃ access, fieldAccess? model (scoping model) node = some access ∧
            access.node = node.id := by
          rw [fieldAccess?, resolved, classified]
          exact ⟨_, rfl, rfl⟩
        rcases found with ⟨access, found, sameNode⟩
        rw [fieldAccesses_resolve] at notListed
        exact notListed access (List.mem_filterMap.mpr ⟨node, nodeMember, found⟩) sameNode
  | foreign root rootName depth receiver =>
      refine iff_of_true ?_ ?_
      · rcases exists_access_of_classify nodeMember isMember classified with
          ⟨access, member, sameNode, _⟩
        exact ⟨access, member, sameNode⟩
      · intro access member sameNode
        rw [fieldAccesses_resolve] at member
        rcases List.mem_filterMap.mp member with ⟨other, otherMember, found⟩
        rw [same otherMember ((function_of_fieldAccess? found).1.symm.trans sameNode), fieldAccess?,
          resolved, classified] at found
        cases found

/-- No two member accesses go through the same one. -/
theorem GoesThrough.unique {left right inner : Node}
    (leftMember : left ∈ model.nodes)
    (rightMember : right ∈ model.nodes)
    (leftIsMember : left.isExpression .member = true)
    (rightIsMember : right.isExpression .member = true)
    (fromLeft : GoesThrough model left.id inner)
    (fromRight : GoesThrough model right.id inner) :
    left = right := by
  have sameNode {first second : Node} (firstMember : first ∈ model.nodes)
      (secondMember : second ∈ model.nodes) {depth : Nat} {bottom : NodeId}
      (fromFirst : Model.AtDepth model.nodes first.id depth bottom)
      (fromSecond : Model.AtDepth model.nodes second.id depth bottom) : first = second :=
    wellFormed.eq_of_id_eq firstMember secondMember
      (fromFirst.top_unique wellFormed.childrenOnce fromSecond)
  have notCall {member call : Node} (isMember : member.isExpression .member = true)
      (isCall : call.expression = some .call) : member ≠ call := by
    rintro rfl
    simp [Node.isExpression, isCall] at isMember
  rcases fromLeft.cases with leftDirect | ⟨call, callMember, isCall, leftCall, fromCall⟩
  · rcases fromRight.cases with rightDirect | ⟨call, callMember, isCall, _, fromCall⟩
    · exact sameNode leftMember rightMember leftDirect rightDirect
    · exact absurd (sameNode leftMember callMember leftDirect fromCall)
        (notCall leftIsMember isCall)
  · rcases fromRight.cases with rightDirect | ⟨other, _, _, rightCall, fromOther⟩
    · exact absurd (sameNode rightMember callMember rightDirect fromCall)
        (notCall rightIsMember isCall)
    · exact sameNode leftMember rightMember (leftCall.trans fromCall) (rightCall.trans fromOther)

/-- An access is the first of its chain, or it goes through another one. -/
theorem first_or_stepsThrough {access : ForeignAccess}
    (member : access ∈ (resolve model).foreignAccesses) :
    (access.receiver = none ∧ access.depth = 1) ∨
      ∃ node inner, StepsThrough model access node inner := by
  rcases exists_node_of_foreignAccess member with
    ⟨node, nodeMember, isMember, sameNode, _, classified⟩
  rcases wellFormed.mem_descendants_iff.mp nodeMember with ⟨isNode, hangs⟩
  rcases cases_of_classify wellFormed hangs classified with
    isFirst | ⟨inner, shallower, past, through, isInner, isDepth, inside⟩
  · exact Or.inl isFirst
  · rcases through.exists_atDepth with ⟨_, below⟩
    exact Or.inr ⟨node, inner, isNode, isMember, sameNode, through, isInner,
      hangs.trans below.reachable, shallower, past, isDepth, inside⟩

theorem exists_stepsThrough {access : ForeignAccess} {receiver : NodeId}
    (member : access ∈ (resolve model).foreignAccesses)
    (isReceiver : access.receiver = some receiver) :
    ∃ node inner, StepsThrough model access node inner ∧ inner.id = receiver := by
  rcases first_or_stepsThrough wellFormed member with ⟨isFirst, _⟩ | ⟨node, inner, steps⟩
  · cases isFirst.symm.trans isReceiver
  · exact ⟨node, inner, steps, Option.some_inj.mp (steps.receiver.symm.trans isReceiver)⟩

/-- The access that another one goes through is listed, one step before it. -/
theorem StepsThrough.exists_inner_access
    (onlyExpressions :
      ∀ node ∈ model.nodes, node.expression.isSome = true → node.kind = .expression)
    {outer : ForeignAccess} {node inner : Node}
    (steps : StepsThrough model outer node inner) :
    ∃ access ∈ (resolve model).foreignAccesses,
      access.node = inner.id ∧ outer.depth = access.depth + 1 ∧
        outer.root = access.root ∧ outer.rootName = access.rootName := by
  have isNode := steps.through.mem
  have isMember : inner.isExpression .member = true := by
    rcases steps.through with ⟨object, isObject, found⟩
    rcases innerMember?_cases found with ⟨rfl, isMarked⟩ | ⟨_, _, isMember⟩
    · -- The walk goes by the mark of the object, and only nodes of kind expression are listed.
      have isKind := onlyExpressions inner isNode (by simp [isMarked])
      simp [Node.isExpression, isKind, isMarked]
    · exact isMember
  rcases steps.further with ⟨shallower, past, isDepth, classified⟩
  rcases exists_access_of_classify (wellFormed.mem_descendants_iff.mpr ⟨isNode, steps.hangs⟩)
    isMember classified with ⟨access, isAccess, sameNode, sameRoot, sameName, isShallower⟩
  exact ⟨access, isAccess, sameNode, by rw [isDepth, isShallower], sameRoot.symm, sameName.symm⟩

theorem StepsThrough.unique {left right : ForeignAccess} {leftNode rightNode inner : Node}
    (leftMember : left ∈ (resolve model).foreignAccesses)
    (rightMember : right ∈ (resolve model).foreignAccesses)
    (fromLeft : StepsThrough model left leftNode inner)
    (fromRight : StepsThrough model right rightNode inner) :
    left = right := by
  have sameNode : leftNode = rightNode :=
    GoesThrough.unique wellFormed fromLeft.isNode fromRight.isNode fromLeft.isMember
      fromRight.isMember fromLeft.through fromRight.through
  apply List.inj_on_of_nodup_map (nodup_foreignAccesses wellFormed) leftMember rightMember
  rw [fromLeft.sameNode, fromRight.sameNode, sameNode]

theorem recordsLinks_resolve
    (onlyExpressions :
      ∀ node ∈ model.nodes, node.expression.isSome = true → node.kind = .expression) :
    (resolve model).RecordsLinks where
  first access member isFirst := by
    rcases first_or_stepsThrough wellFormed member with ⟨_, isDepth⟩ | ⟨_, _, steps⟩
    · exact isDepth
    · cases isFirst.symm.trans steps.receiver
  next outer member receiver isReceiver := by
    rcases exists_stepsThrough wellFormed member isReceiver with ⟨_, inner, steps, rfl⟩
    exact steps.exists_inner_access wellFormed onlyExpressions
  ends _ member := isChainEnd_iff member
  unbranched left leftMember right rightMember receiver fromLeft fromRight := by
    rcases exists_stepsThrough wellFormed leftMember fromLeft with ⟨_, inner, leftSteps, rfl⟩
    rcases exists_stepsThrough wellFormed rightMember fromRight with
      ⟨_, other, rightSteps, sameId⟩
    have same : other = inner :=
      wellFormed.eq_of_id_eq rightSteps.through.mem leftSteps.through.mem sameId
    exact leftSteps.unique wellFormed leftMember rightMember (same ▸ rightSteps)
  distinct := nodup_foreignAccesses wellFormed

end Links

/-! ## Chains -/

namespace ReceiverChain

variable {accesses : List ForeignAccess}

theorem mem_accesses {chain : List ForeignAccess}
    (isChain : ReceiverChain accesses chain)
    {access : ForeignAccess}
    (member : access ∈ chain) :
    access ∈ accesses := by
  induction isChain with
  | start isListed _ => rwa [List.mem_singleton.mp member]
  | link isListed _ _ induction =>
      rcases List.mem_cons.mp member with rfl | later
      · exact isListed
      · exact induction later

/-- Behind the first access of a chain stand only accesses that another one goes through. -/
theorem exists_outer {head access : ForeignAccess} {rest : List ForeignAccess}
    (isChain : ReceiverChain accesses (head :: rest))
    (member : access ∈ rest) :
    ∃ outer ∈ accesses, outer.receiver = some access.node := by
  induction rest generalizing head with
  | nil => cases member
  | cons inner rest induction =>
      cases isChain with
      | link isListed through chain =>
          rcases List.mem_cons.mp member with rfl | later
          · exact ⟨head, isListed, through⟩
          · exact induction chain later

/-- The first access of a chain leads to all others. -/
theorem head_leads {head access : ForeignAccess} {rest : List ForeignAccess}
    (isChain : ReceiverChain accesses (head :: rest))
    (member : access ∈ head :: rest) :
    Relation.ReflTransGen (LeadsTo accesses) head access := by
  induction rest generalizing head with
  | nil =>
      rw [List.mem_singleton.mp member]
  | cons inner rest induction =>
      rcases List.mem_cons.mp member with rfl | later
      · exact .refl
      · cases isChain with
        | link isListed through chain =>
            exact .head ⟨isListed, chain.mem_accesses (List.mem_cons_self ..), through⟩
              (induction chain later)

end ReceiverChain

namespace Table.RecordsLinks

variable {table : Table} (records : table.RecordsLinks)

include records

theorem depth_of_receiver {outer inner : ForeignAccess}
    (outerMember : outer ∈ table.foreignAccesses)
    (innerMember : inner ∈ table.foreignAccesses)
    (through : outer.receiver = some inner.node) :
    outer.depth = inner.depth + 1 := by
  rcases records.next outer outerMember inner.node through with
    ⟨found, isFound, sameNode, isDepth, _⟩
  rwa [List.inj_on_of_nodup_map records.distinct isFound innerMember sameNode] at isDepth

/-- Along a chain the number of steps counts down to one. -/
theorem depths_of_chain {chain : List ForeignAccess}
    (isChain : ReceiverChain table.foreignAccesses chain) :
    chain.map ForeignAccess.depth = (List.range' 1 chain.length).reverse := by
  induction isChain with
  | @start access member isFirst =>
      rw [List.map_singleton, records.first access member isFirst]
      rfl
  | @link outer inner rest member through chain induction =>
      have isDepth := records.depth_of_receiver member (chain.mem_accesses (List.mem_cons_self ..))
        through
      have innerDepth : inner.depth = 1 + rest.length := by
        rw [List.map_cons, List.length_cons, List.range'_1_concat, List.reverse_append] at induction
        exact (List.cons.inj induction).1
      have grows :
          List.range' 1 (outer :: inner :: rest).length =
            List.range' 1 (inner :: rest).length ++ [1 + (inner :: rest).length] :=
        List.range'_1_concat
      rw [List.map_cons, induction, grows, List.reverse_append, isDepth, innerDepth]
      rfl

/-- Every access leads down a chain. -/
theorem exists_chain {access : ForeignAccess}
    (member : access ∈ table.foreignAccesses) :
    ∃ rest, ReceiverChain table.foreignAccesses (access :: rest) := by
  induction isDepth : access.depth using Nat.strongRecOn generalizing access with
  | _ depth induction =>
      cases isReceiver : access.receiver with
      | none => exact ⟨[], .start member isReceiver⟩
      | some receiver =>
          rcases records.next access member receiver isReceiver with
            ⟨inner, innerMember, rfl, isFurther, _⟩
          rcases induction inner.depth (by omega) innerMember rfl with ⟨rest, chain⟩
          exact ⟨inner :: rest, .link member isReceiver chain⟩

/--
Chains that share an access start with the same one, if no other access goes through either
start.
-/
theorem head_unique {left right shared : ForeignAccess} {leftRest rightRest : List ForeignAccess}
    (leftChain : ReceiverChain table.foreignAccesses (left :: leftRest))
    (rightChain : ReceiverChain table.foreignAccesses (right :: rightRest))
    (inLeft : shared ∈ left :: leftRest)
    (inRight : shared ∈ right :: rightRest)
    (leftIsEnd : ∀ outer ∈ table.foreignAccesses, outer.receiver ≠ some left.node)
    (rightIsEnd : ∀ outer ∈ table.foreignAccesses, outer.receiver ≠ some right.node) :
    left = right :=
  Model.eq_of_tops_lead
    (fun first second =>
      records.unbranched _ first.1 _ second.1 _ first.2.2 second.2.2)
    (fun outer leads => leftIsEnd outer leads.1 leads.2.2)
    (fun outer leads => rightIsEnd outer leads.1 leads.2.2)
    (leftChain.head_leads inLeft) (rightChain.head_leads inRight)

end Table.RecordsLinks

end Symbols

/-! ## The rule on navigation -/

namespace Rule

/-- The rule on navigation reports something at the node of an id. -/
def Context.ReportsNavigationAt (context : Context) (id : NodeId) : Prop :=
  ∃ node ∈ context.model.nodes,
    node.id = id ∧ ∃ violation, transitiveNavigation.evaluate context node = .ok [violation]

/-- The rule on navigation reports the outermost accesses of chains. -/
structure Context.ReportsOutermost (context : Context) : Prop where
  /-- The rule never fails, and finds one violation at a node at most. -/
  atMostOne :
    ∀ node,
      transitiveNavigation.evaluate context node = .ok [] ∨
        ∃ violation, transitiveNavigation.evaluate context node = .ok [violation]
  onlyAccesses :
    ∀ id, context.ReportsNavigationAt id →
      ∃ access ∈ context.symbols.foreignAccesses, access.node = id
  /-- An access is reported if no other one goes through it, and it is far from a known start. -/
  reported_iff :
    ∀ access ∈ context.symbols.foreignAccesses,
      context.ReportsNavigationAt access.node ↔
        (∀ outer ∈ context.symbols.foreignAccesses, outer.receiver ≠ some access.node) ∧
          access.root.isSome = true ∧
          ¬ Float.ofNat access.depth < context.threshold minNavigationLength
  /-- Of the accesses along a chain only the first can be reported. -/
  onlyFirst :
    ∀ outer rest,
      Symbols.ReceiverChain context.symbols.foreignAccesses (outer :: rest) →
        ∀ inner ∈ rest, ¬ context.ReportsNavigationAt inner.node
  /-- Accesses whose chains meet are not both reported. -/
  onePerChain :
    ∀ left right,
      Symbols.ReceiverChain context.symbols.foreignAccesses left →
      Symbols.ReceiverChain context.symbols.foreignAccesses right →
        ∀ shared ∈ left, shared ∈ right →
          ∀ first ∈ left, ∀ second ∈ right,
            context.ReportsNavigationAt first.node → context.ReportsNavigationAt second.node →
              first = second

/-- The rule on navigation finds something at the last member of a long chain. -/
theorem exists_violation_iff {context : Context} {node : Node} :
    (∃ violation, transitiveNavigation.evaluate context node = .ok [violation]) ↔
      node.isExpression .member = true ∧
        ∃ access, context.symbols.foreignAccessAt? node.id = some access ∧
          access.isChainEnd = true ∧ access.root.isSome = true ∧
          ¬ Float.ofNat access.depth < context.threshold minNavigationLength := by
  simp only [transitiveNavigation, Except.ok.injEq, Option.toList_eq_singleton_iff,
    Option.bind_eq_bind, Option.bind_eq_some_iff, Option.pure_def, Option.guard_eq_some',
    Bool.and_eq_true, Bool.not_eq_true', decide_eq_false_iff_not]
  constructor
  · rintro ⟨_, _, isMember, access, isAccess, _, ⟨isEnd, hasRoot⟩, _, isFar, _⟩
    exact ⟨isMember, access, isAccess, isEnd, hasRoot, isFar⟩
  · rintro ⟨isMember, access, isAccess, isEnd, hasRoot, isFar⟩
    exact ⟨_, (), isMember, access, isAccess, (), ⟨isEnd, hasRoot⟩, (), isFar, rfl⟩

/-- The rule never fails and finds one violation at most. -/
theorem evaluate_transitiveNavigation (context : Context) (node : Node) :
    transitiveNavigation.evaluate context node = .ok [] ∨
      ∃ violation, transitiveNavigation.evaluate context node = .ok [violation] := by
  simp only [transitiveNavigation, Except.ok.injEq, Option.toList_eq_nil_iff,
    Option.toList_eq_singleton_iff]
  exact Option.eq_none_or_eq_some _

section Outermost

variable {context : Context}
  (wellFormed :
    context.model.IsWellFormed)
  (isResolved : context.symbols = Symbols.resolve context.model)

include wellFormed isResolved

theorem exists_access_of_reportsNavigationAt {id : NodeId}
    (reported : context.ReportsNavigationAt id) :
    ∃ access ∈ context.symbols.foreignAccesses,
      access.node = id ∧ access.isChainEnd = true ∧ access.root.isSome = true ∧
        ¬ Float.ofNat access.depth < context.threshold minNavigationLength := by
  rcases reported with ⟨node, _, rfl, found⟩
  rcases exists_violation_iff.mp found with ⟨_, access, isAccess, isReported⟩
  rw [isResolved] at isAccess ⊢
  rcases ((Symbols.accessesAgree_resolve wellFormed).accessAt _ _).mp isAccess with
    ⟨member, sameNode⟩
  exact ⟨access, member, sameNode, isReported⟩

theorem reportsNavigationAt_iff {access : Symbols.ForeignAccess}
    (member : access ∈ context.symbols.foreignAccesses) :
    context.ReportsNavigationAt access.node ↔
      (∀ outer ∈ context.symbols.foreignAccesses, outer.receiver ≠ some access.node) ∧
        access.root.isSome = true ∧
        ¬ Float.ofNat access.depth < context.threshold minNavigationLength := by
  have isEnd :
      access.isChainEnd = true ↔
        ∀ outer ∈ context.symbols.foreignAccesses, outer.receiver ≠ some access.node := by
    rw [isResolved] at member ⊢
    exact Symbols.isChainEnd_iff member
  rw [← isEnd]
  constructor
  · intro reported
    rcases exists_access_of_reportsNavigationAt wellFormed isResolved reported with
      ⟨found, isFound, sameNode, isReported⟩
    rw [isResolved] at member isFound
    rwa [List.inj_on_of_nodup_map (Symbols.nodup_foreignAccesses wellFormed) isFound member
      sameNode] at isReported
  · intro isReported
    rw [isResolved] at member
    rcases Symbols.exists_node_of_foreignAccess member with
      ⟨node, nodeMember, isMember, sameNode, _⟩
    refine ⟨node, (wellFormed.mem_descendants_iff.mp nodeMember).1, sameNode.symm,
      exists_violation_iff.mpr ⟨isMember, access, ?_, isReported⟩⟩
    rw [isResolved]
    exact ((Symbols.accessesAgree_resolve wellFormed).accessAt _ _).mpr ⟨member, sameNode⟩

/-- Nothing is reported for an access that another one of its chain goes through. -/
theorem not_reportsNavigationAt_of_mem_rest {head inner : Symbols.ForeignAccess}
    {rest : List Symbols.ForeignAccess}
    (isChain : Symbols.ReceiverChain context.symbols.foreignAccesses (head :: rest))
    (later : inner ∈ rest) :
    ¬ context.ReportsNavigationAt inner.node := by
  intro reported
  rcases isChain.exists_outer later with ⟨outer, isListed, through⟩
  have member := isChain.mem_accesses (List.mem_cons_of_mem head later)
  exact ((reportsNavigationAt_iff wellFormed isResolved member).mp reported).1 outer isListed
    through

/-- What is reported of a chain is its first access. -/
theorem exists_eq_cons_of_reportsNavigationAt {chain : List Symbols.ForeignAccess}
    {access : Symbols.ForeignAccess}
    (isChain : Symbols.ReceiverChain context.symbols.foreignAccesses chain)
    (member : access ∈ chain)
    (reported : context.ReportsNavigationAt access.node) :
    ∃ rest, chain = access :: rest := by
  cases chain with
  | nil => cases member
  | cons head rest =>
      rcases List.mem_cons.mp member with rfl | later
      · exact ⟨rest, rfl⟩
      · exact absurd reported
          (not_reportsNavigationAt_of_mem_rest wellFormed isResolved isChain later)

theorem Context.reportsOutermost
    (records : context.symbols.RecordsLinks) :
    context.ReportsOutermost where
  atMostOne := evaluate_transitiveNavigation context
  onlyAccesses id reported := by
    rcases exists_access_of_reportsNavigationAt wellFormed isResolved reported with
      ⟨access, member, sameNode, _⟩
    exact ⟨access, member, sameNode⟩
  reported_iff _ member := reportsNavigationAt_iff wellFormed isResolved member
  onlyFirst _ _ isChain _ later :=
    not_reportsNavigationAt_of_mem_rest wellFormed isResolved isChain later
  onePerChain left right leftChain rightChain shared inLeft inRight first isFirst second isSecond
      firstReported secondReported := by
    have isEnd {access : Symbols.ForeignAccess} {chain : List Symbols.ForeignAccess}
        (isChain : Symbols.ReceiverChain context.symbols.foreignAccesses chain)
        (member : access ∈ chain) (reported : context.ReportsNavigationAt access.node) :=
      ((reportsNavigationAt_iff wellFormed isResolved (isChain.mem_accesses member)).mp reported).1
    have firstIsEnd := isEnd leftChain isFirst firstReported
    have secondIsEnd := isEnd rightChain isSecond secondReported
    rcases exists_eq_cons_of_reportsNavigationAt wellFormed isResolved leftChain isFirst
      firstReported with ⟨leftRest, rfl⟩
    rcases exists_eq_cons_of_reportsNavigationAt wellFormed isResolved rightChain isSecond
      secondReported with ⟨rightRest, rfl⟩
    exact records.head_unique leftChain rightChain inLeft inRight firstIsEnd secondIsEnd

end Outermost

end Rule

/--
In every model that ingestion accepts and that marks nothing but expressions as such, each
member access to an object that is not the current one is listed, link by link; chains of them count
down to one step, and the rule on navigation reports the outermost access of a chain at most.
-/
theorem Model.ingest_recordsAccessChains
    (path : SourcePath)
    (root : NodeId)
    (nodes : List Node)
    (lineCount : Option UInt32)
    (model : Model)
    (accepted : Model.ingest path root nodes lineCount = .ok model)
    (onlyExpressions :
      ∀ node ∈ model.nodes, node.expression.isSome = true → node.kind = .expression) :
    (∀ node ∈ model.nodes, node.isExpression .member = true →
        ((∃ access ∈ (Symbols.resolve model).foreignAccesses, access.node = node.id) ↔
          ∀ access ∈ (Symbols.resolve model).fieldAccesses, access.node ≠ node.id)) ∧
      (Symbols.resolve model).RecordsLinks ∧
      (∀ access ∈ (Symbols.resolve model).foreignAccesses,
        ∃ rest, Symbols.ReceiverChain (Symbols.resolve model).foreignAccesses (access :: rest)) ∧
      (∀ chain, Symbols.ReceiverChain (Symbols.resolve model).foreignAccesses chain →
        chain.map Symbols.ForeignAccess.depth = (List.range' 1 chain.length).reverse) ∧
      ∀ context : Rule.Context,
        context.model = model → context.symbols = Symbols.resolve model →
          context.ReportsOutermost := by
  have wellFormed := IsWellFormed.of_ingest accepted
  have records := Symbols.recordsLinks_resolve wellFormed onlyExpressions
  refine ⟨fun _ member => Symbols.exists_foreignAccess_iff wellFormed member, records,
    fun _ member => records.exists_chain member, fun _ isChain => records.depths_of_chain isChain,
    ?_⟩
  rintro context rfl isResolved
  exact Rule.Context.reportsOutermost wellFormed isResolved (isResolved ▸ records)

/-- A module with a function that reaches a city through the address of the customer of an order. -/
def reachingModule : Model :=
  let lines (startLine endLine : UInt32) : Span :=
    { startLine, startCol := 1, endLine, endCol := 9 }
  .linked
    { path := { text := "reaching.ir.json" }
      root := { index := 0 }
      lineCount := some 12
      nodes :=
        [{ id := { index := 0 }, kind := .module, span := lines 1 12
           children := [{ index := 1 }] },
          { id := { index := 1 }, kind := .function, span := lines 2 12, name := some "ship"
            children := [{ index := 2 }, { index := 3 }] },
          { id := { index := 2 }, kind := .parameter, span := lines 2 2, name := some "order" },
          { id := { index := 3 }, kind := .statement, span := lines 3 12, statement := some .block
            children := [{ index := 4 }] },
          { id := { index := 4 }, kind := .statement, span := lines 4 12
            statement := some .expression, children := [{ index := 5 }] },
          { id := { index := 5 }, kind := .expression, span := lines 5 12, expression := some .call
            children := [{ index := 6 }] },
          { id := { index := 6 }, kind := .expression, span := lines 6 12
            expression := some .member, name := some "getCity", children := [{ index := 7 }] },
          { id := { index := 7 }, kind := .expression, span := lines 7 12, expression := some .call
            children := [{ index := 8 }] },
          { id := { index := 8 }, kind := .expression, span := lines 8 12
            expression := some .member, name := some "getAddress", children := [{ index := 9 }] },
          { id := { index := 9 }, kind := .expression, span := lines 9 12, expression := some .call
            children := [{ index := 10 }] },
          { id := { index := 10 }, kind := .expression, span := lines 10 12
            expression := some .member, name := some "getCustomer", children := [{ index := 11 }] },
          { id := { index := 11 }, kind := .identifier, span := lines 11 11
            name := some "order" }] }

/--
The three accesses form one chain, and only the last of them, which stands outermost, can be
reported.
-/
theorem reachingModule_recordsAccessChains :
    let accesses := (Symbols.resolve reachingModule).foreignAccesses
    Model.ingest reachingModule.path reachingModule.root reachingModule.nodes
        reachingModule.lineCount = .ok reachingModule ∧
      (∀ node ∈ reachingModule.nodes, node.expression.isSome = true → node.kind = .expression) ∧
      (Symbols.resolve reachingModule).RecordsLinks ∧
      accesses.map Symbols.ForeignAccess.node = [{ index := 6 }, { index := 8 }, { index := 10 }] ∧
      Symbols.ReceiverChain accesses accesses ∧
      accesses.map Symbols.ForeignAccess.depth = [3, 2, 1] ∧
      ∀ context : Rule.Context,
        context.model = reachingModule → context.symbols = Symbols.resolve reachingModule →
          ¬ context.ReportsNavigationAt { index := 8 } ∧
            ¬ context.ReportsNavigationAt { index := 10 } := by
  intro accesses
  have accepted :
      Model.ingest reachingModule.path reachingModule.root reachingModule.nodes
          reachingModule.lineCount =
        .ok reachingModule := rfl
  have onlyExpressions :
      ∀ node ∈ reachingModule.nodes, node.expression.isSome = true → node.kind = .expression := by
    decide
  rcases Model.ingest_recordsAccessChains _ _ _ _ reachingModule accepted onlyExpressions with
    ⟨_, records, _, countsDown, reports⟩
  have isChain : Symbols.ReceiverChain accesses accesses :=
    .link (List.mem_of_getElem? (i := 0) rfl) rfl
      (.link (List.mem_of_getElem? (i := 1) rfl) rfl
        (.start (List.mem_of_getElem? (i := 2) rfl) rfl))
  refine ⟨accepted, onlyExpressions, records, by decide, isChain, countsDown accesses isChain, ?_⟩
  intro context sameModel isResolved
  have inTable : Symbols.ReceiverChain context.symbols.foreignAccesses accesses := by
    rw [isResolved]
    exact isChain
  have onlyFirst := (reports context sameModel isResolved).onlyFirst _ accesses.tail inTable
  exact ⟨onlyFirst _ (List.mem_of_getElem? (i := 0) rfl),
    onlyFirst _ (List.mem_of_getElem? (i := 1) rfl)⟩

end StructuralLint
