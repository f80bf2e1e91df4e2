import StructuralLint.Proofs.ControlNesting
import StructuralLint.Proofs.LexicalScoping
import StructuralLint.Proofs.SymbolTable

/-!
# What the measures of a function look at

Literals and operators of a function are looked for in its own code.  Its calls are those of the
symbol table, which books a call to the innermost function around it, and so to the same function
also from inside a lambda or a class.  The two notions agree on own code, and differ exactly on what
a lambda or class encloses outside of further functions.

The abstraction distance of a function is therefore the number of families of low-level operations
in its own code, and one more where only enclosed code calls functions outside the model.  The other
measures are the same in every model in which the function has the same own code.
-/

namespace StructuralLint

namespace Model

/-- A node lies below a function, and in no function inside it. -/
structure IsInnermost (model : Model) (function : NodeId) (node : Node) : Prop where
  member : node ∈ model.nodes
  below : Relation.TransGen (ListsChild model.nodes) function node.id
  noFunction :
    ∀ between ∈ model.nodes,
      Relation.TransGen (ListsChild model.nodes) function between.id →
      Relation.TransGen (ListsChild model.nodes) between.id node.id →
        between.kind ≠ .function

/-- A node lies in a lambda or a class inside a function, and in no function inside it. -/
structure IsEnclosed (model : Model) (function : NodeId) (node : Node) : Prop
    extends IsInnermost model function node where
  enclosed :
    ∃ between ∈ model.nodes,
      (between.isExpression .lambda = true ∨ between.kind = .class) ∧
        Relation.TransGen (ListsChild model.nodes) function between.id ∧
        Relation.TransGen (ListsChild model.nodes) between.id node.id

/-! ## The innermost function -/

namespace IsWellFormed

variable {model : Model} (wellFormed : model.IsWellFormed)

include wellFormed

theorem isInnermost_child_iff {function parent node : Node}
    (isFunction : function ∈ model.nodesOfKind .function)
    (parentMember : parent ∈ model.nodes)
    (nodeMember : node ∈ model.nodes)
    (listed : node.id ∈ parent.children) :
    IsInnermost model function.id node ↔
      parent = function ∨ parent.kind ≠ .function ∧ IsInnermost model function.id parent := by
  rcases wellFormed.reachable_of_mem_functions isFunction with ⟨member, isKind, reachable⟩
  have toNode (above : NodeId) :
      Relation.TransGen (ListsChild model.nodes) above node.id ↔
        Reachable model.nodes above parent.id :=
    wellFormed.above_child_iff parentMember listed
  have throughParent {between : Node} (betweenMember : between ∈ model.nodes)
      (leads : Relation.TransGen (ListsChild model.nodes) between.id node.id) :
      between = parent ∨ Relation.TransGen (ListsChild model.nodes) between.id parent.id :=
    wellFormed.eq_or_below_of_reachable betweenMember parentMember ((toNode between.id).mp leads)
  constructor
  · rintro ⟨_, below, noFunction⟩
    rcases throughParent member below with rfl | properly
    · exact Or.inl rfl
    · exact Or.inr ⟨noFunction parent parentMember properly ((toNode parent.id).mpr .refl),
        parentMember, properly, fun between betweenMember fromFunction toParent =>
          noFunction between betweenMember fromFunction
            ((toNode between.id).mpr toParent.to_reflTransGen)⟩
  · rintro (rfl | ⟨notFunction, _, below, noFunction⟩)
    · refine ⟨nodeMember, (toNode parent.id).mpr .refl, ?_⟩
      intro between _ fromFunction leads
      exact absurd (fromFunction.trans_left ((toNode between.id).mp leads))
        (wellFormed.not_onCycle_of_reachable reachable)
    · refine ⟨nodeMember, (toNode function.id).mpr below.to_reflTransGen, ?_⟩
      intro between betweenMember fromFunction leads
      rcases throughParent betweenMember leads with rfl | toParent
      · exact notFunction
      · exact noFunction between betweenMember fromFunction toParent

/-- The nearest function on the walk up is the one that the node is innermost in. -/
theorem enclosing?_eq_some_iff {function node : Node}
    (isFunction : function ∈ model.nodesOfKind .function)
    (nodeMember : node ∈ model.nodes)
    (hangs : Reachable model.nodes model.root node.id) :
    model.enclosing? node.id .function = some function ↔ IsInnermost model function.id node := by
  generalize isId : node.id = id at hangs
  induction hangs generalizing node with
  | refl =>
      rw [enclosing?, wellFormed.ancestors_root]
      refine iff_of_false (Option.some_ne_none function).symm ?_
      rintro ⟨_, below, _⟩
      rw [isId] at below
      exact wellFormed.not_above_root function.id below
  | tail above listsChild induction =>
      rcases listsChild with ⟨parent, parentMember, rfl, listed⟩
      rw [Symbols.enclosing?_child wellFormed parentMember above listed]
      rw [← isId] at listed
      rw [wellFormed.isInnermost_child_iff isFunction parentMember nodeMember listed,
        ← induction parentMember rfl]
      by_cases isKind : parent.kind = .function
      · simp [isKind]
      · have different : parent ≠ function := by
          rintro rfl
          exact isKind (wellFormed.reachable_of_mem_functions isFunction).2.1
        simp [isKind, different]

/-- What is innermost in a function belongs to it or is enclosed in it. -/
theorem isInnermost_iff {function node : Node}
    (isFunction : function ∈ model.nodesOfKind .function)
    (isOpen : node.isCodeBoundary = false) :
    IsInnermost model function.id node ↔
      node ∈ model.ownCode function.id ∨ IsEnclosed model function.id node := by
  rcases wellFormed.reachable_of_mem_functions isFunction with ⟨member, _, reachable⟩
  rw [wellFormed.mem_ownCode_iff_isOwnCode member reachable]
  constructor
  · intro isInnermost
    by_cases isOwn : IsOwnCode model function.id node
    · exact Or.inl isOwn
    · right
      by_contra notEnclosed
      refine isOwn ⟨isInnermost.member, isInnermost.below, ?_⟩
      intro between betweenMember fromFunction leads
      rcases wellFormed.eq_or_below_of_reachable betweenMember isInnermost.member leads with
        isNode | properly
      · rwa [isNode]
      · have notFunction := isInnermost.noFunction between betweenMember fromFunction properly
        have notDivided :
            ¬ (between.isExpression .lambda = true ∨ between.kind = .class) := fun divides =>
          notEnclosed ⟨isInnermost, between, betweenMember, divides, fromFunction, properly⟩
        simpa [Node.isCodeBoundary, notFunction, and_comm] using notDivided
  · rintro (⟨nodeMember, below, undivided⟩ | isEnclosed)
    · refine ⟨nodeMember, below, ?_⟩
      intro between betweenMember fromFunction leads
      have notBoundary := undivided between betweenMember fromFunction leads.to_reflTransGen
      rintro isKind
      simp [Node.isCodeBoundary, isKind] at notBoundary
    · exact isEnclosed.toIsInnermost

end IsWellFormed

end Model

/-! ## Calls of functions outside the model -/

/-- A call is known by its name only. -/
def Symbols.Callee.isNamed : Symbols.Callee → Bool
  | .named _ => true
  | .resolved _ => false

namespace Metric

open Model Symbols

/-- A node is an operator or an access by index. -/
def isOperation (node : Node) : Bool :=
  node.isExpression .binary || node.isExpression .unary || node.isExpression .index

/-- A node is a call of something that is no function of the model. -/
def callsOut (table : Table) (node : Node) : Bool :=
  table.calls.any fun call => call.node == node.id && call.callee.isNamed

/-- The number of families of low-level operations among some nodes. -/
def familiesAmong (table : Table) (nodes : List Node) : Nat :=
  [nodes.any (·.kind == .literal), nodes.any isOperation, nodes.any (callsOut table)].count true

/-- A function encloses code that calls out, and its own code does not. -/
def OnlyEnclosedCallsOut (model : Model) (table : Table) (function : NodeId) : Prop :=
  (∃ node, IsEnclosed model function node ∧ callsOut table node = true) ∧
    ∀ node ∈ model.ownCode function, callsOut table node = false

section Distance

variable {model : Model} (wellFormed : model.IsWellFormed)

include wellFormed

/-- A call is booked to the innermost function around it. -/
theorem exists_node_of_call {call : Call}
    (member : call ∈ (resolve model).calls) :
    ∃ node ∈ model.nodes,
      Reachable model.nodes model.root node.id ∧ node.isExpression .call = true ∧
        call.node = node.id ∧ call.caller = (model.enclosing? node.id .function).map Node.id := by
  rw [calls_resolve] at member
  rcases List.mem_filterMap.mp member with ⟨node, nodeMember, found⟩
  rcases wellFormed.mem_descendants_iff.mp nodeMember with ⟨isNode, hangs⟩
  rcases callee_of_call? found with ⟨sameNode, isCaller, _⟩
  have isCall : node.isExpression .call = true := by
    rw [call?] at found
    split at found
    · assumption
    · cases found
  have isKind : node.kind = .expression := by
    rw [Node.isExpression, Bool.and_eq_true, beq_iff_eq] at isCall
    exact isCall.1
  have notRoot := wellFormed.ne_root_of_kind_ne_module isNode (by simp [isKind])
  exact ⟨node, isNode, hangs, isCall, sameNode,
    isCaller.trans
      ((enclosingFunction?_resolve node.id).symm.trans
        (resolve_places wellFormed nodeMember notRoot).2)⟩

theorem any_callsFrom_iff {function : Node}
    (isFunction : function ∈ model.nodesOfKind .function) :
    ((resolve model).callsFrom function.id).any (·.callee.isNamed) = true ↔
      ∃ node, (node ∈ model.ownCode function.id ∨ IsEnclosed model function.id node) ∧
        callsOut (resolve model) node = true := by
  have isOpen {node : Node} (isCall : node.isExpression .call = true) :
      node.isCodeBoundary = false := by
    rw [Node.isExpression, Bool.and_eq_true, beq_iff_eq, beq_iff_eq] at isCall
    simp [Node.isCodeBoundary, Node.isExpression, isCall]
  simp only [Table.callsFrom, callsOut, List.any_eq_true, List.mem_filter, Bool.and_eq_true,
    beq_iff_eq]
  constructor
  · rintro ⟨call, ⟨member, isCaller⟩, isNamed⟩
    rcases exists_node_of_call wellFormed member with
      ⟨node, isNode, hangs, isCall, sameNode, booked⟩
    rcases Option.map_eq_some_iff.mp (booked.symm.trans isCaller) with ⟨around, encloses, sameId⟩
    have same := wellFormed.eq_of_id_eq
      (mem_of_mem_ancestors (List.mem_of_find?_eq_some encloses))
      (wellFormed.reachable_of_mem_functions isFunction).1 sameId
    rw [same, wellFormed.enclosing?_eq_some_iff isFunction isNode hangs,
      wellFormed.isInnermost_iff isFunction (isOpen isCall)] at encloses
    exact ⟨node, encloses, call, member, sameNode, isNamed⟩
  · rintro ⟨node, within, call, member, sameNode, isNamed⟩
    rcases exists_node_of_call wellFormed member with
      ⟨other, isOther, hangs, isCall, isNode, booked⟩
    have nodeMember : node ∈ model.nodes :=
      within.elim mem_of_mem_ownCode fun isEnclosed => isEnclosed.member
    have same := wellFormed.eq_of_id_eq isOther nodeMember (isNode.symm.trans sameNode)
    subst same
    rw [← wellFormed.isInnermost_iff isFunction (isOpen isCall),
      ← wellFormed.enclosing?_eq_some_iff isFunction isOther hangs] at within
    refine ⟨call, ⟨member, ?_⟩, isNamed⟩
    rw [booked, within, Option.map_some]

/-- The distance of a function counts the families in its own code, and calls from enclosed code. -/
theorem abstractionDistanceOf_eq {function : Node}
    (isFunction : function ∈ model.nodesOfKind .function) :
    (OnlyEnclosedCallsOut model (resolve model) function.id →
        abstractionDistanceOf model (resolve model) function.id =
          familiesAmong (resolve model) (model.ownCode function.id) + 1) ∧
      (¬ OnlyEnclosedCallsOut model (resolve model) function.id →
        abstractionDistanceOf model (resolve model) function.id =
          familiesAmong (resolve model) (model.ownCode function.id)) := by
  have fromFunction := any_callsFrom_iff wellFormed isFunction
  have families :
      abstractionDistanceOf model (resolve model) function.id =
        [(model.ownCode function.id).any (·.kind == .literal),
          (model.ownCode function.id).any isOperation,
          ((resolve model).callsFrom function.id).any (·.callee.isNamed)].count true := rfl
  rw [families, familiesAmong]
  constructor
  · rintro ⟨⟨node, isEnclosed, isOut⟩, noneOwn⟩
    have called := fromFunction.mpr ⟨node, Or.inr isEnclosed, isOut⟩
    have notOwn : (model.ownCode function.id).any (callsOut (resolve model)) = false := by
      rw [List.any_eq_false]
      intro own isOwn
      rw [noneOwn own isOwn]
      exact Bool.false_ne_true
    rw [called, notOwn]
    cases (model.ownCode function.id).any (·.kind == .literal) <;>
      cases (model.ownCode function.id).any isOperation <;> rfl
  · intro notOnly
    have agree :
        ((resolve model).callsFrom function.id).any (·.callee.isNamed) =
          (model.ownCode function.id).any (callsOut (resolve model)) := by
      rw [Bool.eq_iff_iff, fromFunction, List.any_eq_true]
      constructor
      · rintro ⟨node, isOwn | isEnclosed, isOut⟩
        · exact ⟨node, isOwn, isOut⟩
        · by_contra noneOwn
          refine notOnly ⟨⟨node, isEnclosed, isOut⟩, ?_⟩
          intro own isOwn
          rw [← Bool.not_eq_true]
          exact fun ownOut => noneOwn ⟨own, isOwn, ownOut⟩
      · rintro ⟨node, isOwn, isOut⟩
        exact ⟨node, Or.inl isOwn, isOut⟩
    rw [agree]

end Distance

end Metric

/-! ## Models that share the own code of a function -/

namespace Model

/-- Two models have a function with the same own code. -/
structure ShareOwnCode (left right : Model) (function : Node) : Prop where
  inLeft : function ∈ left.nodesOfKind .function
  inRight : function ∈ right.nodesOfKind .function
  same : left.ownCode function.id = right.ownCode function.id

theorem ShareOwnCode.symm {left right : Model} {function : Node}
    (share : ShareOwnCode left right function) :
    ShareOwnCode right left function :=
  ⟨share.inRight, share.inLeft, share.same.symm⟩

namespace ShareOwnCode

variable {left right : Model} {function : Node} (share : ShareOwnCode left right function)

include share

theorem mem_right {node : Node} (isOwn : node ∈ left.ownCode function.id) :
    node ∈ right.ownCode function.id :=
  share.same ▸ isOwn

section Left

variable (leftFormed : left.IsWellFormed)

include leftFormed

theorem mem_ownCode_of_mem_children {parent node : Node}
    (inCode : parent = function ∨ parent ∈ left.ownCode function.id)
    (member : node ∈ left.nodes)
    (listed : node.id ∈ parent.children)
    (isOpen : node.isCodeBoundary = false) :
    node ∈ left.ownCode function.id := by
  rcases leftFormed.reachable_of_mem_functions share.inLeft with ⟨isFunction, _, reachable⟩
  have parentMember : parent ∈ left.nodes := by
    rcases inCode with rfl | isOwn
    · exact isFunction
    · exact mem_of_mem_ownCode isOwn
  exact (leftFormed.mem_ownCode_child_iff isFunction reachable parentMember member listed).mpr
    ⟨isOpen, inCode⟩

theorem continuesChain {node : Node}
    (isOwn : node ∈ left.ownCode function.id)
    (continues : ContinuesChain left node) :
    ContinuesChain right node := by
  rcases continues with ⟨isIf, above, isAbove, third⟩
  rcases Duplication.mem_ifStatements_iff.mp isAbove with ⟨aboveMember, aboveIsIf⟩
  rcases leftFormed.reachable_of_mem_functions share.inLeft with ⟨member, isKind, reachable⟩
  rcases ((leftFormed.mem_ownCode_child_iff member reachable aboveMember (mem_of_mem_ownCode isOwn)
      (List.mem_of_getElem? third)).mp isOwn).2 with rfl | aboveOwn
  · simp [Node.isStatement, isKind] at aboveIsIf
  · exact ⟨isIf, above, Duplication.mem_ifStatements_iff.mpr
      ⟨mem_of_mem_ownCode (share.mem_right aboveOwn), aboveIsIf⟩, third⟩

theorem ownPath {node : Node} {path : List Node}
    (isPath : OwnPath left node path)
    (isOwn : node ∈ left.ownCode function.id) :
    OwnPath right node path ∧ ∀ passed ∈ path, passed ∈ left.ownCode function.id := by
  induction isPath with
  | stop isOpen => exact ⟨.stop isOpen, by simpa using isOwn⟩
  | @down node child path isOpen member listed rest induction =>
      have childOpen : child.isCodeBoundary = false := by
        cases rest with
        | stop childOpen => exact childOpen
        | down childOpen => exact childOpen
      have childOwn := share.mem_ownCode_of_mem_children leftFormed (Or.inr isOwn) member listed
        childOpen
      rcases induction childOwn with ⟨restPath, restOwn⟩
      exact ⟨.down isOpen (mem_of_mem_ownCode (share.mem_right childOwn)) listed restPath,
        List.forall_mem_cons.mpr ⟨isOwn, restOwn⟩⟩

end Left

variable (leftFormed : left.IsWellFormed)
  (rightFormed : right.IsWellFormed)

include leftFormed rightFormed

theorem nestingAlong_eq {path : List Node}
    (isOwn : ∀ passed ∈ path, passed ∈ left.ownCode function.id) :
    nestingAlong left path = nestingAlong right path := by
  apply List.countP_congr
  intro passed isPassed
  have passedOwn := isOwn passed isPassed
  have continues : ContinuesChain left passed ↔ ContinuesChain right passed :=
    ⟨share.continuesChain leftFormed passedOwn,
      share.symm.continuesChain rightFormed (share.mem_right passedOwn)⟩
  rw [decide_eq_true_iff, decide_eq_true_iff, Deepens, Deepens, continues]

theorem nestingDepthOf_le :
    Metric.nestingDepthOf left function.id ≤ Metric.nestingDepthOf right function.id := by
  rcases leftFormed.reachable_of_mem_functions share.inLeft with ⟨leftMember, _, _⟩
  rcases rightFormed.reachable_of_mem_functions share.inRight with ⟨rightMember, _, _⟩
  by_cases hasBody : ∃ body, IsBodyOf left function body
  · rcases hasBody with ⟨body, isBody⟩
    have isBlock := isBody.isBlock
    rw [Node.isStatement, Bool.and_eq_true, beq_iff_eq, beq_iff_eq] at isBlock
    have bodyOwn := share.mem_ownCode_of_mem_children leftFormed (Or.inl rfl) isBody.member
      (List.mem_of_getLast? isBody.last)
      (by simp [Node.isCodeBoundary, Node.isExpression, isBlock.1])
    have rightBody : IsBodyOf right function body :=
      ⟨mem_of_mem_ownCode (share.mem_right bodyOwn), isBody.last, isBody.isBlock⟩
    rcases (isGreatest_nestingDepthOf leftFormed leftMember isBody).1 with ⟨path, isPath, isDeep⟩
    rcases share.ownPath leftFormed isPath bodyOwn with ⟨rightPath, pathOwn⟩
    rw [isDeep, share.nestingAlong_eq leftFormed rightFormed pathOwn]
    exact (isGreatest_nestingDepthOf rightFormed rightMember rightBody).2 ⟨path, rightPath, rfl⟩
  · rw [nestingDepthOf_eq_zero leftFormed leftMember (not_exists.mp hasBody)]
    exact Nat.zero_le _

theorem parameters_eq : left.parameters function.id = right.parameters function.id := by
  have isFound {left right : Model} (share : ShareOwnCode left right function)
      (leftFormed : left.IsWellFormed)
      (rightFormed : right.IsWellFormed)
      {child : NodeId} (listed : child ∈ function.children) {node : Node}
      (found : left.node? child = some node ∧ (node.kind == .parameter) = true) :
      right.node? child = some node ∧ (node.kind == .parameter) = true := by
    rcases found with ⟨found, isParameter⟩
    rcases mem_of_node?_eq_some found with ⟨member, rfl⟩
    have isOwn := share.mem_ownCode_of_mem_children leftFormed (Or.inl rfl) member listed
      (by simp [Node.isCodeBoundary, Node.isExpression, beq_iff_eq.mp isParameter])
    exact ⟨exists_node?_eq_some rightFormed.distinctIds
      (mem_of_mem_ownCode (share.mem_right isOwn)), isParameter⟩
  rw [parameters, children, parameters, children,
    exists_node?_eq_some leftFormed.distinctIds
      (leftFormed.reachable_of_mem_functions share.inLeft).1,
    exists_node?_eq_some rightFormed.distinctIds
      (rightFormed.reachable_of_mem_functions share.inRight).1]
  simp only [List.filter_filterMap]
  apply List.filterMap_congr
  intro child listed
  apply Option.ext
  intro node
  rw [Option.filter_eq_some_iff, Option.filter_eq_some_iff]
  exact ⟨isFound share leftFormed rightFormed listed,
    isFound share.symm rightFormed leftFormed listed⟩

/-- Measures other than the distance depend on own code alone. -/
theorem get?_eq {leftTable rightTable : Symbols.Table} {leftMetrics rightMetrics : Metrics}
    {metric : Metric}
    (leftMeasured : Metrics.ofModel left leftTable = .ok leftMetrics)
    (rightMeasured : Metrics.ofModel right rightTable = .ok rightMetrics)
    (notDistance : metric ≠ .abstractionDistance) :
    leftMetrics.get? function.id metric = rightMetrics.get? function.id metric := by
  have nesting :
      Metric.nestingDepthOf left function.id = Metric.nestingDepthOf right function.id :=
    Nat.le_antisymm (share.nestingDepthOf_le leftFormed rightFormed)
      (share.symm.nestingDepthOf_le rightFormed leftFormed)
  rcases Metrics.exists_lines_of_ofModel leftFormed.distinctIds leftMeasured share.inLeft with
    ⟨lines, counted, leftValues⟩
  rcases Metrics.exists_lines_of_ofModel rightFormed.distinctIds rightMeasured share.inRight with
    ⟨rightLines, rightCounted, rightValues⟩
  -- Both models count the lines of the same span.
  have sameLines : rightLines = lines := Except.ok.inj (rightCounted.symm.trans counted)
  rw [leftValues, rightValues, sameLines, Metric.ofLines, Metric.ofLines, share.same, nesting,
    share.parameters_eq leftFormed rightFormed]
  cases metric with
  | abstractionDistance => exact absurd rfl notDistance
  | lineCount | paramCount | nestingDepth | cyclomaticBranches | statementCount | methodCount
  | fieldCount => rfl

end ShareOwnCode

/--
In every model that ingestion accepts, the abstraction distance of a function is the number of
families of low-level operations in its own code, one more where only code in a lambda or a class
inside the function calls functions outside the model.  It is the measure of the function, and every
other measure is the same in all models that share the own code of the function; a model is measured
unless some function has too many lines to count.
-/
theorem ingest_measures_ownCode
    (path : SourcePath)
    (root : NodeId)
    (nodes : List Node)
    (lineCount : Option UInt32)
    (model : Model)
    (accepted : ingest path root nodes lineCount = .ok model) :
    (∀ function ∈ model.nodesOfKind .function,
      (Metric.OnlyEnclosedCallsOut model (Symbols.resolve model) function.id →
        Metric.abstractionDistanceOf model (Symbols.resolve model) function.id =
          Metric.familiesAmong (Symbols.resolve model) (model.ownCode function.id) + 1) ∧
      (¬ Metric.OnlyEnclosedCallsOut model (Symbols.resolve model) function.id →
        Metric.abstractionDistanceOf model (Symbols.resolve model) function.id =
          Metric.familiesAmong (Symbols.resolve model) (model.ownCode function.id)) ∧
      (∀ metrics, Metrics.ofModel model (Symbols.resolve model) = .ok metrics →
        metrics.get? function.id .abstractionDistance =
          some (Metric.abstractionDistanceOf model (Symbols.resolve model) function.id)) ∧
      ∀ otherPath otherRoot otherNodes otherCount other,
        ingest otherPath otherRoot otherNodes otherCount = .ok other →
        ShareOwnCode model other function →
        ∀ table otherTable metrics otherMetrics,
          Metrics.ofModel model table = .ok metrics →
          Metrics.ofModel other otherTable = .ok otherMetrics →
          ∀ metric ≠ .abstractionDistance,
            metrics.get? function.id metric = otherMetrics.get? function.id metric) ∧
    ((∀ function ∈ model.nodesOfKind .function, ¬ function.span.HasEveryLine) →
      ∀ table, ∃ metrics, Metrics.ofModel model table = .ok metrics) := by
  have wellFormed := IsWellFormed.of_ingest accepted
  refine ⟨fun function isFunction => ?_, fun countable _ =>
    Metrics.exists_ofModel_eq_ok_iff.mpr countable⟩
  rcases Metric.abstractionDistanceOf_eq wellFormed isFunction with ⟨whenOnly, otherwise⟩
  refine ⟨whenOnly, otherwise, ?_, ?_⟩
  · intro metrics measured
    rcases Metrics.exists_lines_of_ofModel wellFormed.distinctIds measured isFunction with
      ⟨lines, _, values⟩
    exact values .abstractionDistance
  · intro _ _ _ _ other otherAccepted share table otherTable metrics otherMetrics measured
      otherMeasured metric notDistance
    exact share.get?_eq wellFormed (IsWellFormed.of_ingest otherAccepted) measured otherMeasured
      notDistance

/--
A module whose only function evaluates a lambda over some deferred nodes, the first of which is
the body of the lambda.
-/
def deferringModule (deferred : List Node) : Model :=
  let lines (startLine endLine : UInt32) : Span :=
    { startLine, startCol := 1, endLine, endCol := 9 }
  .linked
    { path := { text := "deferring.ir.json" }
      root := { index := 0 }
      lineCount := some 7
      nodes :=
        [{ id := { index := 0 }, kind := .module, span := lines 1 7
           children := [{ index := 1 }] },
          { id := { index := 1 }, kind := .function, span := lines 2 7, name := some "run"
            children := [{ index := 2 }] },
          { id := { index := 2 }, kind := .statement, span := lines 3 7, statement := some .block
            children := [{ index := 3 }] },
          { id := { index := 3 }, kind := .statement, span := lines 4 7
            statement := some .expression, children := [{ index := 4 }] },
          { id := { index := 4 }, kind := .expression, span := lines 5 7
            expression := some .lambda, children := (deferred.take 1).map Node.id }] ++ deferred }

/-- A call of a function that no module declares. -/
def deferredCall : List Node :=
  let lines (startLine endLine : UInt32) : Span :=
    { startLine, startCol := 1, endLine, endCol := 9 }
  [{ id := { index := 5 }, kind := .expression, span := lines 6 7, expression := some .call
     children := [{ index := 6 }] },
    { id := { index := 6 }, kind := .identifier, span := lines 7 7, name := some "print" }]

theorem deferringModule_shareOwnCode :
    ShareOwnCode (deferringModule deferredCall) (deferringModule [])
      (deferringModule deferredCall).nodes[1] := by
  let own := [(deferringModule deferredCall).nodes[2], (deferringModule deferredCall).nodes[3]]
  have deferringOwn : (deferringModule deferredCall).ownCode { index := 1 } = own := rfl
  have idleOwn : (deferringModule []).ownCode { index := 1 } = own := rfl
  exact ⟨List.mem_of_getElem? (i := 0) rfl, List.mem_of_getElem? (i := 0) rfl,
    deferringOwn.trans idleOwn.symm⟩

/--
The call inside the lambda counts for the function around it, although the function shares its own
code, which has no low-level operation at all, with one whose lambda is empty.
-/
theorem deferringModule_distance_changes :
    let deferring := deferringModule deferredCall
    let idle := deferringModule []
    let function := deferring.nodes[1]
    let distance (model : Model) :=
      (Metrics.ofModel model (Symbols.resolve model)).toOption.bind
        (·.get? function.id .abstractionDistance)
    ingest deferring.path deferring.root deferring.nodes deferring.lineCount = .ok deferring ∧
      ingest idle.path idle.root idle.nodes idle.lineCount = .ok idle ∧
      ShareOwnCode deferring idle function ∧
      Metric.familiesAmong (Symbols.resolve deferring) (deferring.ownCode function.id) = 0 ∧
      distance deferring = some 1 ∧
      distance idle = some 0 := by
  intro deferring idle function distance
  exact ⟨rfl, rfl, deferringModule_shareOwnCode, by decide, by decide, by decide⟩

theorem deferredCall_isEnclosed :
    IsEnclosed (deferringModule deferredCall) { index := 1 } deferredCall[0] := by
  let model := deferringModule deferredCall
  have accepted : ingest model.path model.root model.nodes model.lineCount = .ok model := rfl
  have wellFormed := IsWellFormed.of_ingest accepted
  have isChild (parent child : Node) (parentMember : parent ∈ model.nodes)
      (listed : child.id ∈ parent.children) : ListsChild model.nodes parent.id child.id :=
    ⟨parent, parentMember, rfl, listed⟩
  have toBlock := isChild model.nodes[1] model.nodes[2] (List.getElem_mem _) (by decide)
  have toStatement := isChild model.nodes[2] model.nodes[3] (List.getElem_mem _) (by decide)
  have toLambda := isChild model.nodes[3] model.nodes[4] (List.getElem_mem _) (by decide)
  have toCall := isChild model.nodes[4] model.nodes[5] (List.getElem_mem _) (by decide)
  have encloses : model.enclosing? model.nodes[5].id .function = some model.nodes[1] := rfl
  have isInnermost : IsInnermost model { index := 1 } model.nodes[5] :=
    (wellFormed.enclosing?_eq_some_iff deferringModule_shareOwnCode.inLeft (List.getElem_mem _)
      (wellFormed.reachable model.nodes[5] (List.getElem_mem _) nofun)).mp encloses
  exact ⟨isInnermost, model.nodes[4], List.getElem_mem _, Or.inl rfl,
    ((Relation.TransGen.single toBlock).tail toStatement).tail toLambda, .single toCall⟩

/--
The distance of the function is one more than its own code has families, and its other measures
are those of the function with the empty lambda.
-/
theorem deferringModule_measures_ownCode :
    let deferring := deferringModule deferredCall
    let idle := deferringModule []
    let function := deferring.nodes[1]
    let table := Symbols.resolve deferring
    let idleTable := Symbols.resolve idle
    ingest deferring.path deferring.root deferring.nodes deferring.lineCount = .ok deferring ∧
      Metric.OnlyEnclosedCallsOut deferring table function.id ∧
      ¬ Metric.OnlyEnclosedCallsOut idle idleTable function.id ∧
      ∃ metrics idleMetrics,
        Metrics.ofModel deferring table = .ok metrics ∧
          Metrics.ofModel idle idleTable = .ok idleMetrics ∧
          metrics.get? function.id .abstractionDistance =
            some (Metric.familiesAmong table (deferring.ownCode function.id) + 1) ∧
          idleMetrics.get? function.id .abstractionDistance =
            some (Metric.familiesAmong idleTable (idle.ownCode function.id)) ∧
          ∀ metric ≠ .abstractionDistance,
            metrics.get? function.id metric = idleMetrics.get? function.id metric := by
  intro deferring idle function table idleTable
  have accepted :
      ingest deferring.path deferring.root deferring.nodes deferring.lineCount = .ok deferring :=
    rfl
  have idleAccepted : ingest idle.path idle.root idle.nodes idle.lineCount = .ok idle := rfl
  have share : ShareOwnCode deferring idle function := deferringModule_shareOwnCode
  rcases ingest_measures_ownCode _ _ _ _ deferring accepted with ⟨distances, measurable⟩
  rcases ingest_measures_ownCode _ _ _ _ idle idleAccepted with ⟨idleDistances, idleMeasurable⟩
  rcases distances function share.inLeft with ⟨whenOnly, _, isDistance, agree⟩
  rcases idleDistances function share.inRight with ⟨_, otherwise, isIdleDistance, _⟩
  rcases measurable (by decide) table with ⟨metrics, measured⟩
  rcases idleMeasurable (by decide) idleTable with ⟨idleMetrics, idleMeasured⟩
  have only : Metric.OnlyEnclosedCallsOut deferring table function.id :=
    ⟨⟨deferring.nodes[5], deferredCall_isEnclosed, by decide⟩, by decide⟩
  have notOnly : ¬ Metric.OnlyEnclosedCallsOut idle idleTable function.id := by
    rintro ⟨⟨node, _, isOut⟩, _⟩
    exact nomatch isOut
  refine ⟨accepted, only, notOnly, metrics, idleMetrics, measured, idleMeasured, ?_, ?_, ?_⟩
  · rw [isDistance metrics measured, whenOnly only]
  · rw [isIdleDistance idleMetrics idleMeasured, otherwise notOnly]
  · exact agree _ _ _ _ idle idleAccepted share _ _ metrics idleMetrics measured idleMeasured

end Model

end StructuralLint
