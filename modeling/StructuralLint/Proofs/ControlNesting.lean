import Mathlib.Order.Bounds.Defs
import Mathlib.Order.MinMax
import StructuralLint.Proofs.IfChains
import StructuralLint.Proofs.OwnCode

/-!
# How deep control statements nest

The nesting of a function is the greatest number of control statements on a path down from its body,
where paths stop before functions, classes and lambdas, and an `if` that continues a chain of
alternatives does not count.

The walk carries the number so far and a flag for the continued chain.  At every node the flag says
what the tree says, because an id stands at one position of one list of children; so the number that
the walk carries is the one of the path to the node, whatever mixture of loops, selections and
alternatives the path goes through.
-/

namespace StructuralLint

/-- The greatest of a start and some numbers. -/
theorem isGreatest_foldl_max (depths : List Nat) (start : Nat) :
    IsGreatest {deep | deep = start ∨ deep ∈ depths} (depths.foldl max start) := by
  induction depths generalizing start with
  | nil => exact ⟨Or.inl rfl, fun _ isDeep => isDeep.elim Nat.le_of_eq nofun⟩
  | cons first rest induction =>
      rcases induction (max start first) with ⟨attained, bounds⟩
      rw [List.foldl_cons]
      have greatest : max start first ≤ rest.foldl max (max start first) := bounds (Or.inl rfl)
      constructor
      · rcases attained with isMax | inRest
        · rcases max_choice start first with isStart | isFirst
          · exact Or.inl (isMax.trans isStart)
          · exact Or.inr (List.mem_cons.mpr (Or.inl (isMax.trans isFirst)))
        · exact Or.inr (List.mem_cons_of_mem _ inRest)
      · rintro deep (rfl | isDeep)
        · exact (le_max_left _ _).trans greatest
        · rcases List.mem_cons.mp isDeep with rfl | inRest
          · exact (le_max_right _ _).trans greatest
          · exact bounds (Or.inr inRest)

namespace Model

/-- A block is the last child of a function. -/
structure IsBodyOf (model : Model) (function body : Node) : Prop where
  member : body ∈ model.nodes
  last : function.children.getLast? = some body.id
  isBlock : body.isStatement .block = true

/-- A path down from a node through child lists, on which nothing starts code of its own. -/
inductive OwnPath (model : Model) : Node → List Node → Prop where
  | stop {node : Node}
      (isOpen : node.isCodeBoundary = false) :
      OwnPath model node [node]
  | down {node child : Node} {path : List Node}
      (isOpen : node.isCodeBoundary = false)
      (member : child ∈ model.nodes)
      (listed : child.id ∈ node.children)
      (rest : OwnPath model child path) :
      OwnPath model node (node :: path)

/-- An `if` stands third among the children of another. -/
def ContinuesChain (model : Model) (node : Node) : Prop :=
  node.isStatement .ifElse = true ∧
    ∃ above ∈ Duplication.ifStatements model, above.children[2]? = some node.id

instance (model : Model) (node : Node) : Decidable (ContinuesChain model node) :=
  inferInstanceAs (Decidable (_ ∧ _))

/-- A control statement is nested one deeper than what is around it. -/
def Deepens (model : Model) (node : Node) : Prop :=
  node.isControl = true ∧ ¬ ContinuesChain model node

instance (model : Model) (node : Node) : Decidable (Deepens model node) :=
  inferInstanceAs (Decidable (_ ∧ _))

/--
How deep the end of a path is nested: the control statements on the path, without those that
continue a chain.
-/
def nestingAlong (model : Model) (path : List Node) : Nat :=
  path.countP fun node => Deepens model node

/-! ## Paths -/

section Paths

variable {model : Model}

theorem nestingAlong_cons (node : Node) (path : List Node) :
    nestingAlong model (node :: path) = nestingAlong model [node] + nestingAlong model path := by
  rw [← List.singleton_append, nestingAlong, List.countP_append]
  rfl

theorem OwnPath.exists_atDepth {node : Node} {path : List Node}
    (isPath : OwnPath model node path)
    (member : node ∈ model.nodes) :
    ∃ depth last,
      path.length = depth + 1 ∧ path.getLast? = some last ∧
        AtDepth model.nodes node.id depth last.id := by
  induction isPath with
  | @stop node isOpen => exact ⟨0, node, rfl, rfl, .root⟩
  | @down node child path isOpen childMember listed rest induction =>
      rcases induction childMember with ⟨depth, last, length, isLast, chain⟩
      refine ⟨depth + 1, last, by rw [List.length_cons, length], ?_, ?_⟩
      · rw [List.getLast?_cons, isLast, Option.getD_some]
      · exact atDepth_succ_iff.mpr ⟨child.id, ⟨node, member, rfl, listed⟩, chain⟩

variable (wellFormed : model.IsWellFormed)

include wellFormed

theorem OwnPath.length_le {node : Node} {path : List Node}
    (isPath : OwnPath model node path)
    (member : node ∈ model.nodes)
    (reachable : Reachable model.nodes model.root node.id) :
    path.length ≤ model.nodes.length := by
  rcases isPath.exists_atDepth member with ⟨depth, _, length, _, chain⟩
  have bounded := chain.lt_length_of_no_cycle wellFormed.nonempty wellFormed.children_mem_ids
    fun passed reached _ => wellFormed.no_cycle_below reachable passed reached
  omega

/-- Only one path leads to a node. -/
theorem OwnPath.unique {node : Node} {first second : List Node}
    (isFirst : OwnPath model node first)
    (isSecond : OwnPath model node second)
    (member : node ∈ model.nodes)
    (reachable : Reachable model.nodes model.root node.id)
    (sameEnd : first.getLast? = second.getLast?) :
    first = second := by
  -- A path that goes on does not come back to where it starts.
  have goesOn {node child : Node} {path : List Node}
      (member : node ∈ model.nodes)
      (reachable : Reachable model.nodes model.root node.id)
      (childMember : child ∈ model.nodes)
      (listed : child.id ∈ node.children)
      (rest : OwnPath model child path) :
      (node :: path).getLast? ≠ some node := by
    rcases rest.exists_atDepth childMember with ⟨_, last, _, isLast, chain⟩
    rw [List.getLast?_cons, isLast, Option.getD_some, ne_eq, Option.some_inj]
    rintro rfl
    exact wellFormed.not_onCycle_of_reachable reachable
      (Relation.TransGen.head' ⟨last, member, rfl, listed⟩ chain.reachable)
  induction isFirst generalizing second with
  | stop isOpen =>
      cases isSecond with
      | stop => rfl
      | down _ childMember listed rest =>
          exact absurd sameEnd.symm (goesOn member reachable childMember listed rest)
  | @down node child path isOpen childMember listed rest induction =>
      cases isSecond with
      | stop => exact absurd sameEnd (goesOn member reachable childMember listed rest)
      | @down _ other otherPath _ otherMember otherListed otherRest =>
          rcases rest.exists_atDepth childMember with ⟨_, last, _, isLast, chain⟩
          rcases otherRest.exists_atDepth otherMember with ⟨_, otherLast, _, isOther, otherChain⟩
          have restSame : path.getLast? = otherPath.getLast? := by
            simpa [List.getLast?_cons, isLast, isOther] using sameEnd
          rw [isLast, isOther, Option.some_inj] at restSame
          subst restSame
          have listsChild {below : Node} (belowListed : below.id ∈ node.children) :
              ListsChild model.nodes node.id below.id := ⟨node, member, rfl, belowListed⟩
          have sameChild := wellFormed.disjoint_subtrees reachable (listsChild listed)
            (listsChild otherListed) chain.reachable otherChain.reachable
          have same := wellFormed.eq_of_id_eq childMember otherMember sameChild
          subst same
          rw [induction otherRest childMember (reachable.tail (listsChild listed))
            (isLast.trans isOther.symm)]

/-- At a child, the flag of the walk says whether the child continues a chain. -/
theorem continuesChain_iff {parent child : Node} {index : Nat}
    (parentMember : parent ∈ model.nodes)
    (childMember : child ∈ model.nodes)
    (atIndex : parent.children[index]? = some child.id) :
    Metric.continuesChain model parent index child.id = true ↔ ContinuesChain model child := by
  rw [Metric.continuesChain, exists_node?_eq_some wellFormed.distinctIds childMember,
    Option.any_some, Bool.and_eq_true, Bool.and_eq_true, beq_iff_eq, ContinuesChain]
  constructor
  · rintro ⟨⟨isIf, rfl⟩, childIsIf⟩
    exact ⟨childIsIf, parent, Duplication.mem_ifStatements_iff.mpr ⟨parentMember, isIf⟩, atIndex⟩
  · rintro ⟨childIsIf, above, isAbove, third⟩
    rcases Duplication.mem_ifStatements_iff.mp isAbove with ⟨aboveMember, isIf⟩
    have same := eq_of_mem_children wellFormed.childrenOnce aboveMember parentMember
      (List.mem_of_getElem? third) (List.mem_of_getElem? atIndex)
    subst same
    refine ⟨⟨isIf, ?_⟩, childIsIf⟩
    rcases List.getElem?_eq_some_iff.mp atIndex with ⟨bound, isChild⟩
    rcases List.getElem?_eq_some_iff.mp third with ⟨thirdBound, isThird⟩
    exact (wellFormed.nodup_children parentMember).getElem_inj_iff.mp (isChild.trans isThird.symm)

end Paths

end Model

/-! ## The walk -/

namespace Metric

open Model

section Walk

variable {model : Model}

theorem nestingWithin_succ {levels depth : Nat} {chained : Bool} {node : Node}
    (found : model.node? node.id = some node)
    (isOpen : node.isCodeBoundary = false)
    (flag : chained = true ↔ ContinuesChain model node) :
    nestingWithin model (levels + 1) depth chained node.id =
      (node.children.zipIdx.map fun (child, index) =>
          nestingWithin model levels (depth + nestingAlong model [node])
            (continuesChain model node index child) child).foldl
        max (depth + nestingAlong model [node]) := by
  have deeper :
      (if !chained && node.isControl then depth + 1 else depth) =
        depth + nestingAlong model [node] := by
    rw [nestingAlong, List.countP_singleton]
    by_cases continues : ContinuesChain model node
    · simp [Deepens, continues, flag.mpr continues]
    · have notChained : chained = false := by
        rw [← Bool.not_eq_true, flag]
        exact continues
      cases isControl : node.isControl <;> simp [Deepens, continues, notChained, isControl]
  rw [nestingWithin, found]
  simp only [isOpen, Bool.false_eq_true, if_false, deeper]

variable (wellFormed : model.IsWellFormed)

include wellFormed

theorem exists_child_of_mem_zipIdx {node : Node} {childId : NodeId} {index : Nat}
    (member : node ∈ model.nodes)
    (isChild : (childId, index) ∈ node.children.zipIdx) :
    ∃ child ∈ model.nodes, child.id = childId ∧ node.children[index]? = some child.id := by
  have atIndex := List.mem_zipIdx_iff_getElem?.mp isChild
  rcases wellFormed.childrenExist node member childId (List.mem_of_getElem? atIndex) with
    ⟨child, childMember, rfl⟩
  exact ⟨child, childMember, rfl, atIndex⟩

/-- The walk finds no less than what is on any path it can follow. -/
theorem le_nestingWithin {levels depth : Nat} {chained : Bool} {node : Node} {path : List Node}
    (isPath : OwnPath model node path)
    (member : node ∈ model.nodes)
    (flag : chained = true ↔ ContinuesChain model node)
    (short : path.length ≤ levels) :
    depth + nestingAlong model path ≤ nestingWithin model levels depth chained node.id := by
  induction isPath generalizing levels depth chained with
  | @stop node isOpen =>
      cases levels with
      | zero => simp at short
      | succ levels =>
          rw [nestingWithin_succ (exists_node?_eq_some wellFormed.distinctIds member) isOpen flag]
          exact (isGreatest_foldl_max _ _).2 (Or.inl rfl)
  | @down node child path isOpen childMember listed rest induction =>
      cases levels with
      | zero => simp at short
      | succ levels =>
          rcases List.mem_iff_getElem?.mp listed with ⟨index, atIndex⟩
          have below :
              depth + nestingAlong model [node] + nestingAlong model path ≤
                nestingWithin model levels (depth + nestingAlong model [node])
                  (continuesChain model node index child.id) child.id :=
            induction childMember (continuesChain_iff wellFormed member childMember atIndex)
              (Nat.le_of_succ_le_succ short)
          rw [nestingWithin_succ (exists_node?_eq_some wellFormed.distinctIds member) isOpen flag]
          calc depth + nestingAlong model (node :: path)
            _ = depth + nestingAlong model [node] + nestingAlong model path := by
              rw [nestingAlong_cons, Nat.add_assoc]
            _ ≤ _ := below
            _ ≤ _ := (isGreatest_foldl_max _ _).2 (Or.inr (List.mem_map.mpr
              ⟨(child.id, index), List.mem_zipIdx_iff_getElem?.mpr atIndex, rfl⟩))

/-- What the walk finds is on some path, unless it finds nothing. -/
theorem nestingWithin_eq_zero_or_exists_path {levels depth : Nat} {chained : Bool} {node : Node}
    (member : node ∈ model.nodes)
    (flag : chained = true ↔ ContinuesChain model node) :
    nestingWithin model levels depth chained node.id = 0 ∨
      ∃ path, OwnPath model node path ∧
        nestingWithin model levels depth chained node.id =
          depth + nestingAlong model path := by
  induction levels generalizing depth chained node with
  | zero => exact Or.inl rfl
  | succ levels induction =>
      have found := exists_node?_eq_some wellFormed.distinctIds member
      cases isOpen : node.isCodeBoundary with
      | true =>
          left
          rw [nestingWithin, found]
          simp [isOpen]
      | false =>
          right
          rw [nestingWithin_succ found isOpen flag]
          rcases isGreatest_foldl_max
              (node.children.zipIdx.map fun (child, index) =>
                nestingWithin model levels (depth + nestingAlong model [node])
                  (continuesChain model node index child) child)
              (depth + nestingAlong model [node]) with
            ⟨isStart | isChild, bounds⟩
          · exact ⟨[node], .stop isOpen, isStart⟩
          · rcases List.mem_map.mp isChild with ⟨⟨childId, index⟩, isEntry, isDeep⟩
            rcases exists_child_of_mem_zipIdx wellFormed member isEntry with
              ⟨child, childMember, rfl, atIndex⟩
            rw [← isDeep]
            rcases induction childMember
                (continuesChain_iff wellFormed member childMember atIndex) with
              isZero | ⟨path, isPath, isCount⟩
            · -- Nothing is found below the child, and the walk finds no less at the node itself.
              refine ⟨[node], .stop isOpen, ?_⟩
              have least := bounds (Or.inl rfl)
              have isLeast := isDeep.symm.trans isZero
              omega
            · refine ⟨node :: path, .down isOpen childMember (List.mem_of_getElem? atIndex) isPath,
                ?_⟩
              rw [nestingAlong_cons node path, ← Nat.add_assoc]
              exact isCount

end Walk

end Metric

/-! ## Functions -/

namespace Model

section Functions

variable {model : Model} (wellFormed : model.IsWellFormed)
  {function : Node} (member : function ∈ model.nodes)

include wellFormed member

theorem functionBody?_eq_some_iff {body : Node} :
    model.functionBody? function.id = some body ↔ IsBodyOf model function body := by
  simp only [functionBody?, exists_node?_eq_some wellFormed.distinctIds member,
    Option.bind_eq_bind, Option.bind_some, Option.bind_eq_some_iff, Option.guard_eq_some_iff,
    node?_eq_some_iff wellFormed.distinctIds]
  constructor
  · rintro ⟨last, isLast, found, ⟨foundMember, rfl⟩, rfl, isBlock⟩
    exact ⟨foundMember, isLast, isBlock⟩
  · rintro ⟨bodyMember, isLast, isBlock⟩
    exact ⟨body.id, isLast, body, ⟨bodyMember, rfl⟩, rfl, isBlock⟩

/-- A function without a body nests nothing. -/
theorem nestingDepthOf_eq_zero
    (noBody : ∀ body, ¬ IsBodyOf model function body) :
    Metric.nestingDepthOf model function.id = 0 := by
  have notFound : model.functionBody? function.id = none := by
    rw [Option.eq_none_iff_forall_ne_some]
    intro body found
    exact noBody body ((functionBody?_eq_some_iff wellFormed member).mp found)
  rw [Metric.nestingDepthOf, notFound]

/-- The nesting of a function is that of the deepest path from its body. -/
theorem isGreatest_nestingDepthOf {body : Node}
    (isBody : IsBodyOf model function body) :
    IsGreatest {deep | ∃ path, OwnPath model body path ∧ deep = nestingAlong model path}
      (Metric.nestingDepthOf model function.id) := by
  have isStatement : body.kind = .statement ∧ body.statement = some .block := by
    simpa [Node.isStatement] using isBody.isBlock
  have isOpen : body.isCodeBoundary = false := by
    simp [Node.isCodeBoundary, Node.isExpression, isStatement.1]
  -- A block is no `if`, so it continues no chain wherever it stands.
  have flag : false = true ↔ ContinuesChain model body := by
    simp [ContinuesChain, Node.isStatement, isStatement.2]
  have reachable : Reachable model.nodes model.root body.id :=
    wellFormed.reachable body isBody.member (by simp [isStatement.1])
  have bounds (path : List Node) (isPath : OwnPath model body path) :
      nestingAlong model path ≤ Metric.nestingWithin model model.nodes.length 0 false body.id := by
    have atMost :
        0 + nestingAlong model path ≤
          Metric.nestingWithin model model.nodes.length 0 false body.id :=
      Metric.le_nestingWithin wellFormed isPath isBody.member flag
        (isPath.length_le wellFormed isBody.member reachable)
    rwa [Nat.zero_add] at atMost
  rw [Metric.nestingDepthOf, (functionBody?_eq_some_iff wellFormed member).mpr isBody]
  constructor
  · have found :
        Metric.nestingWithin model model.nodes.length 0 false body.id = 0 ∨
          ∃ path, OwnPath model body path ∧
            Metric.nestingWithin model model.nodes.length 0 false body.id =
              0 + nestingAlong model path :=
      Metric.nestingWithin_eq_zero_or_exists_path wellFormed isBody.member flag
    rcases found with isZero | ⟨path, isPath, isDeep⟩
    · have least := bounds [body] (.stop isOpen)
      exact ⟨[body], .stop isOpen, by dsimp only; omega⟩
    · rw [Nat.zero_add] at isDeep
      exact ⟨path, isPath, isDeep⟩
  · rintro deep ⟨path, isPath, rfl⟩
    exact bounds path isPath

end Functions

/--
In every accepted model, the nesting of a function is zero if its last child is no block.  Otherwise
each node is reached from that block by one path at most that enters no function, class or lambda,
and the nesting is the greatest number of control statements on such a path, where an `if` that
stands third among the children of an `if` does not count.  It is the measure of the function; the
model is measured unless some function has too many lines to count.
-/
theorem ingest_nestingDepth_isGreatest
    (path : SourcePath)
    (root : NodeId)
    (nodes : List Node)
    (lineCount : Option UInt32)
    (model : Model)
    (accepted : ingest path root nodes lineCount = .ok model)
    (table : Symbols.Table) :
    (∀ function ∈ model.nodesOfKind .function,
      ((∀ body, ¬ IsBodyOf model function body) →
        Metric.nestingDepthOf model function.id = 0) ∧
      (∀ body, IsBodyOf model function body →
        (∀ first second, OwnPath model body first → OwnPath model body second →
          first.getLast? = second.getLast? → first = second) ∧
        IsGreatest {deep | ∃ path, OwnPath model body path ∧ deep = nestingAlong model path}
          (Metric.nestingDepthOf model function.id)) ∧
      ∀ metrics, Metrics.ofModel model table = .ok metrics →
        metrics.get? function.id .nestingDepth =
          some (Metric.nestingDepthOf model function.id)) ∧
    ((∀ function ∈ model.nodesOfKind .function, ¬ function.span.HasEveryLine) →
      ∃ metrics, Metrics.ofModel model table = .ok metrics) := by
  have wellFormed := IsWellFormed.of_ingest accepted
  refine ⟨fun function isFunction => ?_, Metrics.exists_ofModel_eq_ok_iff.mpr⟩
  rcases wellFormed.reachable_of_mem_functions isFunction with ⟨member, isKind, _⟩
  refine ⟨nestingDepthOf_eq_zero wellFormed member, fun body isBody => ?_,
    fun metrics measured => ?_⟩
  · have notComment : body.kind ≠ .comment := by
      have isBlock := isBody.isBlock
      rw [Node.isStatement, Bool.and_eq_true, beq_iff_eq] at isBlock
      simp [isBlock.1]
    have reachable := wellFormed.reachable body isBody.member notComment
    refine ⟨?_, isGreatest_nestingDepthOf wellFormed member isBody⟩
    intro first second isFirst isSecond sameEnd
    exact isFirst.unique wellFormed isSecond isBody.member reachable sameEnd
  · rcases Metrics.exists_lines_of_ofModel wellFormed.distinctIds measured isFunction with
      ⟨lines, _, values⟩
    exact values .nestingDepth

/--
A module with a function that has no body, and one whose body is a loop over a chain of three
`if` statements, the last of which has a selection with a loop inside a lambda.
-/
def alternativesModule : Model :=
  let lines (startLine endLine : UInt32) : Span :=
    { startLine, startCol := 1, endLine, endCol := 9 }
  .linked
    { path := { text := "alternatives.ir.json" }
      root := { index := 0 }
      lineCount := some 14
      nodes :=
        [{ id := { index := 0 }, kind := .module, span := lines 1 14
           children := [{ index := 1 }, { index := 2 }] },
          { id := { index := 1 }, kind := .function, span := lines 1 1, name := some "declared" },
          { id := { index := 2 }, kind := .function, span := lines 2 14, name := some "run"
            children := [{ index := 3 }] },
          { id := { index := 3 }, kind := .statement, span := lines 2 14, statement := some .block
            children := [{ index := 4 }] },
          { id := { index := 4 }, kind := .statement, span := lines 3 14, statement := some .forLoop
            children := [{ index := 5 }] },
          { id := { index := 5 }, kind := .statement, span := lines 4 14, statement := some .ifElse
            children := [{ index := 6 }, { index := 7 }, { index := 8 }] },
          { id := { index := 6 }, kind := .identifier, span := lines 4 4, name := some "large" },
          { id := { index := 7 }, kind := .statement, span := lines 5 5, statement := some .block },
          { id := { index := 8 }, kind := .statement, span := lines 6 14, statement := some .ifElse
            children := [{ index := 9 }, { index := 10 }, { index := 11 }] },
          { id := { index := 9 }, kind := .identifier, span := lines 6 6, name := some "medium" },
          { id := { index := 10 }, kind := .statement, span := lines 7 7
            statement := some .block },
          { id := { index := 11 }, kind := .statement, span := lines 8 14, statement := some .ifElse
            children := [{ index := 12 }, { index := 13 }] },
          { id := { index := 12 }, kind := .identifier, span := lines 8 8, name := some "small" },
          { id := { index := 13 }, kind := .statement, span := lines 9 14, statement := some .block
            children := [{ index := 14 }] },
          { id := { index := 14 }, kind := .statement, span := lines 10 14
            statement := some .select, children := [{ index := 15 }] },
          { id := { index := 15 }, kind := .expression, span := lines 11 14
            expression := some .lambda, children := [{ index := 16 }] },
          { id := { index := 16 }, kind := .statement, span := lines 12 14
            statement := some .whileLoop }] }

/--
The loop, the first `if` and the selection are nested; the other two `if` statements are flat,
and the loop inside the lambda is not part of the function.
-/
theorem alternativesModule_nestingDepth_isGreatest :
    let body := alternativesModule.nodes[3]
    ingest alternativesModule.path alternativesModule.root alternativesModule.nodes
        alternativesModule.lineCount = .ok alternativesModule ∧
      (∀ other, ¬ IsBodyOf alternativesModule alternativesModule.nodes[1] other) ∧
      IsBodyOf alternativesModule alternativesModule.nodes[2] body ∧
      (∃ metrics,
        Metrics.ofModel alternativesModule (Symbols.resolve alternativesModule) = .ok metrics ∧
          metrics.get? { index := 1 } .nestingDepth = some 0 ∧
          metrics.get? { index := 2 } .nestingDepth = some 3) ∧
      IsGreatest
        {deep | ∃ path, OwnPath alternativesModule body path ∧
          deep = nestingAlong alternativesModule path}
        3 := by
  intro body
  have accepted :
      ingest alternativesModule.path alternativesModule.root alternativesModule.nodes
          alternativesModule.lineCount =
        .ok alternativesModule := rfl
  rcases ingest_nestingDepth_isGreatest _ _ _ _ alternativesModule accepted
      (Symbols.resolve alternativesModule) with
    ⟨nesting, measurable⟩
  have noBody (other : Node) : ¬ IsBodyOf alternativesModule alternativesModule.nodes[1] other :=
    fun isBody => nomatch isBody.last
  have isBody : IsBodyOf alternativesModule alternativesModule.nodes[2] body :=
    ⟨List.getElem_mem _, rfl, rfl⟩
  rcases nesting alternativesModule.nodes[1] (List.mem_of_getElem? (i := 0) rfl) with
    ⟨isZero, _, declaredMeasure⟩
  rcases nesting alternativesModule.nodes[2] (List.mem_of_getElem? (i := 1) rfl) with
    ⟨_, isGreatest, runMeasure⟩
  rcases measurable (by decide) with ⟨metrics, measured⟩
  have three : Metric.nestingDepthOf alternativesModule { index := 2 } = 3 := by decide
  refine ⟨accepted, noBody, isBody, ⟨metrics, measured, ?_, ?_⟩, ?_⟩
  · exact (declaredMeasure metrics measured).trans (congrArg some (isZero noBody))
  · exact (runMeasure metrics measured).trans (congrArg some three)
  · exact Eq.subst three (isGreatest body isBody).2

end Model

end StructuralLint
