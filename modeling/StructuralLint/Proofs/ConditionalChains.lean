import StructuralLint.Proofs.AlphaEquivalence
import StructuralLint.Proofs.PredicateText

/-!
# Identical conditional chains

Chains of alternatives and selections count as the same when the texts of their predicates are.
Identical predicates have the same text.  The converse needs more: a text shows kinds, operators,
names and literals of the nodes in pre-order, but neither numbers of children nor kinds of
expressions.  Where nodes that look the same in the text are the same, the pre-order of a predicate
can be read off the text, and in an accepted model it determines the subtree.
-/

namespace StructuralLint.Duplication

/-! ## Predicates by their roots -/

/-- The roots of the conditions of a chain of alternatives from a node on, for a number of links. -/
def conditionRoots? (model : Model) : Nat → Node → Option (List NodeId)
  | 0, _ => none
  | links + 1, node => do
    let condition ← model.child? node.id 0
    match model.child? node.id 2 with
    | some next =>
        if next.isStatement .ifElse then return condition.id :: (← conditionRoots? model links next)
        else return [condition.id]
    | none => return [condition.id]

/-- The roots of the labels of each case of a selection, in order. -/
def labelRoots (model : Model) (node : Node) : List (List NodeId) :=
  ((model.children node.id).filter (·.isStatement .case)).map fun case =>
    ((model.children case.id).filter fun child => !child.isStatement .block).map Node.id

/--
The predicates of a chain: conditions one by one, or the value of a selection followed by the
labels of its cases.
-/
structure PredicateRoots where
  tag : String
  groups : List (List NodeId)

/-- The predicates of the chain that starts at a node. -/
def predicateRoots? (model : Model) (node : Node) : Option PredicateRoots :=
  match if node.kind == .statement then node.statement else none with
  | some .ifElse => do
    guard (model.parent? node.id).isSome
    guard (!isAlternative model node)
    return { tag := "if", groups := (← conditionRoots? model model.nodes.length node).map ([·]) }
  | some .select => do
    let scrutinee ← model.child? node.id 0
    return { tag := "select", groups := [scrutinee.id] :: labelRoots model node }
  | _ => none

/-- The nodes of predicates, by groups. -/
def PredicateRoots.trees (model : Model) (roots : PredicateRoots) : List (List (List Node)) :=
  roots.groups.map (List.map model.descendants)

/-- The text that the key of a chain is computed from. -/
def PredicateRoots.text (model : Model) (roots : PredicateRoots) : String :=
  chainText (roots.tag :: (roots.trees model).map branchText)

/-- The text whose digest is the key of the chain that starts at a node. -/
def keyText? (model : Model) (node : Node) : Option String :=
  (predicates? model node).map fun predicates => chainText predicates.1

theorem conditions?_eq (model : Model) (links : Nat) (node : Node) :
    conditions? model links node =
      (conditionRoots? model links node).map (List.map (predicateText model)) := by
  induction links generalizing node with
  | zero => rfl
  | succ links induction =>
      simp only [conditions?, conditionRoots?, induction]
      cases model.child? node.id 0 with
      | none => rfl
      | some condition =>
          cases model.child? node.id 2 with
          | none => rfl
          | some next =>
              simp only [Option.bind_eq_bind, Option.bind_some]
              split
              · cases conditionRoots? model links next with
                | none => rfl
                | some rest => rfl
              · rfl

theorem caseLabels_eq (model : Model) (node : Node) :
    caseLabels model node = ((labelRoots model node).map (List.map model.descendants)).map
      branchText := by
  simp only [caseLabels, labelRoots, List.map_map]
  refine List.map_congr_left fun case _ => ?_
  simp only [Function.comp_def, branchText, List.map_map]
  rfl

/-- The texts of predicates, and how many of them are no branches. -/
theorem predicates?_eq (model : Model) (node : Node) :
    predicates? model node =
      (predicateRoots? model node).map fun roots =>
        (roots.tag :: (roots.trees model).map branchText, if roots.tag = "if" then 1 else 2) := by
  rw [predicates?, predicateRoots?]
  generalize (if node.kind == .statement then node.statement else none) = kind
  rcases kind with - | kind
  · rfl
  cases kind with
  | ifElse =>
      simp only [conditions?_eq]
      cases (model.parent? node.id).isSome
      · rfl
      cases isAlternative model node
      · cases conditionRoots? model model.nodes.length node with
        | none => rfl
        | some roots =>
            have texts :
                ((roots.map ([·])).map (List.map model.descendants)).map branchText =
                  roots.map (predicateText model) := by
              rw [List.map_map, List.map_map]
              rfl
            change some ("if" :: roots.map (predicateText model), 1) =
              some ("if" :: ((roots.map ([·])).map (List.map model.descendants)).map branchText, 1)
            rw [texts]
      · rfl
  | select =>
      simp only [caseLabels_eq]
      cases model.child? node.id 0 with
      | none => rfl
      | some scrutinee => rfl
  | _ => rfl

theorem keyText?_eq (model : Model) (node : Node) :
    keyText? model node = (predicateRoots? model node).map (PredicateRoots.text model) := by
  rw [keyText?, predicates?_eq, Option.map_map]
  rfl

/-- The key of a chain is the digest of its text, and its branches are counted by its predicates. -/
theorem exists_predicateRoots?_of_chain? {model : Model} {node : Node} {chain : Chain}
    (found : chain? model node = some chain) :
    ∃ roots, predicateRoots? model node = some roots ∧
      chain.key = Digest.ofText (roots.text model) ∧
      chain.branches = roots.groups.length + 1 - if roots.tag = "if" then 1 else 2 := by
  simp only [chain?, Option.bind_eq_bind, Option.bind_eq_some_iff] at found
  rcases found with ⟨predicates, isPredicates, owner, _, equal⟩
  rw [predicates?_eq, Option.map_eq_some_iff] at isPredicates
  rcases isPredicates with ⟨roots, isRoots, rfl⟩
  cases equal
  refine ⟨roots, isRoots, rfl, ?_⟩
  simp [PredicateRoots.trees]

/-! ## Roots of predicates hang from the root -/

theorem reachable_of_mem_conditionRoots {model : Model} {links : Nat} {node : Node}
    {roots : List NodeId}
    (found : conditionRoots? model links node = some roots)
    {id : NodeId}
    (member : id ∈ roots) :
    Model.Reachable model.nodes node.id id := by
  induction links generalizing node roots with
  | zero => cases found
  | succ links induction =>
      simp only [conditionRoots?, Option.bind_eq_bind, Option.bind_eq_some_iff] at found
      rcases found with ⟨condition, isCondition, isRoots⟩
      have conditionHangs : Model.Reachable model.nodes node.id condition.id :=
        .single (Model.listsChild_of_child?_eq_some isCondition)
      split at isRoots
      next next isNext =>
        split at isRoots
        · rcases Option.bind_eq_some_iff.mp isRoots with ⟨rest, isRest, equal⟩
          cases equal
          rcases List.mem_cons.mp member with rfl | later
          · exact conditionHangs
          · exact .head (Model.listsChild_of_child?_eq_some isNext) (induction isRest later)
        · cases isRoots
          rw [List.mem_singleton.mp member]
          exact conditionHangs
      next =>
        cases isRoots
        rw [List.mem_singleton.mp member]
        exact conditionHangs

theorem reachable_of_mem_labelRoots {model : Model} {node : Node} {group : List NodeId}
    (isGroup : group ∈ labelRoots model node)
    {id : NodeId}
    (member : id ∈ group) :
    Model.Reachable model.nodes node.id id := by
  rcases List.mem_map.mp isGroup with ⟨case, isCase, rfl⟩
  rcases List.mem_map.mp member with ⟨label, isLabel, rfl⟩
  have caseHangs := Model.listsChild_of_mem_children (List.mem_filter.mp isCase).1
  have labelHangs := Model.listsChild_of_mem_children (List.mem_filter.mp isLabel).1
  exact .head caseHangs (.single labelHangs)

/-- Predicates lie below the statement that starts the chain. -/
theorem reachable_of_mem_predicateRoots {model : Model} {node : Node} {roots : PredicateRoots}
    (found : predicateRoots? model node = some roots)
    {group : List NodeId}
    (isGroup : group ∈ roots.groups)
    {id : NodeId}
    (member : id ∈ group) :
    node.kind = .statement ∧ Model.Reachable model.nodes node.id id := by
  by_cases isStatement : node.kind = .statement
  · refine ⟨isStatement, ?_⟩
    rw [predicateRoots?, if_pos (beq_iff_eq.mpr isStatement)] at found
    split at found
    · simp only [Option.bind_eq_bind, Option.bind_eq_some_iff] at found
      rcases found with ⟨_, _, _, _, conditions, isConditions, equal⟩
      cases equal
      rcases List.mem_map.mp isGroup with ⟨condition, listed, rfl⟩
      rw [List.mem_singleton.mp member]
      exact reachable_of_mem_conditionRoots isConditions listed
    · simp only [Option.bind_eq_bind, Option.bind_eq_some_iff] at found
      rcases found with ⟨scrutinee, isScrutinee, equal⟩
      cases equal
      rcases List.mem_cons.mp isGroup with rfl | isLabels
      · rw [List.mem_singleton.mp member]
        exact .single (Model.listsChild_of_child?_eq_some isScrutinee)
      · exact reachable_of_mem_labelRoots isLabels member
    · cases found
  · rw [predicateRoots?, if_neg (by simpa using isStatement)] at found
    cases found

/-- In an accepted model the predicates of a chain are whole subtrees. -/
theorem isWhole_of_mem_predicateRoots {model : Model}
    (wellFormed : model.IsWellFormed)
    {node : Node}
    (isNode : node ∈ model.nodes)
    {roots : PredicateRoots}
    (found : predicateRoots? model node = some roots)
    {group : List NodeId}
    (isGroup : group ∈ roots.groups)
    {id : NodeId}
    (member : id ∈ group) :
    IsWhole model model.nodes.length id := by
  rcases reachable_of_mem_predicateRoots found isGroup member with ⟨isStatement, below⟩
  have notComment : node.kind ≠ .comment := by simp [isStatement]
  exact isWhole_of_reachable wellFormed ((wellFormed.reachable node isNode notComment).trans below)

/-! ## Identical subtrees -/

/-- Nodes agree in all that a predicate is made of. -/
structure SameData (left right : Node) : Prop where
  kind : left.kind = right.kind
  expression : left.expression = right.expression
  operator : left.operator = right.operator
  name : left.name = right.name
  literal : left.literal = right.literal
  children : left.children.length = right.children.length

theorem SameData.nodeText_eq {left right : Node}
    (same : SameData left right) :
    nodeText left = nodeText right := by
  rw [nodeText, nodeText, nodeWords, nodeWords, same.kind, same.operator, same.name, same.literal]

/-- Subtrees agree node by node. -/
inductive Identical (left right : Model) : NodeId → NodeId → Prop where
  | node {leftId rightId : NodeId} {leftNode rightNode : Node}
      (leftFound : left.node? leftId = some leftNode)
      (rightFound : right.node? rightId = some rightNode)
      (sameData : SameData leftNode rightNode)
      (children : List.Forall₂ (Identical left right) leftNode.children rightNode.children) :
      Identical left right leftId rightId

/-- Whole subtrees whose pre-orders agree are identical. -/
theorem identical_and_rest {left right : Model} {leftLevels rightLevels : Nat}
    {leftId rightId : NodeId}
    (leftWhole : IsWhole left leftLevels leftId)
    (rightWhole : IsWhole right rightLevels rightId)
    {leftRest rightRest : List Node}
    (same :
      List.Forall₂ SameData (left.descendantsWithin leftLevels leftId ++ leftRest)
        (right.descendantsWithin rightLevels rightId ++ rightRest)) :
    Identical left right leftId rightId ∧ List.Forall₂ SameData leftRest rightRest := by
  induction leftLevels generalizing rightLevels leftId rightId leftRest rightRest with
  | zero => cases leftWhole
  | succ leftLevels induction =>
      cases rightLevels with
      | zero => cases rightWhole
      | succ rightLevels =>
          rcases leftWhole with ⟨leftNode, leftFound, leftChildren⟩
          rcases rightWhole with ⟨rightNode, rightFound, rightChildren⟩
          simp only [Model.descendantsWithin, leftFound, rightFound, List.cons_append,
            List.forall₂_cons] at same
          -- As many children stand on both sides, so the pre-orders part at the same places.
          have step := fun leftChild leftListed rightChild rightListed leftAfter rightAfter =>
            @induction _ _ _ (leftChildren leftChild leftListed)
              (rightChildren rightChild rightListed) leftAfter rightAfter
          rcases forall₂_and_rest step same.1.children same.2 with ⟨children, after⟩
          exact ⟨.node leftFound rightFound same.1 children, after⟩

theorem Identical.forall₂_sameData {left right : Model} {leftLevels rightLevels : Nat}
    {leftId rightId : NodeId}
    (leftWhole : IsWhole left leftLevels leftId)
    (rightWhole : IsWhole right rightLevels rightId)
    (identical : Identical left right leftId rightId) :
    List.Forall₂ SameData (left.descendantsWithin leftLevels leftId)
      (right.descendantsWithin rightLevels rightId) := by
  induction leftLevels generalizing rightLevels leftId rightId with
  | zero => cases leftWhole
  | succ leftLevels induction =>
      cases rightLevels with
      | zero => cases rightWhole
      | succ rightLevels =>
          rcases leftWhole with ⟨leftNode, leftFound, leftChildren⟩
          rcases rightWhole with ⟨rightNode, rightFound, rightChildren⟩
          rcases identical with ⟨isLeft, isRight, sameData, children⟩
          cases leftFound.symm.trans isLeft
          cases rightFound.symm.trans isRight
          simp only [Model.descendantsWithin, leftFound, rightFound, List.forall₂_cons]
          have walks := forall₂_imp_of_mem
            (fun leftChild leftListed rightChild rightListed =>
              induction (leftChildren leftChild leftListed) (rightChildren rightChild rightListed))
            children
          exact ⟨sameData, List.rel_flatMap walks fun _ _ walk => walk⟩

/-! ## Identical chains -/

/-- Chains are of one kind, and their predicates are identical one by one. -/
def IdenticalChains (left : Model) (leftNode : Node) (right : Model) (rightNode : Node) : Prop :=
  ∃ leftRoots rightRoots,
    predicateRoots? left leftNode = some leftRoots ∧
      predicateRoots? right rightNode = some rightRoots ∧
      leftRoots.tag = rightRoots.tag ∧
      List.Forall₂ (List.Forall₂ (Identical left right)) leftRoots.groups rightRoots.groups

/-- The nodes of the predicates of the chain that starts at a node. -/
def predicateNodes (model : Model) (node : Node) : List Node :=
  ((predicateRoots? model node).map fun roots => (roots.trees model).flatten.flatten).getD []

/--
The texts of two chains show their nodes: words are plain, and nodes of the one and of the other
that have one text agree in what the text leaves out.
-/
structure AreShown (left : Model) (leftNode : Node) (right : Model) (rightNode : Node) : Prop where
  leftPlain : ∀ node ∈ predicateNodes left leftNode, HasPlainWords node
  rightPlain : ∀ node ∈ predicateNodes right rightNode, HasPlainWords node
  data :
    ∀ first ∈ predicateNodes left leftNode, ∀ second ∈ predicateNodes right rightNode,
      nodeText first = nodeText second → SameData first second

theorem mem_predicateNodes {model : Model} {node : Node} {roots : PredicateRoots}
    (found : predicateRoots? model node = some roots)
    {group : List NodeId}
    (isGroup : group ∈ roots.groups)
    {id : NodeId}
    (listed : id ∈ group)
    {inner : Node}
    (member : inner ∈ model.descendants id) :
    inner ∈ predicateNodes model node := by
  rw [predicateNodes, found]
  exact List.mem_flatten.mpr ⟨_, List.mem_flatten.mpr
    ⟨_, List.mem_map_of_mem isGroup, List.mem_map_of_mem listed⟩, member⟩

theorem IsWhole.descendantsWithin_ne_nil {model : Model} {levels : Nat} {id : NodeId}
    (whole : IsWhole model levels id) :
    model.descendantsWithin levels id ≠ [] := by
  cases levels with
  | zero => cases whole
  | succ levels =>
      rcases whole with ⟨node, found, _⟩
      simp [Model.descendantsWithin, found]

theorem isPlainPredicate_of_mem_trees {model : Model} {node : Node} {roots : PredicateRoots}
    (found : predicateRoots? model node = some roots)
    (whole : ∀ group ∈ roots.groups, ∀ id ∈ group, IsWhole model model.nodes.length id)
    (plain : ∀ inner ∈ predicateNodes model node, HasPlainWords inner)
    {predicates : List (List Node)}
    (isBranch : predicates ∈ roots.trees model)
    {nodes : List Node}
    (isPredicate : nodes ∈ predicates) :
    IsPlainPredicate nodes := by
  rcases List.mem_map.mp isBranch with ⟨group, isGroup, rfl⟩
  rcases List.mem_map.mp isPredicate with ⟨id, listed, rfl⟩
  refine ⟨?_, fun inner member => plain inner (mem_predicateNodes found isGroup listed member)⟩
  exact (whole group isGroup id listed).descendantsWithin_ne_nil

theorem tag_isPlain {model : Model} {node : Node} {roots : PredicateRoots}
    (found : predicateRoots? model node = some roots) :
    IsPlain roots.tag := by
  rw [predicateRoots?] at found
  split at found
  · simp only [Option.bind_eq_bind, Option.bind_eq_some_iff] at found
    rcases found with ⟨_, _, _, _, conditions, _, equal⟩
    cases equal
    exact (by decide : IsPlain "if")
  · simp only [Option.bind_eq_bind, Option.bind_eq_some_iff] at found
    rcases found with ⟨scrutinee, _, equal⟩
    cases equal
    exact (by decide : IsPlain "select")
  · cases found

theorem Identical.sameTexts {left right : Model} {leftId rightId : NodeId}
    (leftWhole : IsWhole left left.nodes.length leftId)
    (rightWhole : IsWhole right right.nodes.length rightId)
    (identical : Identical left right leftId rightId) :
    SameTexts (left.descendants leftId) (right.descendants rightId) :=
  map_eq_map_iff_forall₂.mpr
    ((identical.forall₂_sameData leftWhole rightWhole).imp fun _ _ => SameData.nodeText_eq)

theorem identical_of_sameTexts {left right : Model} {leftId rightId : NodeId}
    (leftWhole : IsWhole left left.nodes.length leftId)
    (rightWhole : IsWhole right right.nodes.length rightId)
    (data :
      ∀ first ∈ left.descendants leftId, ∀ second ∈ right.descendants rightId,
        nodeText first = nodeText second → SameData first second)
    (same : SameTexts (left.descendants leftId) (right.descendants rightId)) :
    Identical left right leftId rightId := by
  have nodes := forall₂_imp_of_mem data (map_eq_map_iff_forall₂.mp same)
  rw [← List.append_nil (left.descendants leftId),
    ← List.append_nil (right.descendants rightId)] at nodes
  exact (identical_and_rest leftWhole rightWhole nodes).1

theorem forall₂_trees_iff {left right : Model} {relation : List Node → List Node → Prop}
    (leftRoots rightRoots : PredicateRoots) :
    List.Forall₂ (List.Forall₂ relation) (leftRoots.trees left) (rightRoots.trees right) ↔
      List.Forall₂
        (List.Forall₂ fun leftId rightId =>
          relation (left.descendants leftId) (right.descendants rightId))
        leftRoots.groups rightRoots.groups := by
  simp only [PredicateRoots.trees, List.forall₂_map_left_iff, List.forall₂_map_right_iff]

theorem PredicateRoots.text_eq {left right : Model} {leftRoots rightRoots : PredicateRoots}
    (leftWhole : ∀ group ∈ leftRoots.groups, ∀ id ∈ group, IsWhole left left.nodes.length id)
    (rightWhole : ∀ group ∈ rightRoots.groups, ∀ id ∈ group, IsWhole right right.nodes.length id)
    (tags : leftRoots.tag = rightRoots.tag)
    (identical :
      List.Forall₂ (List.Forall₂ (Identical left right)) leftRoots.groups rightRoots.groups) :
    leftRoots.text left = rightRoots.text right := by
  rw [text, text, tags]
  apply chainText_eq_of_forall₂
  rw [forall₂_trees_iff]
  refine forall₂_imp_of_mem ?_ identical
  intro leftGroup isLeftGroup rightGroup isRightGroup groupIdentical
  refine forall₂_imp_of_mem ?_ groupIdentical
  intro leftId leftListed rightId rightListed
  exact Identical.sameTexts (leftWhole leftGroup isLeftGroup leftId leftListed)
    (rightWhole rightGroup isRightGroup rightId rightListed)

/-- Where texts show the nodes, equal texts are those of identical predicates. -/
theorem PredicateRoots.eq_and_identical_of_text_eq {left right : Model} {leftNode rightNode : Node}
    {leftRoots rightRoots : PredicateRoots}
    (leftIs : predicateRoots? left leftNode = some leftRoots)
    (rightIs : predicateRoots? right rightNode = some rightRoots)
    (leftWhole : ∀ group ∈ leftRoots.groups, ∀ id ∈ group, IsWhole left left.nodes.length id)
    (rightWhole : ∀ group ∈ rightRoots.groups, ∀ id ∈ group, IsWhole right right.nodes.length id)
    (shown : AreShown left leftNode right rightNode)
    (equal : leftRoots.text left = rightRoots.text right) :
    leftRoots.tag = rightRoots.tag ∧
      List.Forall₂ (List.Forall₂ (Identical left right)) leftRoots.groups rightRoots.groups := by
  rcases eq_and_forall₂_of_chainText_eq (tag_isPlain leftIs) (tag_isPlain rightIs)
    (fun _ isBranch _ => isPlainPredicate_of_mem_trees leftIs leftWhole shown.leftPlain isBranch)
    (fun _ isBranch _ => isPlainPredicate_of_mem_trees rightIs rightWhole shown.rightPlain isBranch)
    equal with ⟨tags, same⟩
  refine ⟨tags, ?_⟩
  rw [forall₂_trees_iff] at same
  refine forall₂_imp_of_mem ?_ same
  intro leftGroup isLeftGroup rightGroup isRightGroup groupSame
  refine forall₂_imp_of_mem ?_ groupSame
  intro leftId leftListed rightId rightListed
  apply identical_of_sameTexts (leftWhole leftGroup isLeftGroup leftId leftListed)
    (rightWhole rightGroup isRightGroup rightId rightListed)
  intro first isFirst second isSecond
  exact shown.data first (mem_predicateNodes leftIs isLeftGroup leftListed isFirst) second
    (mem_predicateNodes rightIs isRightGroup rightListed isSecond)

/--
Identical chains have the same text, so the same key, and the same number of branches.  Conversely,
chains with the same text are identical when their texts show their nodes.
-/
theorem identicalChains_of_keyText_eq
    (leftPath rightPath : SourcePath)
    (leftRoot rightRoot : NodeId)
    (leftNodes rightNodes : List Node)
    (leftLines rightLines : Option UInt32)
    (left right : Model)
    (leftAccepted : Model.ingest leftPath leftRoot leftNodes leftLines = .ok left)
    (rightAccepted : Model.ingest rightPath rightRoot rightNodes rightLines = .ok right)
    (leftNode rightNode : Node)
    (leftMember : leftNode ∈ left.nodes)
    (rightMember : rightNode ∈ right.nodes)
    (leftChain rightChain : Chain)
    (leftFound : chain? left leftNode = some leftChain)
    (rightFound : chain? right rightNode = some rightChain) :
    ∃ leftText rightText,
      keyText? left leftNode = some leftText ∧
        keyText? right rightNode = some rightText ∧
        leftChain.key = Digest.ofText leftText ∧
        rightChain.key = Digest.ofText rightText ∧
        (IdenticalChains left leftNode right rightNode →
          leftText = rightText ∧ leftChain.branches = rightChain.branches) ∧
        (AreShown left leftNode right rightNode → leftText = rightText →
          IdenticalChains left leftNode right rightNode) := by
  rcases exists_predicateRoots?_of_chain? leftFound with ⟨leftRoots, leftIs, leftKey, leftBranches⟩
  rcases exists_predicateRoots?_of_chain? rightFound with
    ⟨rightRoots, rightIs, rightKey, rightBranches⟩
  have leftWhole (group : List NodeId) (isGroup : group ∈ leftRoots.groups) (id : NodeId) :
      id ∈ group → IsWhole left left.nodes.length id :=
    isWhole_of_mem_predicateRoots (.of_ingest leftAccepted) leftMember leftIs isGroup
  have rightWhole (group : List NodeId) (isGroup : group ∈ rightRoots.groups) (id : NodeId) :
      id ∈ group → IsWhole right right.nodes.length id :=
    isWhole_of_mem_predicateRoots (.of_ingest rightAccepted) rightMember rightIs isGroup
  refine ⟨leftRoots.text left, rightRoots.text right, ?_, ?_, leftKey, rightKey, ?_, ?_⟩
  · rw [keyText?_eq, leftIs, Option.map_some]
  · rw [keyText?_eq, rightIs, Option.map_some]
  · rintro ⟨_, _, isLeft, isRight, tags, identical⟩
    cases leftIs.symm.trans isLeft
    cases rightIs.symm.trans isRight
    exact ⟨PredicateRoots.text_eq leftWhole rightWhole tags identical,
      by rw [leftBranches, rightBranches, tags, identical.length_eq]⟩
  · intro shown equal
    exact ⟨leftRoots, rightRoots, leftIs, rightIs,
      PredicateRoots.eq_and_identical_of_text_eq leftIs rightIs leftWhole rightWhole shown equal⟩

/--
A module with a function that tests a call of `f` on `g` and `x`, however they are nested, and
then a variable.
-/
def guardedModule (path : String) (outer inner : List NodeId) (innerEnd : UInt32) : Model :=
  let lines (startLine endLine : UInt32) : Span :=
    { startLine, startCol := 1, endLine, endCol := 9 }
  .linked
    { path := { text := path }
      root := { index := 0 }
      lineCount := some 13
      nodes :=
        [{ id := { index := 0 }, kind := .module, span := lines 1 13,
            children := [{ index := 1 }] },
          { id := { index := 1 }, kind := .function, span := lines 2 13, name := some "guarded"
            children := [{ index := 2 }] },
          { id := { index := 2 }, kind := .statement, span := lines 3 13, statement := some .block
            children := [{ index := 3 }] },
          { id := { index := 3 }, kind := .statement, span := lines 4 13, statement := some .ifElse
            children := [{ index := 4 }, { index := 9 }, { index := 10 }] },
          { id := { index := 4 }, kind := .expression, span := lines 5 9, expression := some .call
            children := outer },
          { id := { index := 5 }, kind := .identifier, span := lines 6 6, name := some "f" },
          { id := { index := 6 }, kind := .expression, span := lines 7 innerEnd,
            expression := some .call, children := inner },
          { id := { index := 7 }, kind := .identifier, span := lines 8 8, name := some "g" },
          { id := { index := 8 }, kind := .identifier, span := lines 9 9, name := some "x" },
          { id := { index := 9 }, kind := .statement, span := lines 10 10,
            statement := some .block },
          { id := { index := 10 }, kind := .statement, span := lines 11 13,
            statement := some .ifElse, children := [{ index := 11 }, { index := 12 }] },
          { id := { index := 11 }, kind := .identifier, span := lines 12 12, name := some "y" },
          { id := { index := 12 }, kind := .statement, span := lines 13 13,
            statement := some .block }] }

/-- The module that tests `f(g(x))`. -/
def nestedModule (path : String) : Model :=
  guardedModule path [{ index := 5 }, { index := 6 }] [{ index := 7 }, { index := 8 }] 9

theorem ingest_nestedModule (path : String) :
    Model.ingest (nestedModule path).path (nestedModule path).root (nestedModule path).nodes
      (nestedModule path).lineCount = .ok (nestedModule path) :=
  rfl

/-- The module that tests `f(g(), x)`. -/
def flatModule (path : String) : Model :=
  guardedModule path [{ index := 5 }, { index := 6 }, { index := 8 }] [{ index := 7 }] 8

theorem ingest_flatModule (path : String) :
    Model.ingest (flatModule path).path (flatModule path).root (flatModule path).nodes
      (flatModule path).lineCount = .ok (flatModule path) :=
  rfl

/-- No literals stand in the predicates, and all their calls have two children. -/
theorem areShown_nestedModule :
    AreShown (nestedModule "left.ir.json") (nestedModule "left.ir.json").nodes[3]
      (nestedModule "right.ir.json") (nestedModule "right.ir.json").nodes[3] := by
  let left := predicateNodes (nestedModule "left.ir.json") (nestedModule "left.ir.json").nodes[3]
  let right := predicateNodes (nestedModule "right.ir.json") (nestedModule "right.ir.json").nodes[3]
  have leftPlain : ∀ node ∈ left, HasPlainWords node := by decide
  have rightPlain : ∀ node ∈ right, HasPlainWords node := by decide
  have noLiterals : ∀ node ∈ left ++ right, node.literal = none := by decide
  have data :
      ∀ first ∈ left, ∀ second ∈ right,
        nodeText first = nodeText second →
          first.kind = second.kind ∧ first.expression = second.expression ∧
            first.operator = second.operator ∧ first.name = second.name ∧
            first.children.length = second.children.length := by
    decide
  refine ⟨leftPlain, rightPlain, ?_⟩
  intro first isFirst second isSecond same
  rcases data first isFirst second isSecond same with ⟨kind, expression, operator, name, children⟩
  have firstLiteral := noLiterals first (List.mem_append_left _ isFirst)
  have secondLiteral := noLiterals second (List.mem_append_right _ isSecond)
  exact ⟨kind, expression, operator, name, firstLiteral.trans secondLiteral.symm, children⟩

/-- Two files that test `f(g(x))` have identical chains, and their texts show it. -/
theorem nestedModule_identicalChains :
    let left := nestedModule "left.ir.json"
    let right := nestedModule "right.ir.json"
    ∃ leftNode ∈ left.nodes, ∃ rightNode ∈ right.nodes, ∃ leftChain rightChain : Chain,
      Model.ingest left.path left.root left.nodes left.lineCount = .ok left ∧
        Model.ingest right.path right.root right.nodes right.lineCount = .ok right ∧
        chain? left leftNode = some leftChain ∧
        chain? right rightNode = some rightChain ∧
        IdenticalChains left leftNode right rightNode ∧
        leftChain.key = rightChain.key ∧
        leftChain.branches = rightChain.branches := by
  intro left right
  have leftMember : left.nodes[3] ∈ left.nodes := List.getElem_mem _
  have rightMember : right.nodes[3] ∈ right.nodes := List.getElem_mem _
  have leftAccepted := ingest_nestedModule "left.ir.json"
  have rightAccepted := ingest_nestedModule "right.ir.json"
  have leftIsChain : (chain? left left.nodes[3]).isSome = true := by decide
  have rightIsChain : (chain? right right.nodes[3]).isSome = true := by decide
  rcases Option.isSome_iff_exists.mp leftIsChain with ⟨leftChain, leftFound⟩
  rcases Option.isSome_iff_exists.mp rightIsChain with ⟨rightChain, rightFound⟩
  rcases identicalChains_of_keyText_eq _ _ _ _ _ _ _ _ left right leftAccepted rightAccepted _ _
    leftMember rightMember leftChain rightChain leftFound rightFound with
    ⟨leftText, rightText, leftIs, rightIs, leftKey, rightKey, identicalSame, sameIdentical⟩
  have sameText : leftText = rightText := by
    have same : keyText? left left.nodes[3] = keyText? right right.nodes[3] := by decide
    rw [leftIs, rightIs] at same
    exact Option.some.inj same
  have identical := sameIdentical areShown_nestedModule sameText
  exact ⟨_, leftMember, _, rightMember, leftChain, rightChain, leftAccepted, rightAccepted,
    leftFound, rightFound, identical, by rw [leftKey, rightKey, sameText],
    (identicalSame identical).2⟩

/-- `f(g(x))` and `f(g(), x)` have one text, since it leaves out how many children a call has. -/
theorem nestedModule_sharesText_flatModule :
    let nested := nestedModule "nested.ir.json"
    let flat := flatModule "flat.ir.json"
    ∃ nestedNode ∈ nested.nodes, ∃ flatNode ∈ flat.nodes, ∃ nestedChain flatChain : Chain,
      Model.ingest nested.path nested.root nested.nodes nested.lineCount = .ok nested ∧
        Model.ingest flat.path flat.root flat.nodes flat.lineCount = .ok flat ∧
        chain? nested nestedNode = some nestedChain ∧
        chain? flat flatNode = some flatChain ∧
        keyText? nested nestedNode = keyText? flat flatNode ∧
        ¬ IdenticalChains nested nestedNode flat flatNode := by
  intro nested flat
  have nestedIsChain : (chain? nested nested.nodes[3]).isSome = true := by decide
  have flatIsChain : (chain? flat flat.nodes[3]).isSome = true := by decide
  rcases Option.isSome_iff_exists.mp nestedIsChain with ⟨nestedChain, nestedFound⟩
  rcases Option.isSome_iff_exists.mp flatIsChain with ⟨flatChain, flatFound⟩
  have sameText : keyText? nested nested.nodes[3] = keyText? flat flat.nodes[3] := by decide
  have nestedMember : nested.nodes[3] ∈ nested.nodes := List.getElem_mem _
  have flatMember : flat.nodes[3] ∈ flat.nodes := List.getElem_mem _
  have nestedAccepted := ingest_nestedModule "nested.ir.json"
  have flatAccepted := ingest_flatModule "flat.ir.json"
  refine ⟨_, nestedMember, _, flatMember, nestedChain, flatChain, nestedAccepted, flatAccepted,
    nestedFound, flatFound, sameText, ?_⟩
  rintro ⟨nestedRoots, flatRoots, isNested, isFlat, _, identical⟩
  have nestedGroups :
      predicateRoots? nested nested.nodes[3] =
        some { tag := "if", groups := [[{ index := 4 }], [{ index := 11 }]] } := rfl
  have flatGroups :
      predicateRoots? flat flat.nodes[3] =
        some { tag := "if", groups := [[{ index := 4 }], [{ index := 11 }]] } := rfl
  cases nestedGroups.symm.trans isNested
  cases flatGroups.symm.trans isFlat
  rcases List.forall₂_cons.mp (List.forall₂_cons.mp identical).1 with ⟨conditions, _⟩
  rcases conditions with ⟨isLeft, isRight, sameData, _⟩
  cases isLeft
  cases isRight
  cases sameData.children

end StructuralLint.Duplication
