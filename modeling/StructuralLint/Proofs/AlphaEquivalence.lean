import Mathlib.Data.List.Forall2
import StructuralLint.Proofs.DuplicationOrder
import StructuralLint.Proofs.PreOrder
import StructuralLint.Proofs.TokenText

/-!
# Alpha-equivalent code

Copies of code are found through lists of tokens in which a name stands as the number of different
names before it.  This module shows that such lists say exactly what is left of a subtree when its
names are forgotten up to a renaming: the tokens of two subtrees agree if and only if the subtrees
agree node by node in pre-order and their names are equal at the same pairs of positions.

The other views of a candidate follow from its tokens.  For the skeleton, which is computed along
the tree and not along the list of its nodes, this needs the whole subtree to be there: then the
numbers of children say where each subtree ends in the pre-order.  In an accepted model this holds
below every node that can be a candidate, since none of them lies above a cycle.
-/

namespace StructuralLint.Duplication

/-! ## Ranks of names -/

/--
Each name by the number of different names before its first appearance; `names` are those known
before.
-/
def ranks (names : List String) : List (Option String) → List (Option Nat)
  | [] => []
  | none :: rest => none :: ranks names rest
  | some name :: rest =>
      some (names.idxOf name) ::
        ranks (if names.contains name then names else names ++ [name]) rest

/-- All names that are known at the end. -/
def knownAfter (names : List String) : List (Option String) → List String
  | [] => names
  | none :: rest => knownAfter names rest
  | some name :: rest =>
      knownAfter (if names.contains name then names else names ++ [name]) rest

theorem prefix_knownAfter (names : List String) (entries : List (Option String)) :
    names <+: knownAfter names entries := by
  induction entries generalizing names with
  | nil => exact List.prefix_rfl
  | cons entry rest induction =>
      cases entry with
      | none => exact induction names
      | some name =>
          rw [knownAfter]
          refine List.IsPrefix.trans ?_ (induction _)
          split
          · exact List.prefix_rfl
          · exact List.prefix_append names [name]

theorem idxOf_eq_of_start {names more : List String} {name : String}
    (start : names <+: more)
    (member : name ∈ names) :
    more.idxOf name = names.idxOf name := by
  rcases start with ⟨rest, rfl⟩
  exact List.idxOf_append_of_mem member

/-- The rank of a name is its position among the names that are known at the end. -/
theorem ranks_eq_map (names : List String) (entries : List (Option String)) :
    ranks names entries = entries.map (Option.map (knownAfter names entries).idxOf) := by
  induction entries generalizing names with
  | nil => rfl
  | cons entry rest induction =>
      cases entry with
      | none => rw [ranks, knownAfter, induction]; rfl
      | some name =>
          rw [ranks, knownAfter, induction, List.map_cons, Option.map_some]
          congr 2
          have start :=
            prefix_knownAfter (if names.contains name then names else names ++ [name]) rest
          by_cases known : name ∈ names
          · rw [if_pos (List.contains_iff_mem.mpr known)] at start ⊢
            exact (idxOf_eq_of_start start known).symm
          · rw [if_neg (by simpa using known)] at start ⊢
            rw [idxOf_eq_of_start start (by simp), List.idxOf_append_of_notMem known,
              List.idxOf_eq_length known]
            simp

theorem mem_knownAfter {names : List String} {entries : List (Option String)} {name : String}
    (member : some name ∈ entries) :
    name ∈ knownAfter names entries := by
  induction entries generalizing names with
  | nil => cases member
  | cons entry rest induction =>
      rcases List.mem_cons.mp member with rfl | later
      · rw [knownAfter]
        apply (prefix_knownAfter _ rest).subset
        split
        next known => exact List.contains_iff_mem.mp known
        next => simp
      · cases entry with
        | none => exact induction later
        | some other => exact induction later

/-- Entries hold names at the same positions, and equal names at the same pairs of positions. -/
structure SamePattern (left right : List (Option String)) : Prop where
  length : left.length = right.length
  named : ∀ position : Nat, left[position]?.join.isSome = right[position]?.join.isSome
  names :
    ∀ first second : Nat,
      left[first]?.join = left[second]?.join ↔ right[first]?.join = right[second]?.join

theorem join_getElem?_ranks (names : List String) (entries : List (Option String))
    (position : Nat) :
    (ranks names entries)[position]?.join =
      entries[position]?.join.map (knownAfter names entries).idxOf := by
  rw [ranks_eq_map, List.getElem?_map]
  cases entries[position]? with
  | none => rfl
  | some entry => rfl

/-- Names at two positions are told apart by their ranks. -/
theorem join_getElem?_eq_iff_ranks (entries : List (Option String)) (first second : Nat) :
    entries[first]?.join = entries[second]?.join ↔
      (ranks [] entries)[first]?.join = (ranks [] entries)[second]?.join := by
  rw [join_getElem?_ranks, join_getElem?_ranks]
  constructor
  · intro equal
    rw [equal]
  · intro equal
    cases firstEntry : entries[first]?.join with
    | none =>
        rw [firstEntry] at equal
        exact (Option.map_eq_none_iff.mp equal.symm).symm
    | some name =>
        rw [firstEntry] at equal
        rcases Option.map_eq_some_iff.mp equal.symm with ⟨other, secondEntry, sameRank⟩
        have known : other ∈ knownAfter [] entries :=
          mem_knownAfter (List.mem_of_getElem? (Option.join_eq_some_iff.mp secondEntry))
        rw [secondEntry, (List.idxOf_inj known).mp sameRank]

theorem SamePattern.of_ranks_eq {left right : List (Option String)}
    (equal : ranks [] left = ranks [] right) :
    SamePattern left right where
  length := by
    have lengths := congrArg List.length equal
    rwa [ranks_eq_map, ranks_eq_map, List.length_map, List.length_map] at lengths
  named position := by
    have isSome (entries : List (Option String)) :
        entries[position]?.join.isSome = (ranks [] entries)[position]?.join.isSome := by
      rw [join_getElem?_ranks, Option.isSome_map]
    rw [isSome left, isSome right, equal]
  names first second := by
    rw [join_getElem?_eq_iff_ranks left, join_getElem?_eq_iff_ranks right, equal]

/-- Names are paired one to one. -/
def Matched (pairs : List (Option String × Option String)) : Prop :=
  ∀ first ∈ pairs, ∀ second ∈ pairs, first.1 = second.1 ↔ first.2 = second.2

/-- Pairs of names that are known, as pairs of entries. -/
def entriesOf (known : List (String × String)) : List (Option String × Option String) :=
  known.map fun pair => (some pair.1, some pair.2)

theorem idxOf_eq_of_matched {known : List (String × String)} {left right : String}
    (paired : ∀ pair ∈ known, pair.1 = left ↔ pair.2 = right) :
    (known.map (·.1)).idxOf left = (known.map (·.2)).idxOf right := by
  induction known with
  | nil => rfl
  | cons pair rest induction =>
      have here : (pair.1 == left) = (pair.2 == right) := by
        rw [Bool.eq_iff_iff, beq_iff_eq, beq_iff_eq]
        exact paired pair List.mem_cons_self
      have later := induction fun other member => paired other (List.mem_cons_of_mem pair member)
      rw [List.map_cons, List.map_cons, List.idxOf_cons, List.idxOf_cons, here, later]

theorem Matched.mono {pairs more : List (Option String × Option String)}
    (matched : Matched more)
    (subset : pairs ⊆ more) :
    Matched pairs :=
  fun first firstMember second secondMember =>
    matched first (subset firstMember) second (subset secondMember)

/-- Names that are paired one to one with those known before have equal ranks. -/
theorem ranks_eq_of_matched (known : List (String × String))
    (pairs : List (Option String × Option String))
    (named : ∀ pair ∈ pairs, pair.1.isSome = pair.2.isSome)
    (matched : Matched (entriesOf known ++ pairs)) :
    ranks (known.map (·.1)) (pairs.map (·.1)) = ranks (known.map (·.2)) (pairs.map (·.2)) := by
  induction pairs generalizing known with
  | nil => rfl
  | cons pair rest induction =>
      have namedRest (other : Option String × Option String) (member : other ∈ rest) :
          other.1.isSome = other.2.isSome :=
        named other (List.mem_cons_of_mem pair member)
      have isNamed := named pair List.mem_cons_self
      rcases pair with ⟨- | left, - | right⟩
      · have matchedRest : Matched (entriesOf known ++ rest) :=
          matched.mono (by simp [List.append_subset])
        simp only [List.map_cons, ranks, induction known namedRest matchedRest]
      · cases isNamed
      · cases isNamed
      · have paired (pair : String × String) (member : pair ∈ known) :
            pair.1 = left ↔ pair.2 = right := by
          have here := matched (some pair.1, some pair.2)
            (List.mem_append_left _ (List.mem_map.mpr ⟨pair, member, rfl⟩))
            (some left, some right) (by simp)
          simpa using here
        have sameRank := idxOf_eq_of_matched paired
        -- A name is known on the left exactly when its partner is known on the right.
        have sameKnown : (known.map (·.1)).contains left = (known.map (·.2)).contains right := by
          rw [Bool.eq_iff_iff, List.contains_iff_mem, List.contains_iff_mem, List.mem_map,
            List.mem_map]
          exact exists_congr fun pair => and_congr_right fun member => paired pair member
        have matchedRest : Matched (entriesOf known ++ rest) :=
          matched.mono (by simp [List.append_subset])
        have matchedMore : Matched (entriesOf (known ++ [(left, right)]) ++ rest) :=
          matched.mono (by simp [entriesOf])
        have knownCase := induction known namedRest matchedRest
        have newCase := induction (known ++ [(left, right)]) namedRest matchedMore
        simp only [List.map_append, List.map_cons, List.map_nil] at newCase
        simp only [List.map_cons, ranks, sameRank, sameKnown]
        split
        · rw [knownCase]
        · rw [newCase]

theorem SamePattern.ranks_eq {left right : List (Option String)}
    (same : SamePattern left right) :
    ranks [] left = ranks [] right := by
  let pairs := left.zip right
  have atPosition (pair : Option String × Option String) (member : pair ∈ pairs) :
      ∃ position : Nat, pair.1 = left[position]?.join ∧ pair.2 = right[position]?.join := by
    rcases List.getElem_of_mem member with ⟨position, bound, rfl⟩
    rw [List.length_zip] at bound
    refine ⟨position, ?_, ?_⟩
    · rw [List.getElem_zip, List.getElem?_eq_getElem (by omega)]
      rfl
    · rw [List.getElem_zip, List.getElem?_eq_getElem (by omega)]
      rfl
  have named (pair : Option String × Option String) (member : pair ∈ pairs) :
      pair.1.isSome = pair.2.isSome := by
    rcases atPosition pair member with ⟨position, leftEntry, rightEntry⟩
    rw [leftEntry, rightEntry, same.named position]
  have matched : Matched pairs := by
    intro first firstMember second secondMember
    rcases atPosition first firstMember with ⟨firstPosition, firstLeft, firstRight⟩
    rcases atPosition second secondMember with ⟨secondPosition, secondLeft, secondRight⟩
    rw [firstLeft, firstRight, secondLeft, secondRight]
    exact same.names firstPosition secondPosition
  have equal := ranks_eq_of_matched [] pairs named matched
  rwa [List.map_nil, List.map_nil, List.map_fst_zip (Nat.le_of_eq same.length),
    List.map_snd_zip (Nat.le_of_eq same.length.symm)] at equal

/-- Ranks say which names are equal, and nothing else. -/
theorem ranks_eq_iff_samePattern {left right : List (Option String)} :
    ranks [] left = ranks [] right ↔ SamePattern left right :=
  ⟨SamePattern.of_ranks_eq, SamePattern.ranks_eq⟩

/-! ## Tokens -/

/-- What comes after the token of a node without a name does not begin with a name. -/
theorem texts_tokensAfter_ne_name_cons (root : NodeId) (names : List String) (nodes : List Node)
    (rank : Nat) (rest : List String) :
    (tokensAfter root names nodes).map Token.text ≠ (Token.name rank).text :: rest := by
  cases nodes with
  | nil => simp [tokensAfter]
  | cons node nodes =>
      intro equal
      rw [tokensAfter, List.map_cons, List.cons.injEq] at equal
      exact text_ofNode_ne_text_name node rank equal.1

/-- The texts of tokens show the shapes of the nodes and the ranks of their names. -/
theorem texts_tokensAfter_eq_iff {leftRoot rightRoot : NodeId}
    {leftNames rightNames : List String} {lefts rights : List Node} :
    (tokensAfter leftRoot leftNames lefts).map Token.text =
        (tokensAfter rightRoot rightNames rights).map Token.text ↔
      List.Forall₂ SameShape lefts rights ∧
        ranks leftNames (lefts.map (countedName? leftRoot)) =
          ranks rightNames (rights.map (countedName? rightRoot)) := by
  induction lefts generalizing leftNames rightNames rights with
  | nil =>
      cases rights with
      | nil => simp [tokensAfter, ranks]
      | cons right rights => simp [tokensAfter]
  | cons left lefts induction =>
      cases rights with
      | nil => simp [tokensAfter]
      | cons right rights =>
          rw [tokensAfter, tokensAfter, List.map_cons, List.map_cons, List.map_cons, List.map_cons,
            List.cons.injEq, text_ofNode_eq_iff_sameShape, List.forall₂_cons]
          -- A name on one side only would have to be the token of the next node on the other.
          cases countedName? leftRoot left with
          | none =>
              cases countedName? rightRoot right with
              | none =>
                  simp only [ranks, List.cons.injEq, true_and, induction, and_assoc]
              | some rightName =>
                  have apart := texts_tokensAfter_ne_name_cons leftRoot leftNames lefts
                  simp [ranks, apart]
          | some leftName =>
              cases countedName? rightRoot right with
              | none =>
                  have apart := texts_tokensAfter_ne_name_cons rightRoot rightNames rights
                  simp [ranks, (apart _ _).symm]
              | some rightName =>
                  simp only [ranks, List.map_cons, List.cons.injEq, text_name_inj,
                    Option.some.injEq, induction]
                  tauto

/-! ## Equivalent subtrees -/

/--
The name that a node below a root is compared by: the root, literals and nodes with an empty
name have none.
-/
def nameBelow? (root : NodeId) (node : Node) : Option String :=
  if node.id = root ∨ node.kind = .literal then none else node.name.filter (· ≠ "")

theorem countedName?_eq_nameBelow? (root : NodeId) :
    countedName? root = nameBelow? root := by
  funext node
  rw [countedName?, nameBelow?]
  by_cases isRoot : node.id = root
  · simp [isRoot]
  · by_cases isLiteral : node.kind = .literal
    · simp [isLiteral]
    · cases node.name with
      | none => simp [isRoot, isLiteral]
      | some name => by_cases empty : name = "" <;> simp [isRoot, isLiteral, empty, Option.filter]

/-- The name at a position of the pre-order of a subtree. -/
def nameAt (model : Model) (root : NodeId) (position : Nat) : Option String :=
  (model.descendants root)[position]?.bind (nameBelow? root)

/--
Two subtrees differ only in their names, up to a renaming: in pre-order their nodes have the same
shapes one by one, names stand at the same positions, and equal names stand at the same pairs of
positions.
-/
structure AlphaEquivalent (left : Model) (leftRoot : NodeId) (right : Model) (rightRoot : NodeId) :
    Prop where
  shapes : List.Forall₂ SameShape (left.descendants leftRoot) (right.descendants rightRoot)
  named :
    ∀ position, (nameAt left leftRoot position).isSome = (nameAt right rightRoot position).isSome
  names :
    ∀ first second,
      nameAt left leftRoot first = nameAt left leftRoot second ↔
        nameAt right rightRoot first = nameAt right rightRoot second

theorem nameAt_eq_join (model : Model) (root : NodeId) (position : Nat) :
    nameAt model root position =
      ((model.descendants root).map (nameBelow? root))[position]?.join := by
  rw [nameAt, List.getElem?_map]
  cases (model.descendants root)[position]? with
  | none => rfl
  | some node => rfl

/-- Subtrees have the same texts of tokens exactly when they are alpha-equivalent. -/
theorem texts_tokens_eq_iff {left right : Model} {leftRoot rightRoot : NodeId} :
    (tokens left leftRoot).map Token.text = (tokens right rightRoot).map Token.text ↔
      AlphaEquivalent left leftRoot right rightRoot := by
  rw [tokens, tokens, texts_tokensAfter_eq_iff, ranks_eq_iff_samePattern,
    countedName?_eq_nameBelow?, countedName?_eq_nameBelow?]
  constructor
  · rintro ⟨shapes, pattern⟩
    refine ⟨shapes, ?_, ?_⟩
    · intro position
      rw [nameAt_eq_join, nameAt_eq_join, pattern.named]
    · intro first second
      simp only [nameAt_eq_join, pattern.names]
  · rintro ⟨shapes, named, names⟩
    simp only [nameAt_eq_join] at named names
    exact ⟨shapes, by simpa using shapes.length_eq, named, names⟩

/-! ## Skeletons of equivalent subtrees -/

/-- All nodes of the subtree of an id exist, and none lies deeper than a number of levels. -/
def IsWhole (model : Model) : Nat → NodeId → Prop
  | 0, _ => False
  | levels + 1, id =>
      ∃ node, model.node? id = some node ∧ ∀ child ∈ node.children, IsWhole model levels child

/-- What a node adds to a skeleton at a depth, and the depth of its children. -/
def skeletonStep (node : Node) (depth : Nat) : List (StatementKind × Nat) × Nat :=
  let kind := if node.kind = .statement then node.statement.getD .other else .other
  if isSkeletonControl kind then ([(kind, depth)], depth + 1)
  else if kind.isExit then ([(kind, depth)], depth)
  else ([], depth)

theorem SameShape.skeletonStep_eq {left right : Node}
    (same : SameShape left right)
    (depth : Nat) :
    skeletonStep left depth = skeletonStep right depth := by
  have kinds :
      (if left.kind = .statement then left.statement.getD .other else .other) =
        if right.kind = .statement then right.statement.getD .other else .other := by
    rw [← same.kind]
    exact ite_congr rfl same.statement fun _ => rfl
  simp only [skeletonStep, kinds]

theorem skeletonWithin_succ {model : Model} {id : NodeId} {node : Node}
    (found : model.node? id = some node)
    (levels depth : Nat) :
    skeletonWithin model (levels + 1) depth id =
      (skeletonStep node depth).1 ++
        node.children.flatMap (skeletonWithin model levels (skeletonStep node depth).2) := by
  -- A node without a kind of statement adds as much as one of the kind `other`: nothing.
  have other : isSkeletonControl .other = false ∧ StatementKind.other.isExit = false := by decide
  simp only [skeletonWithin, found, skeletonStep, beq_iff_eq]
  by_cases isStatement : node.kind = .statement
  · simp only [isStatement, if_true]
    cases node.statement with
    | none => simp [other]
    | some kind =>
        simp only [Option.getD_some]
        split
        · rfl
        · split
          · rfl
          · rfl
  · simp [isStatement, other]

/-- Lists of subtrees can be read off one after the other when each of them can. -/
theorem forall₂_and_rest {relation : Node → Node → Prop} {result : NodeId → NodeId → Prop}
    {leftWalk rightWalk : NodeId → List Node} {lefts rights : List NodeId}
    (step :
      ∀ left ∈ lefts, ∀ right ∈ rights, ∀ leftRest rightRest,
        List.Forall₂ relation (leftWalk left ++ leftRest) (rightWalk right ++ rightRest) →
          result left right ∧ List.Forall₂ relation leftRest rightRest)
    (lengths : lefts.length = rights.length)
    {leftRest rightRest : List Node}
    (same :
      List.Forall₂ relation (lefts.flatMap leftWalk ++ leftRest)
        (rights.flatMap rightWalk ++ rightRest)) :
    List.Forall₂ result lefts rights ∧ List.Forall₂ relation leftRest rightRest := by
  induction lefts generalizing rights with
  | nil =>
      cases rights with
      | nil => exact ⟨.nil, same⟩
      | cons right rights => cases lengths
  | cons left lefts induction =>
      cases rights with
      | nil => cases lengths
      | cons right rights =>
          simp only [List.flatMap_cons, List.append_assoc] at same
          rcases step left List.mem_cons_self right List.mem_cons_self _ _ same with
            ⟨first, sameRest⟩
          have stepRest := fun other member another anotherMember =>
            step other (List.mem_cons_of_mem left member) another
              (List.mem_cons_of_mem right anotherMember)
          rcases induction stepRest (Nat.succ.inj lengths) sameRest with ⟨later, after⟩
          exact ⟨.cons first later, after⟩

theorem flatMap_congr_of_forall₂ {α : Type} {leftResult rightResult : NodeId → List α}
    {lefts rights : List NodeId}
    (equal : List.Forall₂ (fun left right => leftResult left = rightResult right) lefts rights) :
    lefts.flatMap leftResult = rights.flatMap rightResult := by
  induction equal with
  | nil => rfl
  | cons first _ induction => rw [List.flatMap_cons, List.flatMap_cons, first, induction]

/--
The pre-order of a whole subtree can be read off the nodes that it begins: the numbers of children
say where it ends.  So subtrees of the same shapes have the same skeleton.
-/
theorem skeletonWithin_eq_and_rest {left right : Model} {leftLevels rightLevels : Nat}
    {leftId rightId : NodeId}
    (leftWhole : IsWhole left leftLevels leftId)
    (rightWhole : IsWhole right rightLevels rightId)
    (depth : Nat)
    {leftRest rightRest : List Node}
    (same :
      List.Forall₂ SameShape (left.descendantsWithin leftLevels leftId ++ leftRest)
        (right.descendantsWithin rightLevels rightId ++ rightRest)) :
    skeletonWithin left leftLevels depth leftId = skeletonWithin right rightLevels depth rightId ∧
      List.Forall₂ SameShape leftRest rightRest := by
  induction leftLevels generalizing rightLevels leftId rightId depth leftRest rightRest with
  | zero => cases leftWhole
  | succ leftLevels induction =>
      cases rightLevels with
      | zero => cases rightWhole
      | succ rightLevels =>
          rcases leftWhole with ⟨leftNode, leftFound, leftChildren⟩
          rcases rightWhole with ⟨rightNode, rightFound, rightChildren⟩
          simp only [Model.descendantsWithin, leftFound, rightFound, List.cons_append,
            List.forall₂_cons] at same
          rw [skeletonWithin_succ leftFound, skeletonWithin_succ rightFound,
            same.1.skeletonStep_eq depth, List.append_cancel_left_eq]
          have step := fun leftChild leftListed rightChild rightListed leftAfter rightAfter =>
            @induction _ _ _ (leftChildren leftChild leftListed)
              (rightChildren rightChild rightListed) (skeletonStep rightNode depth).2 leftAfter
              rightAfter
          rcases forall₂_and_rest step same.1.children same.2 with ⟨results, after⟩
          exact ⟨flatMap_congr_of_forall₂ results, after⟩

/-! ## Candidates of accepted models -/

/--
An id from which all chains of child lists are shorter than a number of levels has a whole
subtree of that many levels.
-/
theorem isWhole_of_chains_lt {model : Model}
    (distinct : (model.nodes.map Node.id).Nodup)
    (present :
      ∀ node ∈ model.nodes, ∀ child ∈ node.children, child ∈ model.nodes.map Node.id)
    {levels : Nat} {id : NodeId}
    (member : id ∈ model.nodes.map Node.id)
    (shorter : ∀ depth bottom, Model.AtDepth model.nodes id depth bottom → depth < levels) :
    IsWhole model levels id := by
  induction levels generalizing id with
  | zero => exact absurd (shorter 0 id .root) (Nat.not_lt_zero 0)
  | succ levels induction =>
      rcases List.mem_map.mp member with ⟨node, isNode, rfl⟩
      refine ⟨node, Model.exists_node?_eq_some distinct isNode, ?_⟩
      intro child listed
      apply induction (present node isNode child listed)
      intro depth bottom chain
      have listsChild : Model.ListsChild model.nodes node.id child := ⟨node, isNode, rfl, listed⟩
      exact Nat.lt_of_succ_lt_succ
        (shorter (depth + 1) bottom (Model.atDepth_succ_iff.mpr ⟨child, listsChild, chain⟩))

/-- In a well-formed model the subtree of every id that hangs from the root is whole. -/
theorem isWhole_of_reachable {model : Model}
    (wellFormed : model.IsWellFormed)
    {id : NodeId}
    (hangs : Model.Reachable model.nodes model.root id) :
    IsWhole model model.nodes.length id := by
  have member : id ∈ model.nodes.map Node.id := by
    cases hangs with
    | refl => exact wellFormed.root_mem_ids
    | tail _ listsChild =>
        rcases listsChild with ⟨parent, isNode, _, listed⟩
        exact wellFormed.children_mem_ids parent isNode id listed
  apply isWhole_of_chains_lt wellFormed.distinctIds wellFormed.children_mem_ids member
  intro depth bottom chain
  exact chain.lt_length_of_no_cycle wellFormed.nonempty wellFormed.children_mem_ids
    fun passed reached _ => wellFormed.not_onCycle_of_reachable (hangs.trans reached)

/-- In an accepted model the subtree of every node but a comment is whole. -/
theorem isWhole_of_ingest {path : SourcePath} {root : NodeId} {nodes : List Node}
    {lineCount : Option UInt32} {model : Model}
    (accepted : Model.ingest path root nodes lineCount = .ok model)
    {node : Node}
    (member : node ∈ model.nodes)
    (notComment : node.kind ≠ .comment) :
    IsWhole model model.nodes.length node.id :=
  have wellFormed := Model.IsWellFormed.of_ingest accepted
  isWhole_of_reachable wellFormed (wellFormed.reachable node member notComment)

/-- The views of a candidate are those of the subtree of its node, which is no comment. -/
structure IsCandidateAt (candidate : Candidate) (model : Model) (node : Node) : Prop where
  notComment : node.kind ≠ .comment
  statements :
    candidate.statements = (model.descendants node.id).countP Metric.isCountedStatement
  exact : candidate.exact = exactDigest (tokens model node.id)
  shape : candidate.shape = shapeDigest? (skeleton model node.id)
  bigrams : candidate.bigrams = bigrams (tokens model node.id)

theorem candidateKind?_comment (model : Model) {node : Node}
    (isComment : node.kind = .comment) :
    candidateKind? model node = none := by
  simp [candidateKind?, Node.isStatement, isComment]

theorem isCandidateAt_of_eq_some {model : Model} {minStatements : Nat} {node : Node}
    {candidate : Candidate}
    (found : candidate? model minStatements node = some candidate) :
    IsCandidateAt candidate model node := by
  simp only [candidate?, Option.bind_eq_bind, Option.bind_eq_some_iff] at found
  rcases found with ⟨kind, isKind, _, _, equal⟩
  cases equal
  refine ⟨?_, rfl, rfl, rfl, rfl⟩
  intro isComment
  rw [candidateKind?_comment model isComment] at isKind
  cases isKind

/-- The digests of the pairs of neighbouring tokens depend only on the texts of the tokens. -/
theorem bigrams_eq_of_texts_eq {left right : List Token}
    (equal : left.map Token.text = right.map Token.text) :
    bigrams left = bigrams right := by
  have ofTexts (tokens : List Token) :
      ((tokens.zip (tokens.drop 1)).map fun pair =>
          Digest.ofText (pair.1.text ++ ":" ++ pair.2.text)) =
        ((tokens.map Token.text).zip ((tokens.map Token.text).drop 1)).map fun pair =>
          Digest.ofText (pair.1 ++ ":" ++ pair.2) := by
    rw [← List.map_drop, List.zip_map, List.map_map]
    rfl
  rw [bigrams, bigrams, ofTexts left, ofTexts right, equal]

theorem isCountedStatement_eq_getD (node : Node) :
    Metric.isCountedStatement node =
      (node.kind == .statement && node.statement.getD .other != .block) := by
  rw [Metric.isCountedStatement]
  cases node.statement with
  | none => rfl
  | some kind => rfl

theorem SameShape.isCountedStatement_eq {left right : Node}
    (same : SameShape left right) :
    Metric.isCountedStatement left = Metric.isCountedStatement right := by
  rw [isCountedStatement_eq_getD, isCountedStatement_eq_getD, ← same.kind]
  by_cases isStatement : left.kind = .statement
  · rw [same.statement isStatement]
  · rw [beq_eq_false_iff_ne.mpr isStatement, Bool.false_and, Bool.false_and]

theorem countP_eq_of_forall₂ {lefts rights : List Node}
    (same : List.Forall₂ SameShape lefts rights) :
    lefts.countP Metric.isCountedStatement = rights.countP Metric.isCountedStatement := by
  induction same with
  | nil => rfl
  | cons headSame _ induction =>
      rw [List.countP_cons, List.countP_cons, headSame.isCountedStatement_eq, induction]

/--
The tokens of two candidates of accepted models are the same texts exactly when their subtrees are
alpha-equivalent, and then the candidates have the same digest, skeleton, number of statements and
pairs of tokens.
-/
theorem tokens_eq_iff_alphaEquivalent
    (leftPath rightPath : SourcePath)
    (leftRoot rightRoot : NodeId)
    (leftNodes rightNodes : List Node)
    (leftLines rightLines : Option UInt32)
    (left right : Model)
    (leftAccepted : Model.ingest leftPath leftRoot leftNodes leftLines = .ok left)
    (rightAccepted : Model.ingest rightPath rightRoot rightNodes rightLines = .ok right)
    (leftNode rightNode : Node)
    (leftMember : leftNode ∈ left.nodes)
    (rightMember : rightNode ∈ right.nodes)
    (leftMinimum rightMinimum : Nat)
    (leftCandidate rightCandidate : Candidate)
    (leftFound : candidate? left leftMinimum leftNode = some leftCandidate)
    (rightFound : candidate? right rightMinimum rightNode = some rightCandidate) :
    ((tokens left leftNode.id).map Token.text = (tokens right rightNode.id).map Token.text ↔
        AlphaEquivalent left leftNode.id right rightNode.id) ∧
      ((tokens left leftNode.id).map Token.text = (tokens right rightNode.id).map Token.text →
        leftCandidate.exact = rightCandidate.exact ∧
          leftCandidate.shape = rightCandidate.shape ∧
          leftCandidate.statements = rightCandidate.statements ∧
          leftCandidate.bigrams = rightCandidate.bigrams) := by
  refine ⟨texts_tokens_eq_iff, ?_⟩
  intro equal
  have leftViews := isCandidateAt_of_eq_some leftFound
  have rightViews := isCandidateAt_of_eq_some rightFound
  have shapes := (texts_tokens_eq_iff.mp equal).shapes
  have skeletons : skeleton left leftNode.id = skeleton right rightNode.id := by
    have leftWhole := isWhole_of_ingest leftAccepted leftMember leftViews.notComment
    have rightWhole := isWhole_of_ingest rightAccepted rightMember rightViews.notComment
    have same : List.Forall₂ SameShape (left.descendants leftNode.id ++ [])
        (right.descendants rightNode.id ++ []) := by
      rwa [List.append_nil, List.append_nil]
    exact (skeletonWithin_eq_and_rest leftWhole rightWhole 0 same).1
  refine ⟨?_, ?_, ?_, ?_⟩
  · rw [leftViews.exact, rightViews.exact, exactDigest, exactDigest, equal]
  · rw [leftViews.shape, rightViews.shape, skeletons]
  · rw [leftViews.statements, rightViews.statements, countP_eq_of_forall₂ shapes]
  · rw [leftViews.bigrams, rightViews.bigrams, bigrams_eq_of_texts_eq equal]

/-- A module with a function that assigns the negative of its parameter and returns a text. -/
def negatingModule (path function parameter result answer : String) : Model :=
  let lines (startLine endLine : UInt32) : Span :=
    { startLine, startCol := 1, endLine, endCol := 9 }
  .linked
    { path := { text := path }
      root := { index := 0 }
      lineCount := some 6
      nodes :=
        [{ id := { index := 0 }, kind := .module, span := lines 1 6, children := [{ index := 1 }] },
          { id := { index := 1 }, kind := .function, span := lines 1 6, name := some function
            children := [{ index := 2 }, { index := 3 }] },
          { id := { index := 2 }, kind := .parameter, span := lines 1 1, name := some parameter },
          { id := { index := 3 }, kind := .statement, span := lines 2 6, statement := some .block
            children := [{ index := 4 }, { index := 8 }] },
          { id := { index := 4 }, kind := .statement, span := lines 2 4, statement := some .assign
            children := [{ index := 5 }, { index := 6 }] },
          { id := { index := 5 }, kind := .identifier, span := lines 2 2, name := some result },
          { id := { index := 6 }, kind := .expression, span := lines 3 4, expression := some .unary
            operator := some "-", children := [{ index := 7 }] },
          { id := { index := 7 }, kind := .identifier, span := lines 4 4, name := some parameter },
          { id := { index := 8 }, kind := .statement, span := lines 5 6, statement := some .return
            children := [{ index := 9 }] },
          { id := { index := 9 }, kind := .literal, span := lines 6 6
            literal := some (.str answer) }] }

/--
Two functions that differ in all names and texts have the same tokens, so they are
alpha-equivalent, and all views of them agree.
-/
theorem alphaEquivalent_negatingModule :
    let left := negatingModule "left.ir.json" "negate" "value" "negated" "done"
    let right := negatingModule "right.ir.json" "flip" "x" "y" "ok"
    ∃ leftNode ∈ left.nodes, ∃ rightNode ∈ right.nodes,
      ∃ leftCandidate rightCandidate : Candidate,
        Model.ingest left.path left.root left.nodes left.lineCount = .ok left ∧
          Model.ingest right.path right.root right.nodes right.lineCount = .ok right ∧
          candidate? left 2 leftNode = some leftCandidate ∧
          candidate? right 2 rightNode = some rightCandidate ∧
          AlphaEquivalent left leftNode.id right rightNode.id ∧
          leftCandidate.exact = rightCandidate.exact ∧
          leftCandidate.shape = rightCandidate.shape ∧
          leftCandidate.statements = rightCandidate.statements ∧
          leftCandidate.bigrams = rightCandidate.bigrams := by
  intro left right
  have leftMember : left.nodes[1] ∈ left.nodes := List.getElem_mem _
  have rightMember : right.nodes[1] ∈ right.nodes := List.getElem_mem _
  have leftAccepted :
      Model.ingest left.path left.root left.nodes left.lineCount = .ok left := rfl
  have rightAccepted :
      Model.ingest right.path right.root right.nodes right.lineCount = .ok right := rfl
  have leftFound : ∃ candidate, candidate? left 2 left.nodes[1] = some candidate := ⟨_, rfl⟩
  have rightFound : ∃ candidate, candidate? right 2 right.nodes[1] = some candidate := ⟨_, rfl⟩
  rcases leftFound with ⟨leftCandidate, leftFound⟩
  rcases rightFound with ⟨rightCandidate, rightFound⟩
  have equal :
      (tokens left left.nodes[1].id).map Token.text =
        (tokens right right.nodes[1].id).map Token.text := by rfl
  have views := tokens_eq_iff_alphaEquivalent _ _ _ _ _ _ _ _ left right leftAccepted rightAccepted
    _ _ leftMember rightMember 2 2 leftCandidate rightCandidate leftFound rightFound
  exact ⟨_, leftMember, _, rightMember, leftCandidate, rightCandidate, leftAccepted, rightAccepted,
    leftFound, rightFound, views.1.mp equal, views.2 equal⟩

end StructuralLint.Duplication
