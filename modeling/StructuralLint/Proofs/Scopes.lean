import StructuralLint.Proofs.ScopeWalk

/-!
# Numbered scopes

A scope is known by the position of its opener among all openers in the order of the walk.  Taking
in a model goes through the visits one after another, and the scope that it opens next always bears
the number of its opener.  What stands in the tables of scopes and places afterwards follows from
what one visit adds to them.

From this the module gets for every number the opener, the scope around it and the whole chain of
scopes outwards, and for every visited node the scope and the function that it was placed in.
-/

namespace StructuralLint.Symbols

/-- The ids of the nodes that open scopes, in the order of their scopes. -/
def openerIds (model : Model) : List NodeId :=
  model.root :: (visits model).filterMap (opened? model)

/-- The number of the scope that a node opens. -/
def numberOf (model : Model) (opener : NodeId) : ScopeId :=
  (openerIds model).idxOf opener

/-! ## One visit -/

/-- The node that opens a scope, and the scope around it. -/
def Scope.outline (scope : Scope) : NodeId × Option ScopeId :=
  (scope.node, scope.parent)

/-- The outline of the scope that is opened at a visit. -/
def outline? (model : Model) (visit : Visit) : Option (NodeId × Option ScopeId) :=
  (opened? model visit).map fun id => (id, some (numberOf model visit.opener))

namespace Scoping

/-- Takes in a node of the walk. -/
def meet (model : Model) (scoping : Scoping) (visit : Visit) : Scoping :=
  scoping.visit model visit.node (numberOf model visit.opener) visit.function

/-- Where taking in starts. -/
def start (model : Model) : Scoping :=
  (({} : Scoping).openScope .module model.root none).place model.root 0 none

/-- The outlines of scopes and the places of nodes are the same. -/
structure SamePlaces (first second : Scoping) : Prop where
  outlines : first.scopes.map Scope.outline = second.scopes.map Scope.outline
  scopeOf : first.scopeOf = second.scopeOf
  functionOf : first.functionOf = second.functionOf
  opened : first.opened = second.opened

theorem SamePlaces.refl (scoping : Scoping) : scoping.SamePlaces scoping :=
  ⟨rfl, rfl, rfl, rfl⟩

/-- Declarations change no place. -/
theorem samePlaces_takeIn (scoping : Scoping) (node : Node) (scope : ScopeId) :
    (scoping.takeIn node scope).SamePlaces scoping := by
  rw [takeIn]
  split
  · split
    · exact .refl scoping
    · rw [declare]
      split
      · exact ⟨rfl, rfl, rfl, rfl⟩
      · refine ⟨?_, rfl, rfl, rfl⟩
        apply map_modify_eq
        intro _
        rfl
  · exact .refl scoping

/-- What stands in the tables of scopes and places after some visits. -/
structure Places (scoping : Scoping) (model : Model) (met : List Visit) : Prop where
  outlines :
    scoping.scopes.map Scope.outline = (model.root, none) :: met.filterMap (outline? model)
  scopeOf :
    scoping.scopeOf =
      ((model.root, 0) :: met.map fun visit =>
        (visit.node.id, numberOf model visit.opener)).reverse
  functionOf :
    scoping.functionOf =
      (met.filterMap fun visit =>
        visit.function.map fun function => (visit.node.id, function)).reverse
  opened : scoping.opened = (scoping.scopes.map Scope.node).zipIdx.reverse

variable {model : Model} {scoping : Scoping} {met : List Visit}

theorem Places.start : (start model).Places model [] :=
  ⟨rfl, rfl, rfl, rfl⟩

theorem map_node_eq_of_outlines {first second : Scoping}
    (same : first.scopes.map Scope.outline = second.scopes.map Scope.outline) :
    first.scopes.map Scope.node = second.scopes.map Scope.node := by
  simpa [Scope.outline, Function.comp_def] using congrArg (List.map Prod.fst) same

/-- One more node is placed, and its scope is opened. -/
theorem Places.meet (places : scoping.Places model met) (visit : Visit) :
    (scoping.meet model visit).Places model (met ++ [visit]) := by
  have same :=
    samePlaces_takeIn (scoping.place visit.node.id (numberOf model visit.opener) visit.function)
      visit.node (numberOf model visit.opener)
  have outlines := same.outlines.trans places.outlines
  have nodes := map_node_eq_of_outlines same.outlines
  have opened := same.opened.trans places.opened
  have scopeOf :
      ((scoping.place visit.node.id (numberOf model visit.opener) visit.function).takeIn visit.node
          (numberOf model visit.opener)).scopeOf =
        ((model.root, 0) :: (met ++ [visit]).map fun visit =>
          (visit.node.id, numberOf model visit.opener)).reverse := by
    rw [same.scopeOf]
    simp [place, places.scopeOf, Lookup.record]
  have functionOf :
      ((scoping.place visit.node.id (numberOf model visit.opener) visit.function).takeIn visit.node
          (numberOf model visit.opener)).functionOf =
        ((met ++ [visit]).filterMap fun visit =>
          visit.function.map fun function => (visit.node.id, function)).reverse := by
    rw [same.functionOf]
    cases isFunction : visit.function with
    | none => simp [place, isFunction, places.functionOf]
    | some function => simp [place, isFunction, places.functionOf, Lookup.record]
  rw [Scoping.meet, Scoping.visit]
  cases isKind : scopeKind? model visit.node with
  | none =>
      refine ⟨?_, scopeOf, functionOf, ?_⟩
      · simp [outlines, outline?, opened?, isKind]
      · rw [nodes]
        exact opened
  | some kind =>
      refine ⟨?_, scopeOf, functionOf, ?_⟩
      · simp [openScope, outlines, outline?, opened?, isKind, Scope.outline]
      · have sameLength := congrArg List.length nodes
        rw [List.length_map, List.length_map] at sameLength
        simp only [openScope, opened, List.map_append, nodes, sameLength]
        simp [place, Lookup.record, List.zipIdx_append]

/-- After a walk, what stands in the tables comes from the visits. -/
theorem Places.foldl (places : scoping.Places model met) (walk : List Visit) :
    (walk.foldl (Scoping.meet model) scoping).Places model (met ++ walk) := by
  induction walk generalizing scoping met with
  | nil => simpa using places
  | cons visit rest induction => simpa using induction (places.meet visit)

theorem length_scopes_meet (scoping : Scoping) (visit : Visit) :
    (scoping.meet model visit).scopes.length =
      scoping.scopes.length + (opened? model visit).toList.length := by
  have same :=
    congrArg List.length
      (samePlaces_takeIn (scoping.place visit.node.id (numberOf model visit.opener) visit.function)
        visit.node (numberOf model visit.opener)).outlines
  rw [List.length_map, List.length_map] at same
  rw [Scoping.meet, Scoping.visit, opened?]
  cases scopeKind? model visit.node with
  | none => exact same
  | some kind =>
      simp only [openScope, List.length_append, same]
      rfl

theorem length_scopes_foldl (scoping : Scoping) (walk : List Visit) :
    (walk.foldl (Scoping.meet model) scoping).scopes.length =
      scoping.scopes.length + (walk.filterMap (opened? model)).length := by
  induction walk generalizing scoping with
  | nil => rfl
  | cons visit rest induction =>
      rw [List.foldl_cons, induction, length_scopes_meet, filterMap_opened?_cons,
        List.length_append, Nat.add_assoc]

end Scoping

/-! ## The walk goes through the visits -/

section Walk

variable {model : Model}

theorem mem_openerIds_of_mem_visits {visit : Visit}
    (member : visit ∈ visits model) :
    visit.opener ∈ openerIds model := by
  -- What is known when a node is visited are openers, and its own opener is among them.
  have known {before : List NodeId} {walk : List Visit}
      (inOrder : OpenedInOrder model before walk) (isVisit : visit ∈ walk) :
      visit.opener ∈ before ++ walk.filterMap (opened? model) := by
    induction walk generalizing before with
    | nil => cases isVisit
    | cons first rest induction =>
        rcases List.mem_cons.mp isVisit with rfl | later
        · exact List.mem_append_left _ inOrder.1
        · have inRest := induction inOrder.2 later
          rwa [List.append_assoc, ← filterMap_opened?_cons] at inRest
  exact known openedInOrder_visits member

/--
Taking in subtrees one after another goes through their visits, if taking in each of them
does.
-/
theorem foldl_eq_of_each {walk : NodeId → List Visit} {takeIn : Scoping → NodeId → Scoping}
    (each :
      ∀ id known rest scoping,
        openerIds model = known ++ (walk id).filterMap (opened? model) ++ rest →
        scoping.scopes.length = known.length →
          takeIn scoping id = (walk id).foldl (Scoping.meet model) scoping)
    (ids : List NodeId) {known rest : List NodeId} {scoping : Scoping}
    (split :
      openerIds model = known ++ (ids.flatMap walk).filterMap (opened? model) ++ rest)
    (counted : scoping.scopes.length = known.length) :
    ids.foldl takeIn scoping = (ids.flatMap walk).foldl (Scoping.meet model) scoping := by
  induction ids generalizing known scoping with
  | nil => rfl
  | cons id others induction =>
      rw [List.flatMap_cons, List.filterMap_append, ← List.append_assoc] at split
      rw [List.foldl_cons, List.flatMap_cons, List.foldl_append,
        each id known _ scoping (split.trans (List.append_assoc _ _ _)) counted]
      apply induction split
      rw [Scoping.length_scopes_foldl, counted, List.length_append]

variable (wellFormed : model.IsWellFormed)

include wellFormed

theorem nodup_openerIds : (openerIds model).Nodup := by
  rw [openerIds, List.nodup_cons]
  constructor
  · intro again
    rcases List.mem_filterMap.mp again with ⟨visit, isVisit, opens⟩
    rcases Option.map_eq_some_iff.mp opens with ⟨_, _, isRoot⟩
    exact (mem_descendants_of_mem_visits wellFormed isVisit).2 isRoot
  · have keeps (visit : Visit) (id : NodeId) (opens : opened? model visit = some id) :
        id = visit.node.id := by
      rcases Option.map_eq_some_iff.mp opens with ⟨_, _, equal⟩
      exact equal.symm
    simpa using nodup_keys_filterMap keeps (nodup_visits wellFormed)

/-- Behind the openers that are known, the next one bears the number of known ones. -/
theorem numberOf_eq_length {known rest : List NodeId} {opener : NodeId}
    (split : openerIds model = known ++ opener :: rest) :
    numberOf model opener = known.length := by
  have distinct := nodup_openerIds wellFormed
  rw [split] at distinct
  have notKnown : opener ∉ known := by
    intro isKnown
    exact (List.nodup_append.mp distinct).2.2 opener isKnown opener List.mem_cons_self rfl
  rw [numberOf, split, List.idxOf_append_of_notMem notKnown, List.idxOf_cons_self, Nat.add_zero]

/--
Taking in a subtree goes through its visits, and opens scopes under the numbers of their
openers.
-/
theorem declareWithin_eq_foldl {levels : Nat} {opener : NodeId} {function : Option NodeId}
    {id : NodeId} {known rest : List NodeId} {scoping : Scoping}
    (split :
      openerIds model =
        known ++ (visitsWithin model levels opener function id).filterMap (opened? model) ++ rest)
    (counted : scoping.scopes.length = known.length) :
    declareWithin model levels (numberOf model opener) function scoping id =
      (visitsWithin model levels opener function id).foldl (Scoping.meet model) scoping := by
  induction levels generalizing opener function id known rest scoping with
  | zero => rfl
  | succ levels induction =>
      rw [declareWithin]
      rw [visitsWithin] at split ⊢
      cases found : model.node? id with
      | none => rfl
      | some node =>
          -- A scope that the node opens is the next one and bears the number of the node.
          rcases Model.mem_of_node?_eq_some found with ⟨_, rfl⟩
          simp only [found] at split ⊢
          rw [filterMap_opened?_cons, ← List.append_assoc] at split
          have inner :
              (if (scopeKind? model node).isSome then scoping.scopes.length
                else numberOf model opener) =
                numberOf model (if (scopeKind? model node).isSome then node.id else opener) := by
            cases isKind : scopeKind? model node with
            | none => rfl
            | some kind =>
                rw [opened?, isKind, List.append_assoc, List.append_assoc] at split
                exact counted.trans (numberOf_eq_length wellFormed split).symm
          have nextCounted :
              (scoping.meet model { node, opener, function }).scopes.length =
                (known ++ (opened? model { node, opener, function }).toList).length := by
            rw [Scoping.length_scopes_meet, counted, List.length_append]
          rw [List.foldl_cons, inner]
          exact foldl_eq_of_each (fun _ _ _ _ => induction) node.children split nextCounted

/-- Taking in a model goes through its visits. -/
theorem scoping_eq_foldl :
    scoping model = (visits model).foldl (Scoping.meet model) (Scoping.start model) := by
  rw [scoping]
  cases found : model.node? model.root with
  | none =>
      rw [visits, found]
      rfl
  | some rootNode =>
      have split :
          openerIds model = [model.root] ++ (visits model).filterMap (opened? model) ++ [] :=
        (List.append_nil _).symm
      have counted : (Scoping.start model).scopes.length = [model.root].length := rfl
      have isRoot : numberOf model model.root = 0 := List.idxOf_cons_self
      rw [visits, found] at split ⊢
      have fromRoot :=
        foldl_eq_of_each (fun _ _ _ _ => declareWithin_eq_foldl wellFormed) rootNode.children split
          counted
      rwa [isRoot] at fromRoot

theorem places_scoping : (scoping model).Places model (visits model) := by
  rw [scoping_eq_foldl wellFormed]
  exact Scoping.Places.start.foldl (visits model)

theorem map_node_scopes : (scoping model).scopes.map Scope.node = openerIds model := by
  have outlines := congrArg (List.map Prod.fst) (places_scoping wellFormed).outlines
  rw [List.map_map, List.map_cons, List.map_filterMap] at outlines
  simpa [outline?, openerIds, Function.comp_def, Scope.outline] using outlines

theorem length_scopes : (scoping model).scopes.length = (openerIds model).length := by
  rw [← map_node_scopes wellFormed, List.length_map]

theorem numberOf_lt_length {opener : NodeId}
    (opens : opener ∈ openerIds model) :
    numberOf model opener < (scoping model).scopes.length := by
  rw [length_scopes wellFormed]
  exact List.idxOf_lt_length_of_mem opens

omit wellFormed in
theorem numberOf_root : numberOf model model.root = 0 :=
  List.idxOf_cons_self

omit wellFormed in
theorem numberOf_inj {first second : NodeId}
    (opens : first ∈ openerIds model) :
    numberOf model first = numberOf model second ↔ first = second := by
  rw [numberOf, numberOf, List.idxOf_inj opens]

/-- A scope is that of the root, or it was opened at a visit. -/
theorem outline_cases {scope : Scope}
    (member : scope ∈ (scoping model).scopes) :
    (scope.node = model.root ∧ scope.parent = none) ∨
      ∃ visit ∈ visits model,
        opened? model visit = some scope.node ∧ scope.node = visit.node.id ∧
          scope.parent = some (numberOf model visit.opener) := by
  have isOutline := List.mem_map_of_mem (f := Scope.outline) member
  rw [(places_scoping wellFormed).outlines, List.mem_cons, List.mem_filterMap] at isOutline
  rcases isOutline with isRoot | ⟨visit, isVisit, isOutline⟩
  · exact Or.inl (Prod.mk.inj isRoot)
  · rcases Option.map_eq_some_iff.mp isOutline with ⟨id, opens, isPair⟩
    rcases Prod.mk.inj isPair with ⟨rfl, isParent⟩
    rcases Option.map_eq_some_iff.mp opens with ⟨_, _, isId⟩
    exact Or.inr ⟨visit, isVisit, opens, isId.symm, isParent.symm⟩

/-- A scope bears the number of its opener. -/
theorem numberOf_node_eq {number : ScopeId} {scope : Scope}
    (found : (scoping model).scope? number = some scope) :
    numberOf model scope.node = number := by
  have atNumber : (openerIds model)[number]? = some scope.node := by
    rw [← map_node_scopes wellFormed, List.getElem?_map]
    exact congrArg (Option.map Scope.node) found
  rcases List.getElem?_eq_some_iff.mp atNumber with ⟨bound, isNode⟩
  rw [numberOf, ← isNode]
  exact (nodup_openerIds wellFormed).idxOf_getElem number bound

/-- An opener has a scope under its number. -/
theorem exists_scope {opener : NodeId}
    (opens : opener ∈ openerIds model) :
    ∃ scope, (scoping model).scope? (numberOf model opener) = some scope ∧ scope.node = opener := by
  have atNumber : (openerIds model)[numberOf model opener]? = some opener :=
    List.getElem?_idxOf opens
  rwa [← map_node_scopes wellFormed, List.getElem?_map, Option.map_eq_some_iff] at atNumber

/-- A scope is opened by the node that it names, and by no other. -/
theorem openedBy?_eq_some_iff {node : NodeId} {number : ScopeId} :
    (scoping model).openedBy? node = some number ↔
      ∃ scope, (scoping model).scope? number = some scope ∧ scope.node = node := by
  have distinct :
      (((scoping model).scopes.map Scope.node).zipIdx.map Prod.fst).Nodup := by
    rw [List.zipIdx_map_fst, map_node_scopes wellFormed]
    exact nodup_openerIds wellFormed
  rw [Scoping.openedBy?, (places_scoping wellFormed).opened,
    Lookup.get?_reverse_eq_some_iff distinct, List.mem_zipIdx_iff_getElem?, List.getElem?_map,
    Option.map_eq_some_iff]
  rfl

/-- The scope around the scope of a visited opener has a smaller number. -/
theorem numberOf_opener_lt {visit : Visit}
    (member : visit ∈ visits model)
    (opens : opened? model visit = some visit.node.id) :
    numberOf model visit.opener < numberOf model visit.node.id :=
  openedInOrder_visits.idxOf_lt (nodup_openerIds wellFormed) member opens

/-- The innermost opener around a visited node, and the openers around that one. -/
theorem exists_openersAround_visit {visit : Visit}
    (member : visit ∈ visits model) :
    ∃ innermost,
      openersAround model visit.node.id = innermost :: openersAround model visit.opener ∧
        innermost.id = visit.opener := by
  rcases Option.map_eq_some_iff.mp (isPlaced_of_mem_visits wellFormed member).1 with
    ⟨innermost, isHead, isOpener⟩
  have reachable :=
    (wellFormed.mem_descendants_iff.mp (mem_descendants_of_mem_visits wellFormed member).1).2
  refine ⟨innermost, ?_, isOpener⟩
  rw [openersAround_eq_cons wellFormed reachable isHead, isOpener]

/-- From an opener outwards, the chain of scopes is that of the openers around it. -/
theorem chainWithin_numberOf {levels : Nat} {opener : NodeId}
    (opens : opener ∈ openerIds model)
    (bound : numberOf model opener < levels) :
    (scoping model).chainWithin levels (numberOf model opener) =
      numberOf model opener ::
        (openersAround model opener).map fun around => numberOf model around.id := by
  induction levels generalizing opener with
  | zero => exact absurd bound (Nat.not_lt_zero _)
  | succ levels induction =>
      rcases exists_scope wellFormed opens with ⟨scope, found, rfl⟩
      rw [Scoping.chainWithin, found]
      rcases outline_cases wellFormed (List.mem_of_getElem? found) with
        ⟨isRoot, noParent⟩ | ⟨visit, isVisit, opened, isNode, isParent⟩
      · simp [noParent, isRoot, openersAround_root wellFormed]
      · rw [isNode] at opened bound ⊢
        rcases exists_openersAround_visit wellFormed isVisit with ⟨innermost, around, isOpener⟩
        have smaller := numberOf_opener_lt wellFormed isVisit opened
        have closer : numberOf model visit.opener < levels :=
          Nat.lt_of_lt_of_le smaller (Nat.le_of_lt_succ bound)
        have outer := induction (mem_openerIds_of_mem_visits isVisit) closer
        simp only [isParent, around, List.map_cons, isOpener, outer]

/-- The scopes from that of a visited node outwards are those of the openers around the node. -/
theorem chain_visit {visit : Visit}
    (member : visit ∈ visits model) :
    (scoping model).chain (numberOf model visit.opener) =
      (openersAround model visit.node.id).map fun around => numberOf model around.id := by
  have opens := mem_openerIds_of_mem_visits member
  rcases exists_openersAround_visit wellFormed member with ⟨innermost, around, isOpener⟩
  rw [Scoping.chain, chainWithin_numberOf wellFormed opens (numberOf_lt_length wellFormed opens),
    around, List.map_cons, isOpener]

/-! ## Places of nodes -/

theorem scopeOf?_visit {visit : Visit}
    (member : visit ∈ visits model) :
    (scoping model).scopeOf? visit.node.id = some (numberOf model visit.opener) := by
  have distinct :
      (((model.root, 0) :: (visits model).map fun visit =>
        (visit.node.id, numberOf model visit.opener)).map Prod.fst).Nodup := by
    rw [List.map_cons, List.map_map, List.nodup_cons]
    refine ⟨?_, nodup_visits wellFormed⟩
    intro again
    rcases List.mem_map.mp again with ⟨other, isVisit, isRoot⟩
    exact (mem_descendants_of_mem_visits wellFormed isVisit).2 isRoot
  rw [Scoping.scopeOf?, (places_scoping wellFormed).scopeOf,
    Lookup.get?_reverse_eq_some_iff distinct]
  exact List.mem_cons_of_mem _ (List.mem_map.mpr ⟨visit, member, rfl⟩)

/-- The function around a node is the one that the walk remembered at a visit. -/
theorem enclosingFunction?_eq_some_iff {node function : NodeId} :
    (scoping model).enclosingFunction? node = some function ↔
      ∃ visit ∈ visits model, visit.node.id = node ∧ visit.function = some function := by
  have keeps (visit : Visit) (entry : NodeId × NodeId)
      (made : (visit.function.map fun function => (visit.node.id, function)) = some entry) :
      entry.1 = visit.node.id := by
    rcases Option.map_eq_some_iff.mp made with ⟨_, _, rfl⟩
    rfl
  rw [Scoping.enclosingFunction?, (places_scoping wellFormed).functionOf,
    Lookup.get?_reverse_eq_some_iff (nodup_keys_filterMap keeps (nodup_visits wellFormed)),
    List.mem_filterMap]
  apply exists_congr
  intro visit
  apply and_congr_right
  intro _
  rw [Option.map_eq_some_iff]
  constructor
  · rintro ⟨_, isFunction, isEntry⟩
    rcases Prod.mk.inj isEntry with ⟨sameNode, rfl⟩
    exact ⟨sameNode, isFunction⟩
  · rintro ⟨rfl, isFunction⟩
    exact ⟨function, isFunction, rfl⟩

theorem enclosingFunction?_visit {visit : Visit}
    (member : visit ∈ visits model) :
    (scoping model).enclosingFunction? visit.node.id = visit.function := by
  apply Option.ext
  intro function
  rw [enclosingFunction?_eq_some_iff wellFormed]
  constructor
  · rintro ⟨other, isVisit, sameNode, isFunction⟩
    rwa [← List.inj_on_of_nodup_map (nodup_visits wellFormed) isVisit member sameNode]
  · intro isFunction
    exact ⟨visit, member, rfl, isFunction⟩

end Walk

end StructuralLint.Symbols
