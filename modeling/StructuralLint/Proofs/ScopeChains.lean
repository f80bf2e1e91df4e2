import StructuralLint.Proofs.SymbolTable
import StructuralLint.Proofs.TreeOrder

/-!
# Scopes around scopes and the symbols in them

The walk outwards from a scope meets exactly the scopes around it, each once.  Every scope is opened
by one node, which is the root, a class, a function, a block or a loop, unless it is a lambda.  The
symbols of a table stand in the order of their declarations, and the list of a scope is the part of
them that names the scope.
-/

namespace StructuralLint.Symbols

/-- The first scope lies directly around the second. -/
def Scoping.IsAround (scoping : Scoping) (outer inner : ScopeId) : Prop :=
  ∃ scope, scoping.scope? inner = some scope ∧ scope.parent = some outer

/-- The first scope is the second or lies around it. -/
def Scoping.Encloses (scoping : Scoping) : ScopeId → ScopeId → Prop :=
  Relation.ReflTransGen scoping.IsAround

/-! ## The walk outwards -/

section Chain

variable {scoping : Scoping} {outer inner : ScopeId} {scope : Scope}

/-- Numbers before that of a scope are numbers of scopes. -/
theorem Scoping.exists_scope_of_lt
    (found : scoping.scope? inner = some scope)
    (before : outer < inner) :
    ∃ other, scoping.scope? outer = some other :=
  ⟨_, List.getElem?_eq_getElem (Nat.lt_trans before (List.getElem?_eq_some_iff.mp found).1)⟩

/-- Around a scope lie its parent and what lies around that. -/
theorem Scoping.encloses_iff (found : scoping.scope? inner = some scope) :
    scoping.Encloses outer inner ↔
      outer = inner ∨ ∃ parent, scope.parent = some parent ∧ scoping.Encloses outer parent := by
  rw [Scoping.Encloses, Relation.ReflTransGen.cases_tail_iff, eq_comm]
  apply or_congr_right
  constructor
  · rintro ⟨parent, encloses, same, isSame, isParent⟩
    cases found.symm.trans isSame
    exact ⟨parent, isParent, encloses⟩
  · rintro ⟨parent, isParent, encloses⟩
    exact ⟨parent, encloses, scope, found, isParent⟩

section Sound

variable (sound : scoping.IsSound)

include sound

theorem Scoping.IsSound.le_of_encloses (encloses : scoping.Encloses outer inner) :
    outer ≤ inner := by
  induction encloses with
  | refl => exact Nat.le_refl outer
  | tail _ around induction =>
      rcases around with ⟨scope, found, isParent⟩
      exact Nat.le_trans induction (Nat.le_of_lt (sound.parentBefore _ scope _ found isParent))

/-- The walk outwards starts at the scope and goes on from its parent, and it falls all the way. -/
theorem Scoping.IsSound.chainWithin_spec {levels : Nat}
    (found : scoping.scope? inner = some scope)
    (bound : inner < levels) :
    (∀ outer, outer ∈ scoping.chainWithin levels inner ↔ scoping.Encloses outer inner) ∧
      (scoping.chainWithin levels inner).Pairwise (· > ·) := by
  induction levels generalizing inner scope with
  | zero => exact absurd bound (Nat.not_lt_zero inner)
  | succ levels induction =>
      simp only [Scoping.chainWithin, found, Scoping.encloses_iff found]
      cases isParent : scope.parent with
      | none => simp
      | some parent =>
          have before := sound.parentBefore inner scope parent found isParent
          rcases Scoping.exists_scope_of_lt found before with ⟨around, isAround⟩
          rcases induction isAround (Nat.lt_of_lt_of_le before (Nat.le_of_lt_succ bound)) with
            ⟨members, falls⟩
          refine ⟨fun outer => by simp [members], List.pairwise_cons.mpr ⟨?_, falls⟩⟩
          intro outer further
          exact Nat.lt_of_le_of_lt (sound.le_of_encloses ((members outer).mp further)) before

/-- Behind the scope itself the walk outwards meets the scopes around it, each once. -/
theorem Scoping.IsSound.mem_drop_chain_iff (found : scoping.scope? inner = some scope) :
    outer ∈ (scoping.chain inner).drop 1 ↔ scoping.Encloses outer inner ∧ outer ≠ inner := by
  have bound := (List.getElem?_eq_some_iff.mp found).1
  have starts : ∃ rest, scoping.chain inner = inner :: rest := by
    rw [Scoping.chain]
    cases count : scoping.scopes.length with
    | zero => exact absurd bound (by omega)
    | succ levels =>
        rw [Scoping.chainWithin, found]
        exact ⟨_, rfl⟩
  rcases starts with ⟨rest, starts⟩
  rcases sound.chainWithin_spec found bound with ⟨members, falls⟩
  rw [← Scoping.chain, starts] at members falls
  rw [starts, List.drop_one, List.tail_cons, ← members, List.mem_cons]
  have below := (List.pairwise_cons.mp falls).1
  constructor
  · intro further
    exact ⟨Or.inr further, Nat.ne_of_lt (below outer further)⟩
  · rintro ⟨same | further, different⟩
    · exact absurd same different
    · exact further

theorem Scoping.IsSound.nodup_drop_chain (found : scoping.scope? inner = some scope) :
    ((scoping.chain inner).drop 1).Nodup := by
  have bound := (List.getElem?_eq_some_iff.mp found).1
  exact ((sound.chainWithin_spec found bound).2.imp Nat.ne_of_gt).sublist (List.drop_sublist 1 _)

end Sound

end Chain

/-! ## Openers -/

section Openers

variable {model : Model} (wellFormed : model.IsWellFormed)

include wellFormed

/-- A scope is opened by the node that it names, and by no other. -/
theorem openedBy?_resolve_eq_some_iff {node : NodeId} {number : ScopeId} :
    (resolve model).openedBy? node = some number ↔
      ∃ scope, (resolve model).scope? number = some scope ∧ scope.node = node := by
  rw [openedBy?_resolve, scope?_resolve, openedBy?_eq_some_iff wellFormed]

/--
The node that opens a scope is a lambda, or it is a module, a class, a function or a
statement.
-/
theorem exists_opener {number : ScopeId} {scope : Scope}
    (found : (resolve model).scope? number = some scope) :
    ∃ node ∈ model.nodes,
      node.id = scope.node ∧
        (node.isExpression .lambda = true ∨
          node.kind ∈ [NodeKind.module, .class, .function, .statement]) := by
  rw [scope?_resolve] at found
  rcases outline_cases wellFormed (List.mem_of_getElem? found) with
    ⟨isRoot, _⟩ | ⟨visit, isVisit, isOpened, isNode, _⟩
  · rcases wellFormed.rootIsModule with ⟨node, member, isRootNode, isModule⟩
    exact ⟨node, member, isRootNode.trans isRoot.symm, Or.inr (by simp [isModule])⟩
  · have member := (Model.reachable_of_mem_descendantsWithin
      (mem_descendants_of_mem_visits wellFormed isVisit).1).1
    refine ⟨visit.node, member, isNode.symm, ?_⟩
    rcases Option.map_eq_some_iff.mp isOpened with ⟨scopeKind, hasKind, _⟩
    rw [scopeKind?] at hasKind
    rw [Node.isExpression]
    cases isKind : visit.node.kind with
    | «class» | function | statement => simp
    | expression =>
        rw [isKind] at hasKind
        simpa using (Option.ite_none_right_eq_some.mp hasKind).1
    | «module» | parameter | identifier | comment | literal =>
        rw [isKind] at hasKind
        cases hasKind

end Openers

/-! ## Symbols in order -/

/-- The positions of a list that lead to entries of a scope lead to these entries in order. -/
theorem filterMap_entriesIn {symbols : List Symbol} {number : ScopeId} :
    ((entriesIn (symbols.map Symbol.key) number).map Prod.snd).filterMap
        (fun index => symbols[index]?) =
      symbols.filter fun symbol => symbol.scope == number := by
  have found :
      ∀ entry ∈ symbols.zipIdx,
        (if entry.1.scope = number then symbols[entry.2]? else none) =
          Option.guard (fun symbol => symbol.scope == number) entry.1 := by
    intro entry member
    rw [List.mem_zipIdx_iff_getElem?.mp member]
    simp [Option.guard]
  calc
    ((entriesIn (symbols.map Symbol.key) number).map Prod.snd).filterMap
        (fun index => symbols[index]?)
    _ = symbols.zipIdx.filterMap fun entry =>
          if entry.1.scope = number then symbols[entry.2]? else none := by
        rw [entriesIn, List.zipIdx_map, List.filterMap_map, List.filterMap_map,
          List.filterMap_filterMap]
        apply List.filterMap_congr
        intro entry _
        by_cases inScope : entry.1.scope = number <;> simp [Symbol.key, inScope]
    _ = symbols.zipIdx.filterMap fun entry =>
          Option.guard (fun symbol => symbol.scope == number) entry.1 :=
        List.filterMap_congr found
    _ = (symbols.zipIdx.map Prod.fst).filterMap
          (Option.guard fun symbol => symbol.scope == number) := by
        rw [List.filterMap_map]
        rfl
    _ = symbols.filter fun symbol => symbol.scope == number := by
        rw [List.zipIdx_map_fst, List.filterMap_eq_filter]

section Table

variable {model : Model}

/-- The table keeps of a symbol what it was declared with. -/
theorem map_symbols_resolve {β : Type} {f : Symbol → β}
    (same : ∀ (symbol : Symbol) (references : List Reference) (accessorCalls : List Nat),
      f { symbol with references, accessorCalls } = f symbol) :
    (resolve model).symbols.map f = (scoping model).symbols.map f := by
  apply List.ext_getElem?
  intro id
  have resolved := @symbol?_resolve model id
  rw [Scoping.symbol?, Scoping.symbol?] at resolved
  rw [List.getElem?_map, List.getElem?_map, resolved, Option.map_map]
  congr 1
  funext symbol
  exact same symbol _ _

variable (wellFormed : model.IsWellFormed)

include wellFormed

/-- A scope lists the symbols that name it, in the order of all symbols. -/
theorem filterMap_symbols {number : ScopeId} {scope : Scope}
    (found : (resolve model).scope? number = some scope) :
    scope.symbols.filterMap (resolve model).symbol? =
      (resolve model).symbols.filter fun symbol => symbol.scope == number := by
  have sameKeys := @map_symbols_resolve model _ Symbol.key fun _ _ _ => rfl
  rw [scope?_resolve] at found
  rw [((records_scoping wellFormed).listed number scope found).1, ← sameKeys]
  exact filterMap_entriesIn

theorem nodup_table_symbols : (resolve model).symbols.Nodup := by
  apply List.Nodup.of_map Symbol.key
  rw [map_symbols_resolve fun _ _ _ => rfl]
  exact nodup_symbol_keys wellFormed

theorem pairwise_precedes_declarationsOf :
    (declarationsOf model).Pairwise fun first second =>
      Model.Precedes model.nodes first.node.id second.node.id := by
  rcases wellFormed.exists_node?_root with ⟨rootNode, found, _⟩
  have inPreOrder :=
    Model.pairwise_precedes_descendantsWithin model model.nodes.length model.root
  rw [← Model.descendants, descendants_eq_cons_visits wellFormed found] at inPreOrder
  have ofVisits := List.pairwise_map.mp (List.pairwise_cons.mp inPreOrder).2
  rw [declarationsOf, List.pairwise_filterMap]
  refine ofVisits.imp ?_
  intro first second precedes firstDeclaration isFirst secondDeclaration isSecond
  rw [(declaration?_eq_some_iff.mp isFirst).1, (declaration?_eq_some_iff.mp isSecond).1]
  exact precedes

/-- The nodes that declare the symbols of a table stand in pre-order. -/
theorem pairwise_precedes_symbols :
    (resolve model).symbols.Pairwise fun first second =>
      Model.Precedes model.nodes first.declaration second.declaration := by
  rw [← List.pairwise_map (f := Symbol.declaration), map_symbols_resolve fun _ _ _ => rfl]
  apply List.Pairwise.sublist (records_scoping wellFormed).inOrder
  rw [List.pairwise_map]
  exact pairwise_precedes_declarationsOf wellFormed

end Table

end StructuralLint.Symbols
