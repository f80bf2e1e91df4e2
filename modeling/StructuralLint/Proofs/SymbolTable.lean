import StructuralLint.Proofs.References

/-!
# The symbol table is sound

Scopes, symbols, accesses and nodes name each other by numbers and ids.  This module collects what
every reader of the table relies on: the scopes form a tree that is numbered from its root, every
symbol stands in the one scope that it names, every id of a node is that of a node of the model, and
accesses are found from the symbols and the nodes that they belong to.
-/

namespace StructuralLint.Symbols

/-! ## What a sound table is -/

/-- Scopes form a tree with scope 0 at the root, and each symbol is listed by its scope alone. -/
structure Scoping.IsSound (scoping : Scoping) : Prop where
  rootExists : ∃ scope, scoping.scope? 0 = some scope
  parentless :
    ∀ number scope, scoping.scope? number = some scope → (scope.parent = none ↔ number = 0)
  parentBefore :
    ∀ number scope parent,
      scoping.scope? number = some scope → scope.parent = some parent → parent < number
  /-- The walk outwards from a scope ends at the root. -/
  chainEnds :
    ∀ number scope, scoping.scope? number = some scope →
      (scoping.chain number).getLast? = some 0
  listedOnce :
    ∀ id symbol, scoping.symbol? id = some symbol →
      ∃ scope, scoping.scope? symbol.scope = some scope ∧ scope.symbols.count id = 1
  listedByOwnScope :
    ∀ number scope id, scoping.scope? number = some scope → id ∈ scope.symbols →
      ∃ symbol, scoping.symbol? id = some symbol ∧ symbol.scope = number
  distinctNames :
    ∀ number scope first second firstSymbol secondSymbol,
      scoping.scope? number = some scope →
      first ∈ scope.symbols → second ∈ scope.symbols →
      scoping.symbol? first = some firstSymbol → scoping.symbol? second = some secondSymbol →
      firstSymbol.name = secondSymbol.name → first = second
  /-- Looking a name up in a scope finds what the scope lists under the name. -/
  getsListed :
    ∀ number scope name id, scoping.scope? number = some scope →
      (scoping.get? number name = some id ↔
        id ∈ scope.symbols ∧ ∃ symbol, scoping.symbol? id = some symbol ∧ symbol.name = name)

/-- An id is that of a function of a model. -/
def IsFunctionOf (model : Model) (id : NodeId) : Prop :=
  ∃ node ∈ model.nodes, node.id = id ∧ node.kind = .function

/--
Every id that a table holds is that of a node of the model, and of a function where a function is
meant.
-/
structure Table.NodesExist (model : Model) (table : Table) : Prop where
  scopes : ∀ scope ∈ table.scopes, scope.node ∈ model.nodes.map Node.id
  symbols : ∀ symbol ∈ table.symbols, symbol.declaration ∈ model.nodes.map Node.id
  declared : ∀ entry ∈ table.declared, entry.1 ∈ model.nodes.map Node.id
  references :
    ∀ symbol ∈ table.symbols, ∀ reference ∈ symbol.references,
      reference.node ∈ model.nodes.map Node.id
  fieldAccesses :
    ∀ access ∈ table.fieldAccesses,
      access.node ∈ model.nodes.map Node.id ∧
        ∀ function, access.function = some function → IsFunctionOf model function
  foreignAccesses :
    ∀ access ∈ table.foreignAccesses,
      access.node ∈ model.nodes.map Node.id ∧
        (∀ function, access.function = some function → IsFunctionOf model function) ∧
        ∀ receiver, access.receiver = some receiver → receiver ∈ model.nodes.map Node.id
  calls :
    ∀ call ∈ table.calls,
      call.node ∈ model.nodes.map Node.id ∧
        (∀ caller, call.caller = some caller → IsFunctionOf model caller) ∧
        ∀ function, call.callee = .resolved function → IsFunctionOf model function

/--
Accesses through other objects are found from the symbols at which they start and from their
nodes.
-/
structure Table.AccessesAgree (table : Table) : Prop where
  accessorCalls :
    ∀ id symbol index, table.symbol? id = some symbol →
      (index ∈ symbol.accessorCalls ↔
        ∃ access, table.foreignAccesses[index]? = some access ∧ access.root = some id)
  rootsExist :
    ∀ access ∈ table.foreignAccesses, ∀ root, access.root = some root →
      ∃ symbol, table.symbol? root = some symbol
  accessAt :
    ∀ node access,
      table.foreignAccessAt? node = some access ↔
        access ∈ table.foreignAccesses ∧ access.node = node

/-! ## Scopes -/

section Scopes

variable {model : Model} (wellFormed : model.IsWellFormed)

include wellFormed

/-- The opener of a scope, and where the scope lies. -/
theorem exists_opener_of_scope? {number : ScopeId} {scope : Scope}
    (found : (scoping model).scope? number = some scope) :
    (number = 0 ∧ scope.node = model.root ∧ scope.parent = none) ∨
      ∃ visit ∈ visits model,
        scope.node = visit.node.id ∧ scope.parent = some (numberOf model visit.opener) ∧
          numberOf model visit.opener < number := by
  have isNumber := numberOf_node_eq wellFormed found
  rcases outline_cases wellFormed (List.mem_of_getElem? found) with
    ⟨isRoot, noParent⟩ | ⟨visit, isVisit, opened, isNode, isParent⟩
  · rw [isRoot, numberOf_root] at isNumber
    exact Or.inl ⟨isNumber.symm, isRoot, noParent⟩
  · rw [isNode] at opened isNumber
    refine Or.inr ⟨visit, isVisit, isNode, isParent, ?_⟩
    rw [← isNumber]
    exact numberOf_opener_lt wellFormed isVisit opened

theorem parent_eq_none_iff {number : ScopeId} {scope : Scope}
    (found : (scoping model).scope? number = some scope) :
    scope.parent = none ↔ number = 0 := by
  rcases exists_opener_of_scope? wellFormed found with
    ⟨isZero, _, noParent⟩ | ⟨visit, _, _, isParent, before⟩
  · simp [isZero, noParent]
  · simp [isParent, Nat.ne_of_gt (Nat.lt_of_le_of_lt (Nat.zero_le _) before)]

theorem parent_lt {number parent : ScopeId} {scope : Scope}
    (found : (scoping model).scope? number = some scope)
    (isParent : scope.parent = some parent) :
    parent < number := by
  rcases exists_opener_of_scope? wellFormed found with
    ⟨_, _, noParent⟩ | ⟨visit, _, _, isOpener, before⟩
  · cases noParent.symm.trans isParent
  · rw [isOpener, Option.some_inj] at isParent
    rwa [← isParent]

/-- With more levels than its number, the walk outwards from a scope ends at the root. -/
theorem getLast?_chainWithin {levels : Nat} {number : ScopeId} {scope : Scope}
    (found : (scoping model).scope? number = some scope)
    (bound : number < levels) :
    ((scoping model).chainWithin levels number).getLast? = some 0 := by
  induction levels generalizing number scope with
  | zero => exact absurd bound (Nat.not_lt_zero _)
  | succ levels induction =>
      rw [Scoping.chainWithin, found]
      cases isParent : scope.parent with
      | none => simp [isParent, (parent_eq_none_iff wellFormed found).mp isParent]
      | some parent =>
          have before := parent_lt wellFormed found isParent
          have inRange : parent < (scoping model).scopes.length :=
            Nat.lt_trans before (List.getElem?_eq_some_iff.mp found).1
          have ends := induction (List.getElem?_eq_getElem inRange)
            (Nat.lt_of_lt_of_le before (Nat.le_of_lt_succ bound))
          simp [isParent, List.getLast?_cons, ends]

end Scopes

/-! ## Symbols -/

section Symbols

variable {model : Model}

theorem key_of_symbol?_resolve {id : SymbolId} {key : ScopeId × String} :
    (∃ symbol, (resolve model).symbol? id = some symbol ∧ symbol.key = key) ↔
      ∃ symbol, (scoping model).symbol? id = some symbol ∧ symbol.key = key := by
  simp only [symbol?_resolve_eq_some_iff]
  constructor
  · rintro ⟨_, ⟨symbol, isSymbol, rfl⟩, isKey⟩
    exact ⟨symbol, isSymbol, isKey⟩
  · rintro ⟨symbol, isSymbol, isKey⟩
    exact ⟨_, ⟨symbol, isSymbol, rfl⟩, isKey⟩

variable (wellFormed : model.IsWellFormed)

include wellFormed

/-- A scope lists the symbols that name it. -/
theorem mem_symbols_iff {number : ScopeId} {scope : Scope} {id : SymbolId}
    (found : (scoping model).scope? number = some scope) :
    id ∈ scope.symbols ↔
      ∃ symbol, (resolve model).symbol? id = some symbol ∧ symbol.scope = number := by
  rw [((records_scoping wellFormed).listed number scope found).1, List.mem_map]
  constructor
  · rintro ⟨⟨name, same⟩, listed, rfl⟩
    rw [mem_entriesIn_iff, List.getElem?_map, Option.map_eq_some_iff] at listed
    rcases key_of_symbol?_resolve.mpr listed with ⟨symbol, isSymbol, isKey⟩
    exact ⟨symbol, isSymbol, congrArg Prod.fst isKey⟩
  · rintro ⟨symbol, isSymbol, inScope⟩
    have isKey := key_of_symbol?_resolve.mp ⟨symbol, isSymbol, rfl⟩
    refine ⟨(symbol.name, id), ?_, rfl⟩
    rw [mem_entriesIn_iff, List.getElem?_map, Option.map_eq_some_iff, ← inScope]
    exact isKey

theorem nodup_symbols {number : ScopeId} {scope : Scope}
    (found : (scoping model).scope? number = some scope) :
    scope.symbols.Nodup := by
  rw [((records_scoping wellFormed).listed number scope found).1]
  exact nodup_ids_entriesIn

/-- The scope that a symbol names exists. -/
theorem exists_scope_of_symbol {id : SymbolId} {symbol : Symbol}
    (found : (scoping model).symbol? id = some symbol) :
    ∃ scope, (scoping model).scope? symbol.scope = some scope :=
  ⟨_, List.getElem?_eq_getElem
    ((records_scoping wellFormed).inScopes symbol (List.mem_of_getElem? found))⟩

theorem get?_resolve_eq_some_iff {number : ScopeId} {scope : Scope} {name : String} {id : SymbolId}
    (found : (scoping model).scope? number = some scope) :
    (resolve model).get? number name = some id ↔
      ∃ symbol, (resolve model).symbol? id = some symbol ∧ symbol.key = (number, name) := by
  rw [get?_resolve, get?_eq_some_iff wellFormed (List.getElem?_eq_some_iff.mp found).1,
    key_of_symbol?_resolve]

theorem symbolId_unique_resolve {first second : SymbolId} {firstSymbol secondSymbol : Symbol}
    (isFirst : (resolve model).symbol? first = some firstSymbol)
    (isSecond : (resolve model).symbol? second = some secondSymbol)
    (sameKey : firstSymbol.key = secondSymbol.key) :
    first = second := by
  rcases symbol?_resolve_eq_some_iff.mp isFirst with ⟨firstDeclared, firstFound, rfl⟩
  rcases symbol?_resolve_eq_some_iff.mp isSecond with ⟨secondDeclared, secondFound, rfl⟩
  exact symbolId_unique wellFormed firstFound secondFound sameKey

theorem isSound_resolve : (resolve model).toScoping.IsSound where
  rootExists := by
    rcases exists_scope wellFormed (List.mem_cons_self : model.root ∈ openerIds model) with
      ⟨scope, found, _⟩
    rw [numberOf_root] at found
    exact ⟨scope, (scope?_resolve 0).trans found⟩
  parentless number scope found := by
    rw [scope?_resolve] at found
    exact parent_eq_none_iff wellFormed found
  parentBefore number scope parent found isParent := by
    rw [scope?_resolve] at found
    exact parent_lt wellFormed found isParent
  chainEnds number scope found := by
    rw [scope?_resolve] at found
    rw [chain_resolve]
    exact getLast?_chainWithin wellFormed found (List.getElem?_eq_some_iff.mp found).1
  listedOnce id symbol found := by
    rcases symbol?_resolve_eq_some_iff.mp found with ⟨declared, isDeclared, rfl⟩
    rcases exists_scope_of_symbol wellFormed isDeclared with ⟨scope, isScope⟩
    have listed : id ∈ scope.symbols := (mem_symbols_iff wellFormed isScope).mpr ⟨_, found, rfl⟩
    exact ⟨scope, (scope?_resolve _).trans isScope,
      List.count_eq_one_of_mem (nodup_symbols wellFormed isScope) listed⟩
  listedByOwnScope number scope id found listed := by
    rw [scope?_resolve] at found
    exact (mem_symbols_iff wellFormed found).mp listed
  distinctNames number scope first second firstSymbol secondSymbol found firstListed secondListed
      isFirst isSecond sameName := by
    rw [scope?_resolve] at found
    rcases (mem_symbols_iff wellFormed found).mp firstListed with ⟨same, isSame, firstScope⟩
    rcases (mem_symbols_iff wellFormed found).mp secondListed with ⟨other, isOther, secondScope⟩
    cases isSame.symm.trans isFirst
    cases isOther.symm.trans isSecond
    apply symbolId_unique_resolve wellFormed isFirst isSecond
    rw [Symbol.key, Symbol.key, firstScope, secondScope, sameName]
  getsListed number scope name id found := by
    rw [scope?_resolve] at found
    rw [get?_resolve_eq_some_iff wellFormed found, mem_symbols_iff wellFormed found]
    constructor
    · rintro ⟨symbol, isSymbol, isKey⟩
      exact ⟨⟨symbol, isSymbol, congrArg Prod.fst isKey⟩, symbol, isSymbol, congrArg Prod.snd isKey⟩
    · rintro ⟨⟨symbol, isSymbol, inScope⟩, other, isOther, isName⟩
      cases isSymbol.symm.trans isOther
      exact ⟨symbol, isSymbol, by rw [Symbol.key, inScope, isName]⟩

end Symbols

/-! ## What accesses start at -/

/-- The symbol that the object of a member access leads to. -/
def Receiver.start? : Receiver → Option SymbolId
  | own symbol => symbol
  | foreign root _ _ _ => root

section Starts

variable {model : Model} (wellFormed : model.IsWellFormed)

include wellFormed

theorem exists_symbol_of_get? {scope : ScopeId} {name : String} {id : SymbolId}
    (found : (scoping model).get? scope name = some id) :
    ∃ symbol, (scoping model).symbol? id = some symbol := by
  rcases exists_scope_of_get? found with ⟨record, isRecord⟩
  rcases (get?_eq_some_iff wellFormed (List.getElem?_eq_some_iff.mp isRecord).1).mp found with
    ⟨symbol, isSymbol, _⟩
  exact ⟨symbol, isSymbol⟩

theorem exists_symbol_of_lookupFrom? {node : NodeId} {name : String} {id : SymbolId}
    (found : (lookupFrom? (scoping model) node name).map Prod.fst = some id) :
    ∃ symbol, (scoping model).symbol? id = some symbol := by
  cases isScope : (scoping model).scopeOf? node with
  | none =>
      rw [lookupFrom?, isScope] at found
      cases found
  | some scope =>
      rw [map_fst_lookupFrom? isScope, lookup?_eq_findSome?] at found
      rcases List.exists_of_findSome?_eq_some found with ⟨around, _, isFound⟩
      exact exists_symbol_of_get? wellFormed isFound

theorem exists_symbol_of_classMember? {node : NodeId} {name : String} {id : SymbolId}
    (found : classMember? (scoping model) node name = some id) :
    ∃ symbol, (scoping model).symbol? id = some symbol := by
  simp only [classMember?, Option.bind_eq_bind, Option.bind_eq_some_iff] at found
  rcases found with ⟨_, _, owner, _, isFound⟩
  exact exists_symbol_of_get? wellFormed isFound

theorem exists_symbol_of_classifyWithin {levels : Nat} {member : NodeId} {id : SymbolId}
    (starts : (classifyWithin model (scoping model) levels member).start? = some id) :
    ∃ symbol, (scoping model).symbol? id = some symbol := by
  induction levels generalizing member with
  | zero => cases starts
  | succ levels induction =>
      rw [classifyWithin] at starts
      cases isObject : model.child? member 0 with
      | none =>
          rw [isObject] at starts
          cases starts
      | some object =>
          simp only [isObject] at starts
          split at starts
          · split at starts
            · exact exists_symbol_of_classMember? wellFormed starts
            · exact exists_symbol_of_lookupFrom? wellFormed starts
          · cases isInner : innerMember? model object with
            | none =>
                rw [isInner] at starts
                cases starts
            | some inner =>
                simp only [isInner] at starts
                apply @induction inner.id
                cases inside : classifyWithin model (scoping model) levels inner.id with
                | own symbol => rwa [inside] at starts
                | foreign root rootName depth receiver => rwa [inside] at starts

end Starts

section Accesses

variable {model : Model} {scoping : Scoping}

/-- A member access looks for its object through another one. -/
def GoesThrough (model : Model) (member : NodeId) (inner : Node) : Prop :=
  ∃ object, model.child? member 0 = some object ∧ innerMember? model object = some inner

/-- The object is the other access, or it calls what the other access yields. -/
theorem innerMember?_cases {object inner : Node}
    (isInner : innerMember? model object = some inner) :
    (inner = object ∧ object.expression = some .member) ∨
      (object.expression = some .call ∧ model.child? object.id 0 = some inner ∧
        inner.isExpression .member = true) := by
  rw [innerMember?] at isInner
  split at isInner
  next isMember =>
    cases isInner
    exact Or.inl ⟨rfl, beq_iff_eq.mp isMember⟩
  next =>
    split at isInner
    next isCall =>
      rcases Option.filter_eq_some_iff.mp isInner with ⟨isChild, isMember⟩
      exact Or.inr ⟨beq_iff_eq.mp isCall, isChild, isMember⟩
    next => cases isInner

theorem GoesThrough.mem {member : NodeId} {inner : Node}
    (through : GoesThrough model member inner) :
    inner ∈ model.nodes := by
  rcases through with ⟨object, isObject, isInner⟩
  rcases innerMember?_cases isInner with ⟨rfl, _⟩ | ⟨_, isChild, _⟩
  · exact Model.mem_of_child?_eq_some isObject
  · exact Model.mem_of_child?_eq_some isChild

/--
An access to another object is the first of its chain, or it stands one step behind the access
that it goes through.
-/
theorem cases_of_classifyWithin_succ {levels : Nat} {member : NodeId} {root : Option SymbolId}
    {rootName : Option String} {depth : Nat} {receiver : Option NodeId}
    (classified :
      classifyWithin model scoping (levels + 1) member = .foreign root rootName depth receiver) :
    (receiver = none ∧ depth = 1) ∨
      ∃ inner shallower past,
        GoesThrough model member inner ∧ receiver = some inner.id ∧ depth = shallower + 1 ∧
          classifyWithin model scoping levels inner.id = .foreign root rootName shallower past := by
  rw [classifyWithin] at classified
  cases isObject : model.child? member 0 with
  | none =>
      rw [isObject] at classified
      cases classified
      exact Or.inl ⟨rfl, rfl⟩
  | some object =>
      simp only [isObject] at classified
      split at classified
      · split at classified
        · cases classified
        · cases classified
          exact Or.inl ⟨rfl, rfl⟩
      · cases isInner : innerMember? model object with
        | none =>
            rw [isInner] at classified
            cases classified
            exact Or.inl ⟨rfl, rfl⟩
        | some inner =>
            simp only [isInner] at classified
            split at classified
            · cases classified
              exact Or.inl ⟨rfl, rfl⟩
            next inside =>
              cases classified
              exact Or.inr ⟨inner, _, _, ⟨object, isObject, isInner⟩, rfl, rfl, inside⟩

/-- The access that another one goes through is a node of the model. -/
theorem mem_ids_of_receiver {levels : Nat} {member : NodeId} {root : Option SymbolId}
    {rootName : Option String} {depth : Nat} {receiver : NodeId}
    (classified :
      classifyWithin model scoping levels member = .foreign root rootName depth (some receiver)) :
    receiver ∈ model.nodes.map Node.id := by
  cases levels with
  | zero => cases classified
  | succ levels =>
      rcases cases_of_classifyWithin_succ classified with
        ⟨isNone, _⟩ | ⟨inner, _, _, through, isInner, _⟩
      · cases isNone
      · rw [Option.some_inj.mp isInner]
        exact List.mem_map_of_mem through.mem

end Accesses

/-! ## Nodes exist -/

theorem kind_eq_function_of_symbolKind? {node : Node}
    (isFunction : symbolKind? node = some .function) :
    node.kind = .function := by
  rw [symbolKind?] at isFunction
  cases isKind : node.kind with
  | function => rfl
  | statement =>
      rw [isKind] at isFunction
      cases isStatement : node.statement with
      | none =>
          rw [isStatement] at isFunction
          cases isFunction
      | some kind =>
          rw [isStatement] at isFunction
          cases kind <;> cases isFunction
  | «module» | «class» | parameter | expression | identifier | comment | literal =>
      rw [isKind] at isFunction
      cases isFunction

/-- A call is resolved to the function that some symbol declares. -/
theorem exists_functionOf?_of_callee? {model : Model} {scoping : Scoping} {callee : Node}
    {function : NodeId}
    (resolved : callee? model scoping callee = some (.resolved function)) :
    ∃ symbol, functionOf? scoping symbol = some function := by
  have isFound {found : Option NodeId}
      (named : (found.map Callee.resolved).getD (.named callee.nameText) = .resolved function) :
      found = some function := by
    cases found with
    | none => cases named
    | some other =>
        cases named
        rfl
  rw [callee?] at resolved
  split at resolved
  · rcases Option.bind_eq_some_iff.mp (isFound (Option.some_inj.mp resolved)) with
      ⟨found, _, declares⟩
    exact ⟨found.1, declares⟩
  · split at resolved
    · have declares := isFound (Option.some_inj.mp resolved)
      split at declares
      next symbol _ => exact ⟨symbol, declares⟩
      next root _ _ _ =>
        simp only [methodOfType?, Option.bind_eq_bind, Option.bind_eq_some_iff] at declares
        rcases declares with ⟨_, _, _, _, _, _, _, _, method, _, declares⟩
        exact ⟨method, declares⟩
      next => cases declares
    · cases resolved

section Nodes

variable {model : Model} (wellFormed : model.IsWellFormed)

theorem classify_of_foreignAccess? {scoping : Scoping} {node : Node} {access : ForeignAccess}
    (found : foreignAccess? model scoping node = some access) :
    node.isExpression .member = true ∧ access.node = node.id ∧
      access.function = scoping.enclosingFunction? node.id ∧
        classify model scoping node.id =
          .foreign access.root access.rootName access.depth access.receiver := by
  rw [foreignAccess?] at found
  split at found
  next isMember =>
    split at found
    · cases found
    · cases found
      exact ⟨isMember, rfl, rfl, by assumption⟩
  next => cases found

theorem exists_node_of_foreignAccess {access : ForeignAccess}
    (member : access ∈ (resolve model).foreignAccesses) :
    ∃ node ∈ model.descendants model.root,
      node.isExpression .member = true ∧ access.node = node.id ∧
        access.function = (scoping model).enclosingFunction? node.id ∧
          classify model (scoping model) node.id =
            .foreign access.root access.rootName access.depth access.receiver := by
  rw [foreignAccesses_resolve] at member
  rcases List.mem_map.mp member with ⟨started, isStarted, rfl⟩
  rcases List.mem_filterMap.mp isStarted with ⟨node, nodeMember, found⟩
  have classified := classify_of_foreignAccess? found
  exact ⟨node, nodeMember, classified⟩

theorem function_of_fieldAccess? {scoping : Scoping} {node : Node} {access : FieldAccess}
    (found : fieldAccess? model scoping node = some access) :
    access.node = node.id ∧ access.function = scoping.enclosingFunction? node.id := by
  rw [fieldAccess?] at found
  split at found
  · cases found
    exact ⟨rfl, rfl⟩
  · cases found

theorem callee_of_call? {scoping : Scoping} {node : Node} {call : Call}
    (found : call? model scoping node = some call) :
    call.node = node.id ∧ call.caller = scoping.enclosingFunction? node.id ∧
      ∃ callee, callee? model scoping callee = some call.callee := by
  rw [call?] at found
  split at found
  · simp only [Option.bind_eq_bind, Option.bind_eq_some_iff] at found
    rcases found with ⟨object, _, callee, isCallee, made⟩
    cases made
    exact ⟨rfl, rfl, object, isCallee⟩
  · cases found

include wellFormed

theorem mem_nodes_of_declaration {declaration : Declaration}
    (member : declaration ∈ declarationsOf model) :
    declaration.node ∈ model.nodes ∧ symbolKind? declaration.node = some declaration.kind := by
  rcases exists_visit_of_declaration member with ⟨visit, isVisit, isDeclaration⟩
  rcases declaration?_eq_some_iff.mp isDeclaration with ⟨sameNode, _, hasKind, _⟩
  rw [sameNode]
  exact ⟨(wellFormed.mem_descendants_iff.mp
    (mem_descendants_of_mem_visits wellFormed isVisit).1).1, hasKind⟩

/-- A symbol is declared by a node of the model that declares its kind. -/
theorem exists_node_of_symbol {id : SymbolId} {symbol : Symbol}
    (found : (scoping model).symbol? id = some symbol) :
    ∃ node ∈ model.nodes, node.id = symbol.declaration ∧ symbolKind? node = some symbol.kind := by
  rcases exists_first_declaration wellFormed found with ⟨first, isFirst, isRecord⟩
  rcases mem_nodes_of_declaration wellFormed (List.mem_of_find?_eq_some isFirst) with
    ⟨member, hasKind⟩
  rw [isRecord]
  exact ⟨first.node, member, rfl, hasKind⟩

theorem isFunctionOf_of_functionOf? {symbol : SymbolId} {function : NodeId}
    (declares : functionOf? (scoping model) symbol = some function) :
    IsFunctionOf model function := by
  rw [functionOf?] at declares
  split at declares
  next declared found =>
    split at declares
    next isFunction =>
      cases declares
      rcases exists_node_of_symbol wellFormed found with ⟨node, member, isNode, hasKind⟩
      rw [beq_iff_eq.mp isFunction] at hasKind
      exact ⟨node, member, isNode, kind_eq_function_of_symbolKind? hasKind⟩
    next => cases declares
  next => cases declares

theorem isFunctionOf_of_enclosingFunction? {node function : NodeId}
    (encloses : (scoping model).enclosingFunction? node = some function) :
    IsFunctionOf model function := by
  rcases (enclosingFunction?_eq_some_iff wellFormed).mp encloses with
    ⟨visit, isVisit, _, isFunction⟩
  have placed := (isPlaced_of_mem_visits wellFormed isVisit).2.trans isFunction
  rcases Option.map_eq_some_iff.mp placed with ⟨above, isAbove, isNode⟩
  rw [Model.enclosing?] at isAbove
  exact ⟨above, Model.mem_of_mem_ancestors (List.mem_of_find?_eq_some isAbove), isNode,
    by simpa using List.find?_some isAbove⟩

theorem mem_ids_of_mem_descendants {node : Node}
    (member : node ∈ model.descendants model.root) :
    node.id ∈ model.nodes.map Node.id :=
  List.mem_map_of_mem (wellFormed.mem_descendants_iff.mp member).1

theorem mem_ids_of_reference {id : SymbolId} {symbol : Symbol}
    (found : (resolve model).symbol? id = some symbol)
    {reference : Reference}
    (member : reference ∈ symbol.references) :
    reference.node ∈ model.nodes.map Node.id := by
  rcases symbol?_resolve_eq_some_iff.mp found with ⟨declared, isDeclared, rfl⟩
  rcases (mem_references_iff wellFormed isDeclared).mp member with
    ⟨⟨again, _⟩, _⟩ | ⟨referenced, _⟩
  · rw [declaredBy?_resolve, declaredBy?_eq_some_iff wellFormed] at again
    rcases again with ⟨declaration, isDeclaration, isNode, _⟩
    rw [← isNode]
    exact List.mem_map_of_mem (mem_nodes_of_declaration wellFormed isDeclaration).1
  · rcases (referenced?_resolve_eq_some_iff wellFormed).mp referenced with
      ⟨node, nodeMember, isNode, _⟩
    rw [← isNode]
    exact mem_ids_of_mem_descendants wellFormed nodeMember

theorem nodup_foreignAccesses :
    ((resolve model).foreignAccesses.map ForeignAccess.node).Nodup := by
  have keeps (node : Node) (access : ForeignAccess)
      (found : foreignAccess? model (scoping model) node = some access) :
      access.node = node.id :=
    (classify_of_foreignAccess? found).2.1
  rw [foreignAccesses_resolve, List.map_map]
  exact nodup_keys_filterMap keeps wellFormed.nodup_descendants

theorem nodesExist_resolve : Table.NodesExist model (resolve model) where
  scopes scope member := by
    rcases List.mem_iff_getElem?.mp member with ⟨number, found⟩
    have isScope := (scope?_resolve number).symm.trans found
    rcases exists_opener_of_scope? wellFormed isScope with
      ⟨_, isRoot, _⟩ | ⟨visit, isVisit, isNode, _⟩
    · rw [isRoot]
      exact wellFormed.root_mem_ids
    · rw [isNode]
      exact mem_ids_of_mem_descendants wellFormed
        (mem_descendants_of_mem_visits wellFormed isVisit).1
  symbols symbol member := by
    rcases List.mem_iff_getElem?.mp member with ⟨id, found⟩
    rcases symbol?_resolve_eq_some_iff.mp found with ⟨declared, isDeclared, rfl⟩
    rcases exists_node_of_symbol wellFormed isDeclared with ⟨node, isNode, isDeclaration, _⟩
    exact List.mem_map.mpr ⟨node, isNode, isDeclaration⟩
  declared entry member := by
    have kept := congrArg Scoping.declared (@kept_resolve model)
    rw [show (resolve model).declared = (scoping model).declared from kept,
      (records_scoping wellFormed).declared, List.mem_reverse] at member
    rcases List.mem_map.mp member with ⟨declaration, isDeclaration, rfl⟩
    exact List.mem_map_of_mem (mem_nodes_of_declaration wellFormed isDeclaration).1
  references symbol member _ isReference := by
    rcases List.mem_iff_getElem?.mp member with ⟨id, found⟩
    exact mem_ids_of_reference wellFormed found isReference
  fieldAccesses access member := by
    rw [fieldAccesses_resolve] at member
    rcases List.mem_filterMap.mp member with ⟨node, nodeMember, found⟩
    rcases function_of_fieldAccess? found with ⟨isNode, isFunction⟩
    rw [isNode, isFunction]
    exact ⟨mem_ids_of_mem_descendants wellFormed nodeMember,
      fun _ => isFunctionOf_of_enclosingFunction? wellFormed⟩
  foreignAccesses access member := by
    rcases exists_node_of_foreignAccess member with
      ⟨node, nodeMember, _, isNode, isFunction, classified⟩
    rw [isNode, isFunction]
    refine ⟨mem_ids_of_mem_descendants wellFormed nodeMember,
      fun _ => isFunctionOf_of_enclosingFunction? wellFormed, ?_⟩
    intro receiver isReceiver
    rw [isReceiver] at classified
    exact mem_ids_of_receiver classified
  calls call member := by
    rw [calls_resolve] at member
    rcases List.mem_filterMap.mp member with ⟨node, nodeMember, found⟩
    rcases callee_of_call? found with ⟨isNode, isCaller, callee, isCallee⟩
    rw [isNode, isCaller]
    refine ⟨mem_ids_of_mem_descendants wellFormed nodeMember,
      fun _ => isFunctionOf_of_enclosingFunction? wellFormed, ?_⟩
    intro function isResolved
    rw [isResolved] at isCallee
    rcases exists_functionOf?_of_callee? isCallee with ⟨symbol, declares⟩
    exact isFunctionOf_of_functionOf? wellFormed declares

/-- The accesses that start at a symbol are listed by their positions. -/
theorem mem_accessorCalls_iff {id : SymbolId} {symbol : Symbol}
    (isSymbol : (scoping model).symbol? id = some symbol)
    {index : Nat} :
    index ∈ (symbol.finish model id).accessorCalls ↔
      ∃ access, (resolve model).foreignAccesses[index]? = some access ∧ access.root = some id := by
  rcases exists_first_declaration wellFormed isSymbol with ⟨first, _, isRecord⟩
  have noneBefore : symbol.accessorCalls = [] := congrArg Symbol.accessorCalls isRecord
  rw [Symbol.finish, noneBefore, List.nil_append, startsAt, List.mem_filterMap,
    foreignAccesses_resolve, List.getElem?_map]
  constructor
  · rintro ⟨⟨access, position⟩, member, made⟩
    rcases Option.ite_none_right_eq_some.mp made with ⟨isRoot, isPosition⟩
    cases isPosition
    rw [List.mem_zipIdx_iff_getElem?.mp member]
    exact ⟨_, rfl, isRoot⟩
  · rintro ⟨_, isAccess, isRoot⟩
    rcases Option.map_eq_some_iff.mp isAccess with ⟨access, atIndex, rfl⟩
    exact ⟨(access, index), List.mem_zipIdx_iff_getElem?.mpr atIndex, if_pos isRoot⟩

/-- Looking a node up finds the access at the node. -/
theorem foreignAccessAt?_eq_some_iff {node : NodeId} {access : ForeignAccess} :
    (resolve model).foreignAccessAt? node = some access ↔
      access ∈ (resolve model).foreignAccesses ∧ access.node = node := by
  have distinct :
      (((resolve model).foreignAccesses.map ForeignAccess.node).zipIdx.map Prod.fst).Nodup := by
    rw [List.zipIdx_map_fst]
    exact nodup_foreignAccesses wellFormed
  rw [Table.foreignAccessAt?, foreignByNode_resolve, Option.bind_eq_some_iff]
  simp only [Lookup.get?_reverse_eq_some_iff distinct, List.mem_zipIdx_iff_getElem?,
    List.getElem?_map, Option.map_eq_some_iff]
  constructor
  · rintro ⟨index, ⟨same, isSame, isNode⟩, isAccess⟩
    cases isSame.symm.trans isAccess
    exact ⟨List.mem_of_getElem? isAccess, isNode⟩
  · rintro ⟨member, isNode⟩
    rcases List.mem_iff_getElem?.mp member with ⟨index, isAccess⟩
    exact ⟨index, ⟨access, isAccess, isNode⟩, isAccess⟩

theorem accessesAgree_resolve : (resolve model).AccessesAgree where
  accessorCalls id symbol index found := by
    rcases symbol?_resolve_eq_some_iff.mp found with ⟨declared, isDeclared, rfl⟩
    exact mem_accessorCalls_iff wellFormed isDeclared
  rootsExist access member root isRoot := by
    rcases exists_node_of_foreignAccess member with ⟨node, _, _, _, _, classified⟩
    have starts : (classify model (scoping model) node.id).start? = some root := by
      rw [classified]
      exact isRoot
    rcases exists_symbol_of_classifyWithin wellFormed starts with ⟨symbol, isSymbol⟩
    exact ⟨_, symbol?_resolve_eq_some_iff.mpr ⟨symbol, isSymbol, rfl⟩⟩
  accessAt _ _ := foreignAccessAt?_eq_some_iff wellFormed

end Nodes

/-- The table of every accepted model is sound. -/
theorem resolve_isSound {path : SourcePath} {root : NodeId} {nodes : List Node}
    {lineCount : Option UInt32} {model : Model}
    (accepted : Model.ingest path root nodes lineCount = .ok model) :
    (resolve model).toScoping.IsSound ∧ Table.NodesExist model (resolve model) ∧
      (resolve model).AccessesAgree := by
  have wellFormed := Model.IsWellFormed.of_ingest accepted
  exact
    ⟨isSound_resolve wellFormed, nodesExist_resolve wellFormed, accessesAgree_resolve wellFormed⟩

/-- A module with a class, and a function that calls a method of a parameter of that class. -/
def callingModule : Model :=
  let lines (startLine endLine : UInt32) : Span :=
    { startLine, startCol := 1, endLine, endCol := 9 }
  .linked
    { path := { text := "calling.ir.json" }
      root := { index := 0 }
      lineCount := some 7
      nodes :=
        [{ id := { index := 0 }, kind := .module, span := lines 1 7
           children := [{ index := 1 }, { index := 4 }] },
          { id := { index := 1 }, kind := .class, span := lines 1 3, name := some "Box"
            children := [{ index := 2 }] },
          { id := { index := 2 }, kind := .function, span := lines 2 3, name := some "open"
            children := [{ index := 3 }] },
          { id := { index := 3 }, kind := .statement, span := lines 3 3, statement := some .block },
          { id := { index := 4 }, kind := .function, span := lines 4 7, name := some "run"
            children := [{ index := 5 }, { index := 6 }] },
          { id := { index := 5 }, kind := .parameter, span := lines 4 4, name := some "box"
            attributes := { typeName := some "Box" } },
          { id := { index := 6 }, kind := .statement, span := lines 5 7, statement := some .block
            children := [{ index := 7 }] },
          { id := { index := 7 }, kind := .expression, span := lines 6 7, expression := some .call
            children := [{ index := 8 }] },
          { id := { index := 8 }, kind := .expression, span := lines 6 7, expression := some .member
            name := some "open", children := [{ index := 9 }] },
          { id := { index := 9 }, kind := .identifier, span := lines 7 7, name := some "box" }] }

/--
The call is resolved to a function of the module, and the access starts at the parameter, which
lists it.
-/
theorem callingModule_calls_function :
    Model.ingest callingModule.path callingModule.root callingModule.nodes
        callingModule.lineCount = .ok callingModule ∧
      (∃ call ∈ (resolve callingModule).calls,
        call.callee = .resolved { index := 2 } ∧ IsFunctionOf callingModule { index := 2 }) ∧
      ∃ access symbol,
        (resolve callingModule).foreignAccessAt? { index := 8 } = some access ∧
          (resolve callingModule).symbol? 3 = some symbol ∧ access.root = some 3 ∧
          0 ∈ symbol.accessorCalls := by
  have accepted :
      Model.ingest callingModule.path callingModule.root callingModule.nodes
        callingModule.lineCount = .ok callingModule := rfl
  rcases resolve_isSound accepted with ⟨_, nodesExist, accessesAgree⟩
  have isCall :
      { node := { index := 7 }, caller := some { index := 4 }
        callee := .resolved { index := 2 } } ∈
        (resolve callingModule).calls := by decide
  have isAccess : ∃ access,
      (resolve callingModule).foreignAccesses[0]? = some access ∧
        access.node = { index := 8 } ∧ access.root = some 3 := ⟨_, rfl, rfl, rfl⟩
  have isSymbol : ∃ symbol, (resolve callingModule).symbol? 3 = some symbol := ⟨_, rfl⟩
  rcases isAccess with ⟨access, isAccess, isNode, isRoot⟩
  rcases isSymbol with ⟨symbol, isSymbol⟩
  exact ⟨accepted, ⟨_, isCall, rfl, (nodesExist.calls _ isCall).2.2 _ rfl⟩, access, symbol,
    (accessesAgree.accessAt _ _).mpr ⟨List.mem_of_getElem? isAccess, isNode⟩, isSymbol, isRoot,
    (accessesAgree.accessorCalls _ _ _ isSymbol).mpr ⟨access, isAccess, isRoot⟩⟩

end StructuralLint.Symbols
