import StructuralLint.Proofs.Scopes

/-!
# Declared symbols

Named declarations are taken in one after another in the order of the walk.  The first declaration
of a name in a scope introduces a symbol and lists it in the scope under the name, and every later
one denotes that symbol again and is pushed as a reference that writes it.  This module says what
one declaration does, what holds after all of them, and what looking up a name in a scope finds
then.
-/

namespace StructuralLint.Symbols

/-- A named declaration with the scope around it. -/
structure Declaration where
  node : Node
  kind : SymbolKind
  name : String
  scope : ScopeId

/-- The scope and the name of a declaration. -/
def Declaration.key (declaration : Declaration) : ScopeId × String :=
  (declaration.scope, declaration.name)

/-- The symbol that a declaration introduces where it is the first of its scope and name. -/
def Declaration.symbol (declaration : Declaration) : Symbol :=
  { name := declaration.name
    kind := declaration.kind
    declaration := declaration.node.id
    scope := declaration.scope
    declaredType := declaredType? declaration.kind declaration.node }

/-- The reference that a declaration pushes where it is not the first of its scope and name. -/
def Declaration.rewrite (declaration : Declaration) : Reference :=
  { node := declaration.node.id, access := .write }

/-- The scope and the name of a symbol. -/
def Symbol.key (symbol : Symbol) : ScopeId × String :=
  (symbol.scope, symbol.name)

@[simp]
theorem Declaration.key_symbol (declaration : Declaration) :
    declaration.symbol.key = declaration.key :=
  rfl

@[simp]
theorem Symbol.key_refer (symbol : Symbol) (reference : Reference) :
    (symbol.refer reference).key = symbol.key :=
  rfl

@[simp]
theorem Symbol.declaration_refer (symbol : Symbol) (reference : Reference) :
    (symbol.refer reference).declaration = symbol.declaration :=
  rfl

/-- The declaration at a node in a scope, if the node declares a name. -/
def declaration? (scope : ScopeId) (node : Node) : Option Declaration :=
  match symbolKind? node, node.name with
  | some kind, some name => if name == "" then none else some { node, kind, name, scope }
  | _, _ => none

theorem declaration?_eq_some_iff {scope : ScopeId} {node : Node} {declaration : Declaration} :
    declaration? scope node = some declaration ↔
      declaration.node = node ∧ declaration.scope = scope ∧
        symbolKind? node = some declaration.kind ∧ node.name = some declaration.name ∧
          declaration.name ≠ "" := by
  rcases declaration with ⟨declared, kind, name, around⟩
  rw [declaration?]
  cases symbolKind? node with
  | none => simp
  | some nodeKind =>
      cases node.name with
      | none => simp
      | some nodeName =>
          by_cases empty : nodeName = ""
          · simp only [empty, beq_self_eq_true, if_true]
            constructor
            · rintro ⟨⟩
            · rintro ⟨_, _, _, sameName, notEmpty⟩
              exact absurd (Option.some_inj.mp sameName).symm notEmpty
          · simp only [beq_eq_false_iff_ne.mpr empty, Bool.false_eq_true, if_false,
              Option.some.injEq, Declaration.mk.injEq]
            constructor
            · rintro ⟨rfl, rfl, rfl, rfl⟩
              exact ⟨rfl, rfl, rfl, rfl, empty⟩
            · rintro ⟨rfl, rfl, rfl, rfl, _⟩
              exact ⟨rfl, rfl, rfl, rfl⟩

/-! ## Taking in declarations -/

/-- What declarations of a scope and name after the first push. -/
def rewrites (taken : List Declaration) (key : ScopeId × String) : List Reference :=
  ((taken.filter (·.key == key)).drop 1).map Declaration.rewrite

/-- The names in a scope with their symbols, in order. -/
def entriesIn (keys : List (ScopeId × String)) (number : ScopeId) : List (String × SymbolId) :=
  keys.zipIdx.filterMap fun entry =>
    if entry.1.1 = number then some (entry.1.2, entry.2) else none

section Entries

variable {keys : List (ScopeId × String)} {number : ScopeId}

theorem mem_entriesIn_iff {name : String} {id : SymbolId} :
    (name, id) ∈ entriesIn keys number ↔ keys[id]? = some (number, name) := by
  have isEntry : ((number, name), id) ∈ keys.zipIdx ↔ keys[id]? = some (number, name) :=
    List.mem_zipIdx_iff_getElem?
  rw [entriesIn, List.mem_filterMap, ← isEntry]
  constructor
  · rintro ⟨⟨⟨scope, other⟩, index⟩, member, made⟩
    rcases Option.ite_none_right_eq_some.mp made with ⟨rfl, same⟩
    cases same
    exact member
  · intro member
    exact ⟨_, member, by simp⟩

theorem entriesIn_append (key : ScopeId × String) :
    entriesIn (keys ++ [key]) number =
      entriesIn keys number ++ if key.1 = number then [(key.2, keys.length)] else [] := by
  rw [entriesIn, List.zipIdx_append, List.filterMap_append, ← entriesIn]
  by_cases isNumber : key.1 = number <;> simp [isNumber]

theorem nodup_names_entriesIn (distinct : keys.Nodup) :
    ((entriesIn keys number).map Prod.fst).Nodup := by
  have keeps (entry : (ScopeId × String) × SymbolId) (listed : String × SymbolId)
      (made :
        (if entry.1.1 = number then some (entry.1.2, entry.2) else none) = some listed) :
      (number, listed.1) = entry.1 := by
    rcases Option.ite_none_right_eq_some.mp made with ⟨rfl, isEntry⟩
    cases isEntry
    rfl
  have distinctKeys : (keys.zipIdx.map Prod.fst).Nodup := by rwa [List.zipIdx_map_fst]
  have pairs := nodup_keys_filterMap keeps distinctKeys
  apply List.Nodup.of_map (Prod.mk number)
  rwa [List.map_map]

theorem nodup_ids_entriesIn : ((entriesIn keys number).map Prod.snd).Nodup := by
  have keeps (entry : (ScopeId × String) × SymbolId) (listed : String × SymbolId)
      (made :
        (if entry.1.1 = number then some (entry.1.2, entry.2) else none) = some listed) :
      listed.2 = entry.2 := by
    rcases Option.ite_none_right_eq_some.mp made with ⟨_, isEntry⟩
    cases isEntry
    rfl
  apply nodup_keys_filterMap keeps
  rw [List.zipIdx_map_snd]
  exact List.nodup_range'

end Entries

namespace Scoping

/-- What holds after some declarations were taken in. -/
structure Records (scoping : Scoping) (taken : List Declaration) : Prop where
  /-- No scope and name has two symbols. -/
  distinct : (scoping.symbols.map Symbol.key).Nodup
  /--
  Each symbol is that of the first declaration of its scope and name, and the others write it.
  -/
  introduced :
    ∀ symbol ∈ scoping.symbols,
      ∃ first, taken.find? (·.key == symbol.key) = some first ∧
        symbol = { first.symbol with references := rewrites taken symbol.key }
  known : ∀ declaration ∈ taken, declaration.key ∈ scoping.symbols.map Symbol.key
  /-- Symbols are introduced in the order of their declarations. -/
  inOrder :
    (scoping.symbols.map Symbol.declaration).Sublist
      (taken.map fun declaration => declaration.node.id)
  /-- Each declaration denotes the symbol of its scope and name. -/
  declared :
    scoping.declared =
      (taken.map fun declaration =>
        (declaration.node.id, (scoping.symbols.map Symbol.key).idxOf declaration.key)).reverse
  inScopes : ∀ symbol ∈ scoping.symbols, symbol.scope < scoping.scopes.length
  /-- A scope lists the symbols that name it, in order, and the same under their names. -/
  listed :
    ∀ number scope, scoping.scopes[number]? = some scope →
      scope.symbols = (entriesIn (scoping.symbols.map Symbol.key) number).map Prod.snd ∧
        scope.byName = (entriesIn (scoping.symbols.map Symbol.key) number).reverse

section Records

variable {scoping : Scoping} {taken : List Declaration}

/-- In a scope a name finds the symbol of that scope and name. -/
theorem Records.get?_eq_some_iff (records : scoping.Records taken)
    {number : ScopeId} {name : String} {id : SymbolId}
    (bound : number < scoping.scopes.length) :
    scoping.get? number name = some id ↔
      (scoping.symbols.map Symbol.key)[id]? = some (number, name) := by
  have found := List.getElem?_eq_getElem bound
  rw [Scoping.get?, Scoping.scope?, found, Option.bind_some, (records.listed _ _ found).2,
    Lookup.get?_reverse_eq_some_iff (nodup_names_entriesIn records.distinct), mem_entriesIn_iff]

theorem takeIn_eq (scoping : Scoping) (node : Node) (scope : ScopeId) :
    scoping.takeIn node scope =
      match declaration? scope node with
      | some declaration =>
          scoping.declare declaration.node declaration.kind declaration.name declaration.scope
      | none => scoping := by
  rw [takeIn, declaration?]
  cases symbolKind? node with
  | none => rfl
  | some kind =>
      cases node.name with
      | none => rfl
      | some name => by_cases empty : name = "" <;> simp [empty]

/-- A declaration of a known scope and name denotes the symbol that is there, and writes it. -/
theorem Records.declare_of_known (records : scoping.Records taken)
    {declaration : Declaration}
    (bound : declaration.scope < scoping.scopes.length)
    (known : declaration.key ∈ scoping.symbols.map Symbol.key) :
    scoping.declare declaration.node declaration.kind declaration.name declaration.scope =
      let existing := (scoping.symbols.map Symbol.key).idxOf declaration.key
      { scoping.refer existing declaration.rewrite with
        declared := scoping.declared.record declaration.node.id existing } := by
  have found :
      scoping.get? declaration.scope declaration.name =
        some ((scoping.symbols.map Symbol.key).idxOf declaration.key) :=
    (records.get?_eq_some_iff bound).mpr (List.getElem?_idxOf known)
  rw [declare, found]
  rfl

/-- A declaration of a new scope and name introduces a symbol. -/
theorem Records.declare_of_new (records : scoping.Records taken)
    {declaration : Declaration}
    (bound : declaration.scope < scoping.scopes.length)
    (new : declaration.key ∉ scoping.symbols.map Symbol.key) :
    scoping.declare declaration.node declaration.kind declaration.name declaration.scope =
      { scoping with
        symbols := scoping.symbols ++ [declaration.symbol]
        scopes :=
          scoping.scopes.modify declaration.scope
            (·.list declaration.name scoping.symbols.length)
        declared := scoping.declared.record declaration.node.id scoping.symbols.length } := by
  have notFound : scoping.get? declaration.scope declaration.name = none := by
    rw [Option.eq_none_iff_forall_ne_some]
    intro id found
    exact new (List.mem_of_getElem? ((records.get?_eq_some_iff bound).mp found))
  rw [declare, notFound]
  rfl

theorem rewrites_append_of_ne {declaration : Declaration} {key : ScopeId × String}
    (other : declaration.key ≠ key) :
    rewrites (taken ++ [declaration]) key = rewrites taken key := by
  simp [rewrites, other]

theorem rewrites_append_of_known {declaration : Declaration}
    (known : ∃ first ∈ taken, first.key = declaration.key) :
    rewrites (taken ++ [declaration]) declaration.key =
      rewrites taken declaration.key ++ [declaration.rewrite] := by
  rcases known with ⟨first, member, sameKey⟩
  have some : 1 ≤ (taken.filter (·.key == declaration.key)).length :=
    List.length_pos_of_mem (List.mem_filter.mpr ⟨member, beq_iff_eq.mpr sameKey⟩)
  rw [rewrites, List.filter_append, List.drop_append_of_le_length some, List.map_append]
  simp [rewrites]

theorem rewrites_append_of_new {declaration : Declaration}
    (new : ∀ other ∈ taken, other.key ≠ declaration.key) :
    rewrites (taken ++ [declaration]) declaration.key = [] := by
  have none : taken.filter (·.key == declaration.key) = [] := by
    rw [List.filter_eq_nil_iff]
    intro other member sameKey
    exact new other member (beq_iff_eq.mp sameKey)
  simp [rewrites, none]

theorem map_key_refer (scoping : Scoping) (id : SymbolId) (reference : Reference) :
    (scoping.refer id reference).symbols.map Symbol.key = scoping.symbols.map Symbol.key :=
  map_modify_eq (Symbol.key_refer · reference) _ _

/-- The symbol with the key of a known declaration is the one at the position of the key. -/
theorem Records.key_eq_iff (records : scoping.Records taken)
    {key : ScopeId × String} {id : SymbolId} {symbol : Symbol}
    (found : scoping.symbols[id]? = some symbol) :
    symbol.key = key ↔
      (scoping.symbols.map Symbol.key).idxOf key = id ∧
        key ∈ scoping.symbols.map Symbol.key := by
  have atId : (scoping.symbols.map Symbol.key)[id]? = some symbol.key := by
    rw [List.getElem?_map, found]
    rfl
  constructor
  · rintro rfl
    rcases List.getElem?_eq_some_iff.mp atId with ⟨bound, isKey⟩
    refine ⟨?_, List.mem_of_getElem? atId⟩
    rw [← isKey]
    exact records.distinct.idxOf_getElem id bound
  · rintro ⟨rfl, known⟩
    rw [List.getElem?_idxOf known, Option.some_inj] at atId
    exact atId.symm

/-- Where a declaration writes its symbol, symbols are still those of the first declarations. -/
theorem Records.introduced_refer (records : scoping.Records taken)
    {declaration : Declaration}
    (known : declaration.key ∈ scoping.symbols.map Symbol.key)
    {symbol : Symbol}
    (member :
      symbol ∈
        (scoping.refer ((scoping.symbols.map Symbol.key).idxOf declaration.key)
          declaration.rewrite).symbols) :
    ∃ first, (taken ++ [declaration]).find? (·.key == symbol.key) = some first ∧
      symbol =
        { first.symbol with references := rewrites (taken ++ [declaration]) symbol.key } := by
  rcases List.mem_iff_getElem?.mp member with ⟨id, found⟩
  simp only [refer, List.getElem?_modify] at found
  rcases Option.map_eq_some_iff.mp found with ⟨old, isOld, isSymbol⟩
  rcases records.introduced old (List.mem_of_getElem? isOld) with ⟨first, isFirst, isRecord⟩
  have stillFirst : (taken ++ [declaration]).find? (·.key == old.key) = some first := by
    rw [List.find?_append, isFirst, Option.some_or]
  by_cases sameKey : old.key = declaration.key
  · have isPosition := ((records.key_eq_iff isOld).mp sameKey).1
    rw [if_pos isPosition] at isSymbol
    subst isSymbol
    have isKnown : ∃ first ∈ taken, first.key = declaration.key := by
      have firstKey := List.find?_some isFirst
      rw [beq_iff_eq, sameKey] at firstKey
      exact ⟨first, List.mem_of_find?_eq_some isFirst, firstKey⟩
    refine ⟨first, stillFirst, ?_⟩
    rw [Symbol.key_refer, sameKey, rewrites_append_of_known isKnown, ← sameKey]
    exact congrArg (Symbol.refer · declaration.rewrite) isRecord
  · have isOther := mt (fun same => (records.key_eq_iff isOld).mpr ⟨same, known⟩) sameKey
    rw [if_neg isOther] at isSymbol
    subst isSymbol
    refine ⟨first, stillFirst, ?_⟩
    rwa [rewrites_append_of_ne (Ne.symm sameKey)]

theorem Records.declare_known (records : scoping.Records taken)
    {declaration : Declaration}
    (bound : declaration.scope < scoping.scopes.length)
    (known : declaration.key ∈ scoping.symbols.map Symbol.key) :
    (scoping.declare declaration.node declaration.kind declaration.name declaration.scope).Records
      (taken ++ [declaration]) := by
  rw [records.declare_of_known bound known]
  generalize isExisting : (scoping.symbols.map Symbol.key).idxOf declaration.key = existing
  have keys := map_key_refer scoping existing declaration.rewrite
  refine ⟨?_, ?_, ?_, ?_, ?_, ?_, ?_⟩
  · rw [keys]
    exact records.distinct
  · subst isExisting
    exact fun _ => records.introduced_refer known
  · intro other member
    rw [keys]
    rcases List.mem_append.mp member with earlier | last
    · exact records.known other earlier
    · rwa [List.mem_singleton.mp last]
  · have declarations :
        (scoping.refer existing declaration.rewrite).symbols.map Symbol.declaration =
          scoping.symbols.map Symbol.declaration :=
      map_modify_eq (Symbol.declaration_refer · _) _ _
    rw [declarations, List.map_append]
    exact records.inOrder.trans (List.sublist_append_left _ _)
  · simp only [keys, isExisting, records.declared, Lookup.record, List.map_append,
      List.map_singleton, List.reverse_append]
    rfl
  · intro symbol member
    have isKey := List.mem_map_of_mem (f := Symbol.key) member
    rw [keys] at isKey
    rcases List.mem_map.mp isKey with ⟨old, isOld, sameKey⟩
    have sameScope : old.scope = symbol.scope := congrArg Prod.fst sameKey
    rw [← sameScope]
    exact records.inScopes old isOld
  · rw [keys]
    exact records.listed

/-- Where a declaration introduces a symbol, it is the first one of its scope and name. -/
theorem Records.introduced_new (records : scoping.Records taken)
    {declaration : Declaration}
    (new : declaration.key ∉ scoping.symbols.map Symbol.key)
    {symbol : Symbol}
    (member : symbol ∈ scoping.symbols ++ [declaration.symbol]) :
    ∃ first, (taken ++ [declaration]).find? (·.key == symbol.key) = some first ∧
      symbol =
        { first.symbol with references := rewrites (taken ++ [declaration]) symbol.key } := by
  rcases List.mem_append.mp member with earlier | last
  · rcases records.introduced symbol earlier with ⟨first, isFirst, isRecord⟩
    have other : declaration.key ≠ symbol.key := by
      intro sameKey
      exact new (List.mem_map.mpr ⟨symbol, earlier, sameKey.symm⟩)
    refine ⟨first, by rw [List.find?_append, isFirst, Option.some_or], ?_⟩
    rwa [rewrites_append_of_ne other]
  · rw [List.mem_singleton] at last
    subst last
    have notBefore : ∀ other ∈ taken, other.key ≠ declaration.key := by
      intro other member sameKey
      exact new (sameKey ▸ records.known other member)
    have notFound : taken.find? (·.key == declaration.symbol.key) = none := by
      rw [List.find?_eq_none]
      intro other member sameKey
      exact notBefore other member (beq_iff_eq.mp sameKey)
    refine ⟨declaration, by rw [List.find?_append, notFound]; simp, ?_⟩
    rw [Declaration.key_symbol, rewrites_append_of_new notBefore]
    rfl

/-- The positions of the symbols before stay, and the new one stands behind them. -/
theorem Records.declared_new (records : scoping.Records taken)
    {declaration : Declaration}
    (new : declaration.key ∉ scoping.symbols.map Symbol.key) :
    scoping.declared.record declaration.node.id scoping.symbols.length =
      ((taken ++ [declaration]).map fun other =>
        (other.node.id,
          (scoping.symbols.map Symbol.key ++ [declaration.key]).idxOf other.key)).reverse := by
  have before :
      (taken.map fun other =>
        (other.node.id, (scoping.symbols.map Symbol.key ++ [declaration.key]).idxOf other.key)) =
        taken.map fun other =>
          (other.node.id, (scoping.symbols.map Symbol.key).idxOf other.key) := by
    apply List.map_congr_left
    intro other member
    rw [List.idxOf_append_of_mem (records.known other member)]
  have last :
      (scoping.symbols.map Symbol.key ++ [declaration.key]).idxOf declaration.key =
        scoping.symbols.length := by
    simp [List.idxOf_append_of_notMem new]
  simp only [List.map_append, List.map_singleton, List.reverse_append, before, last,
    records.declared, Lookup.record]
  rfl

theorem Records.declare_new (records : scoping.Records taken)
    {declaration : Declaration}
    (bound : declaration.scope < scoping.scopes.length)
    (new : declaration.key ∉ scoping.symbols.map Symbol.key) :
    (scoping.declare declaration.node declaration.kind declaration.name declaration.scope).Records
      (taken ++ [declaration]) := by
  rw [records.declare_of_new bound new]
  have keys :
      (scoping.symbols ++ [declaration.symbol]).map Symbol.key =
        scoping.symbols.map Symbol.key ++ [declaration.key] := by simp
  refine ⟨?_, ?_, ?_, ?_, ?_, ?_, ?_⟩
  · rw [keys, List.nodup_append_comm, List.singleton_append, List.nodup_cons]
    exact ⟨new, records.distinct⟩
  · exact fun _ => records.introduced_new new
  · intro other member
    rw [keys]
    rcases List.mem_append.mp member with earlier | last
    · exact List.mem_append_left _ (records.known other earlier)
    · rw [List.mem_singleton] at last
      simp [last]
  · rw [List.map_append, List.map_append]
    exact records.inOrder.append (List.Sublist.refl _)
  · rw [keys]
    exact records.declared_new new
  · intro symbol member
    rw [List.length_modify]
    rcases List.mem_append.mp member with earlier | last
    · exact records.inScopes symbol earlier
    · rw [List.mem_singleton] at last
      rwa [last]
  · intro number scope found
    rw [List.getElem?_modify, Option.map_eq_map, Option.map_eq_some_iff] at found
    rcases found with ⟨old, isOld, isScope⟩
    rcases records.listed number old isOld with ⟨symbols, byName⟩
    rw [keys, entriesIn_append]
    by_cases isNumber : declaration.scope = number
    · rw [if_pos isNumber] at isScope
      subst isScope
      simp [Scope.list, Lookup.record, Declaration.key, isNumber, symbols, byName]
    · rw [if_neg isNumber] at isScope
      subst isScope
      simp [Declaration.key, isNumber, symbols, byName]

/-- One more declaration is taken in. -/
theorem Records.declare (records : scoping.Records taken)
    {declaration : Declaration}
    (bound : declaration.scope < scoping.scopes.length) :
    (scoping.declare declaration.node declaration.kind declaration.name declaration.scope).Records
      (taken ++ [declaration]) := by
  by_cases known : declaration.key ∈ scoping.symbols.map Symbol.key
  · exact records.declare_known bound known
  · exact records.declare_new bound known

/-- A scope that is opened is empty, and no symbol names it yet. -/
theorem Records.openScope (records : scoping.Records taken) (kind : ScopeKind) (node : NodeId)
    (parent : Option ScopeId) :
    (scoping.openScope kind node parent).Records taken := by
  refine
    { records with
      inScopes := fun symbol member => ?_
      listed := fun number scope found => ?_ }
  · have before := records.inScopes symbol member
    rw [Scoping.openScope, List.length_append]
    exact Nat.lt_of_lt_of_le before (Nat.le_add_right _ _)
  · rw [Scoping.openScope] at found
    rcases Nat.lt_or_ge number scoping.scopes.length with earlier | behind
    · rw [List.getElem?_append_left earlier] at found
      exact records.listed number scope found
    · rw [List.getElem?_append_right behind, List.getElem?_singleton] at found
      cases (Option.ite_none_right_eq_some.mp found).2
      have noEntry : entriesIn (scoping.symbols.map Symbol.key) number = [] := by
        rw [List.eq_nil_iff_forall_not_mem]
        rintro ⟨name, id⟩ member
        rw [mem_entriesIn_iff] at member
        rcases List.mem_map.mp (List.mem_of_getElem? member) with ⟨symbol, isSymbol, isKey⟩
        have inScope : symbol.scope = number := congrArg Prod.fst isKey
        have before := records.inScopes symbol isSymbol
        rw [inScope] at before
        exact Nat.not_le_of_gt before behind
      have sameSymbols : (scoping.openScope kind node parent).symbols = scoping.symbols := rfl
      rw [sameSymbols, noEntry]
      exact ⟨rfl, rfl⟩

theorem Records.start (model : Model) : (Scoping.start model).Records [] where
  distinct := List.nodup_nil
  introduced _ member := absurd member List.not_mem_nil
  known _ member := absurd member List.not_mem_nil
  inOrder := List.Sublist.refl []
  declared := rfl
  inScopes _ member := absurd member List.not_mem_nil
  listed number scope found := by
    rcases List.getElem?_eq_some_iff.mp found with ⟨bound, rfl⟩
    have isFirst : number = 0 := Nat.lt_one_iff.mp bound
    subst isFirst
    exact ⟨rfl, rfl⟩

/-- One visit takes in what its node declares. -/
theorem Records.meet {model : Model} (records : scoping.Records taken) (visit : Visit)
    (bound : numberOf model visit.opener < scoping.scopes.length) :
    (scoping.meet model visit).Records
      (taken ++ (declaration? (numberOf model visit.opener) visit.node).toList) := by
  have placed :
      (scoping.place visit.node.id (numberOf model visit.opener) visit.function).Records taken :=
    { records with }
  have declared :
      ((scoping.place visit.node.id (numberOf model visit.opener) visit.function).takeIn visit.node
        (numberOf model visit.opener)).Records
        (taken ++ (declaration? (numberOf model visit.opener) visit.node).toList) := by
    rw [takeIn_eq]
    cases found : declaration? (numberOf model visit.opener) visit.node with
    | none => simpa using placed
    | some declaration =>
        refine placed.declare ?_
        rw [(declaration?_eq_some_iff.mp found).2.1]
        exact bound
  rw [Scoping.meet, Scoping.visit]
  cases scopeKind? model visit.node with
  | none => exact declared
  | some kind => exact declared.openScope kind visit.node.id _

/-- After a walk, what was taken in are the declarations that it met. -/
theorem Records.foldl {model : Model} (records : scoping.Records taken)
    {known : List NodeId} {walk : List Visit}
    (inOrder : OpenedInOrder model known walk)
    (split : openerIds model = known ++ walk.filterMap (opened? model))
    (counted : scoping.scopes.length = known.length) :
    (walk.foldl (Scoping.meet model) scoping).Records
      (taken ++ walk.filterMap fun visit =>
        declaration? (numberOf model visit.opener) visit.node) := by
  induction walk generalizing scoping taken known with
  | nil => simpa using records
  | cons visit rest induction =>
      have bound : numberOf model visit.opener < scoping.scopes.length := by
        rw [numberOf, split, List.idxOf_append_of_mem inOrder.1, counted]
        exact List.idxOf_lt_length_of_mem inOrder.1
      rw [filterMap_opened?_cons, ← List.append_assoc] at split
      have nextCounted :
          (scoping.meet model visit).scopes.length =
            (known ++ (opened? model visit).toList).length := by
        rw [length_scopes_meet, counted, List.length_append]
      have next := induction (records.meet visit bound) inOrder.2 split nextCounted
      rw [List.foldl_cons]
      cases found : declaration? (numberOf model visit.opener) visit.node with
      | none => simpa [found] using next
      | some declaration => simpa [found] using next

end Records

end Scoping

/-! ## The declarations of a model -/

/-- The named declarations of a model in pre-order. -/
def declarationsOf (model : Model) : List Declaration :=
  (visits model).filterMap fun visit => declaration? (numberOf model visit.opener) visit.node

section Lookup

variable {model : Model}

theorem exists_visit_of_declaration {declaration : Declaration}
    (member : declaration ∈ declarationsOf model) :
    ∃ visit ∈ visits model,
      declaration? (numberOf model visit.opener) visit.node = some declaration :=
  List.mem_filterMap.mp member

variable (wellFormed : model.IsWellFormed)

include wellFormed

theorem records_scoping : (scoping model).Records (declarationsOf model) := by
  rw [scoping_eq_foldl wellFormed]
  exact (Scoping.Records.start model).foldl openedInOrder_visits rfl rfl

theorem nodup_node_declarationsOf :
    ((declarationsOf model).map fun declaration => declaration.node.id).Nodup := by
  have keeps (visit : Visit) (declaration : Declaration)
      (isDeclaration :
        declaration? (numberOf model visit.opener) visit.node = some declaration) :
      declaration.node.id = visit.node.id := by
    rw [(declaration?_eq_some_iff.mp isDeclaration).1]
  exact nodup_keys_filterMap keeps (nodup_visits wellFormed)

theorem nodup_symbol_keys : ((scoping model).symbols.map Symbol.key).Nodup :=
  (records_scoping wellFormed).distinct

/-- Symbols of one scope and name are the same symbol. -/
theorem symbolId_unique {first second : SymbolId} {firstSymbol secondSymbol : Symbol}
    (isFirst : (scoping model).symbol? first = some firstSymbol)
    (isSecond : (scoping model).symbol? second = some secondSymbol)
    (sameKey : firstSymbol.key = secondSymbol.key) :
    first = second := by
  have records := records_scoping wellFormed
  rw [← ((records.key_eq_iff isFirst).mp sameKey).1, ((records.key_eq_iff isSecond).mp rfl).1]

/-- A symbol is that of the first declaration of its scope and name, and lists the others. -/
theorem exists_first_declaration {id : SymbolId} {symbol : Symbol}
    (found : (scoping model).symbol? id = some symbol) :
    ∃ first, (declarationsOf model).find? (·.key == symbol.key) = some first ∧
      symbol = { first.symbol with references := rewrites (declarationsOf model) symbol.key } :=
  (records_scoping wellFormed).introduced symbol (List.mem_of_getElem? found)

/-- Every declaration denotes a symbol of its scope and name. -/
theorem exists_symbol_of_declaration {declaration : Declaration}
    (member : declaration ∈ declarationsOf model) :
    ∃ symbol,
      (scoping model).symbol? (((scoping model).symbols.map Symbol.key).idxOf declaration.key) =
          some symbol ∧
        symbol.key = declaration.key := by
  have atPosition := List.getElem?_idxOf ((records_scoping wellFormed).known declaration member)
  rwa [List.getElem?_map, Option.map_eq_some_iff] at atPosition

theorem declaredBy?_eq_some_iff {node : NodeId} {id : SymbolId} :
    (scoping model).declaredBy? node = some id ↔
      ∃ declaration ∈ declarationsOf model,
        declaration.node.id = node ∧
          ∃ symbol, (scoping model).symbol? id = some symbol ∧ symbol.key = declaration.key := by
  have records := records_scoping wellFormed
  have distinct :
      (((declarationsOf model).map fun declaration =>
        (declaration.node.id,
          ((scoping model).symbols.map Symbol.key).idxOf declaration.key)).map Prod.fst).Nodup := by
    rw [List.map_map]
    exact nodup_node_declarationsOf wellFormed
  rw [Scoping.declaredBy?, records.declared, Lookup.get?_reverse_eq_some_iff distinct, List.mem_map]
  apply exists_congr
  intro declaration
  apply and_congr_right
  intro member
  rw [Prod.mk.injEq]
  apply and_congr_right
  intro _
  rcases exists_symbol_of_declaration wellFormed member with ⟨symbol, isSymbol, isKey⟩
  constructor
  · rintro rfl
    exact ⟨symbol, isSymbol, isKey⟩
  · rintro ⟨other, isOther, otherKey⟩
    exact symbolId_unique wellFormed isSymbol isOther (isKey.trans otherKey.symm)

/-- In a scope a name finds the symbol of that scope and name. -/
theorem get?_eq_some_iff {scope : ScopeId} {name : String} {id : SymbolId}
    (bound : scope < (scoping model).scopes.length) :
    (scoping model).get? scope name = some id ↔
      ∃ symbol, (scoping model).symbol? id = some symbol ∧ symbol.key = (scope, name) := by
  rw [(records_scoping wellFormed).get?_eq_some_iff bound, List.getElem?_map,
    Option.map_eq_some_iff]
  rfl

end Lookup

end StructuralLint.Symbols
