import StructuralLint.Proofs.Declarations
import StructuralLint.Symbols.Resolve

/-!
# Reading the resolved table

The second pass keeps the scopes and declarations of the first one, and reads nothing of what it
writes.  So what it adds at a node depends on the node alone, and the lists and tables that it fills
are, entry by entry, what the nodes below the root contribute in pre-order.  This module says what
one node contributes, what stands in the table after some nodes, and what looking up an id finds in
the end.
-/

namespace StructuralLint.Symbols

/-! ## What a node denotes -/

/-- What an identifier denotes; one without a name denotes nothing. -/
def identifierResolution? (scoping : Scoping) (node : Node) : Option Resolution :=
  let name := node.nameText
  if name == "" then none
  else if isSelfName name then some .current
  else
    match lookupFrom? scoping node.id name with
    | none => some .unresolved
    | some (symbol, foundIn) =>
        let isOwn := (scoping.symbol? symbol).any fun declared =>
          isOwnMember foundIn (scoping.enclosingFunction? node.id) declared.kind
        if isOwn then some (.ownField (some symbol)) else some (.inScope symbol)

/-- What a member access denotes. -/
def Receiver.resolution : Receiver → Resolution
  | own symbol => .ownField symbol
  | foreign _ _ depth _ => .foreign depth

/-- What a node denotes, if it is an identifier or a member access. -/
def resolution? (model : Model) (scoping : Scoping) (node : Node) : Option Resolution :=
  if node.kind == .identifier then identifierResolution? scoping node
  else if node.isExpression .member then some (classify model scoping node.id).resolution
  else none

/-- The symbol that a resolution refers to. -/
def Resolution.symbol? : Resolution → Option SymbolId
  | inScope symbol => some symbol
  | ownField symbol => symbol
  | _ => none

/-- How a node uses the symbol that it refers to. -/
def accessOf (model : Model) (node : NodeId) : Access :=
  if isWriteTarget model node then .write else .read

/-- The use of an own member at a node. -/
def fieldAccess? (model : Model) (scoping : Scoping) (node : Node) : Option FieldAccess :=
  match resolution? model scoping node with
  | some (.ownField symbol) =>
      some
        { node := node.id
          function := scoping.enclosingFunction? node.id
          field := node.nameText
          symbol
          isCall := isCallee model node.id
          isWrite := isWriteTarget model node.id }
  | _ => none

/-- The use of a member of another object at a node; whether its chain goes on is not known yet. -/
def foreignAccess? (model : Model) (scoping : Scoping) (node : Node) : Option ForeignAccess :=
  if node.isExpression .member then
    match classify model scoping node.id with
    | .own _ => none
    | .foreign root rootName depth receiver =>
        some
          { node := node.id
            function := scoping.enclosingFunction? node.id
            root
            rootName
            member := node.nameText
            isCall := isCallee model node.id
            isWrite := isWriteTarget model node.id
            depth
            receiver
            isChainEnd := true }
  else none

/-- The call at a node. -/
def call? (model : Model) (scoping : Scoping) (node : Node) : Option Call :=
  if node.isExpression .call then do
    let callee ← callee? model scoping (← model.child? node.id 0)
    return { node := node.id, caller := scoping.enclosingFunction? node.id, callee }
  else none

/-! ## What a node contributes -/

namespace Table

/-- Adds what a node contributes, one kind of entry after another. -/
def contribute (model : Model) (scoping : Scoping) (table : Table) (node : Node) : Table :=
  let resolution := Symbols.resolution? model scoping node
  let foreign := foreignAccess? model scoping node
  let referred :=
    match resolution.bind Resolution.symbol? with
    | some symbol =>
        table.symbols.modify symbol (·.refer { node := node.id, access := accessOf model node.id })
    | none => table.symbols
  { table with
    symbols :=
      match foreign.bind ForeignAccess.root with
      | some root => referred.modify root (·.startAccess table.foreignAccesses.length)
      | none => referred
    resolutions := (resolution.map fun denoted => (node.id, denoted)).toList ++ table.resolutions
    fieldAccesses := table.fieldAccesses ++ (fieldAccess? model scoping node).toList
    foreignAccesses := table.foreignAccesses ++ foreign.toList
    foreignByNode :=
      (foreign.map fun access => (access.node, table.foreignAccesses.length)).toList ++
        table.foreignByNode
    calls := table.calls ++ (call? model scoping node).toList
    unresolved := table.unresolved ++ if resolution = some .unresolved then [node.id] else [] }

end Table

section Binding

variable {model : Model} {scoping : Scoping}

theorem bindIdentifier_eq (table : Table) {node : Node} (isIdentifier : node.kind = .identifier) :
    table.bindIdentifier model scoping node = table.contribute model scoping node := by
  have noForeign : foreignAccess? model scoping node = none := by
    simp [foreignAccess?, Node.isExpression, isIdentifier]
  have noCall : call? model scoping node = none := by
    simp [call?, Node.isExpression, isIdentifier]
  have denoted : resolution? model scoping node = identifierResolution? scoping node := by
    simp [resolution?, isIdentifier]
  rw [Table.bindIdentifier, Table.contribute, noForeign, noCall, fieldAccess?, denoted,
    identifierResolution?]
  split
  · simp
  · split
    · simp [Table.resolveAs, Lookup.record, Resolution.symbol?]
    · cases lookupFrom? scoping node.id node.nameText with
      | none => simp [Table.resolveAs, Lookup.record, Resolution.symbol?]
      | some found =>
          simp only
          split
          · simp [Table.addField, Table.resolveAs, Table.refer, Scoping.refer, Lookup.record,
              Resolution.symbol?, accessOf]
          · simp [Table.resolveAs, Table.refer, Scoping.refer, Lookup.record, Resolution.symbol?,
              accessOf]

theorem bindMember_eq (table : Table) {node : Node} (isMember : node.isExpression .member = true) :
    table.bindMember model scoping node = table.contribute model scoping node := by
  have isKind : node.kind = .expression := by
    rw [Node.isExpression, Bool.and_eq_true, beq_iff_eq] at isMember
    exact isMember.1
  have noCall : call? model scoping node = none := by
    have isExpression := isMember
    rw [Node.isExpression, Bool.and_eq_true, beq_iff_eq, beq_iff_eq] at isExpression
    simp [call?, Node.isExpression, isExpression.2]
  have denoted :
      resolution? model scoping node = some (classify model scoping node.id).resolution := by
    simp [resolution?, isKind, isMember]
  rw [Table.bindMember, Table.contribute, noCall, fieldAccess?, foreignAccess?, denoted,
    if_pos isMember]
  cases classify model scoping node.id with
  | own symbol =>
      cases symbol <;>
        simp [Table.addField, Table.resolveAs, Table.refer, Scoping.refer, Lookup.record,
          Resolution.symbol?, Receiver.resolution, accessOf]
  | foreign root rootName depth receiver =>
      cases root <;>
        simp [Table.addForeign, Table.resolveAs, Lookup.record, Resolution.symbol?,
          Receiver.resolution]

theorem bindCall_eq (table : Table) {node : Node} (isCall : node.isExpression .call = true) :
    table.bindCall model scoping node = table.contribute model scoping node := by
  have isExpression := isCall
  rw [Node.isExpression, Bool.and_eq_true, beq_iff_eq, beq_iff_eq] at isExpression
  have noMember : node.isExpression .member = false := by
    simp [Node.isExpression, isExpression.2]
  have noForeign : foreignAccess? model scoping node = none := by
    simp [foreignAccess?, noMember]
  have denoted : resolution? model scoping node = none := by
    simp [resolution?, isExpression.1, noMember]
  rw [Table.bindCall, Table.contribute, noForeign, fieldAccess?, denoted, call?, if_pos isCall]
  cases model.child? node.id 0 with
  | none => simp
  | some object =>
      cases isCallee : callee? model scoping object with
      | none => simp [isCallee]
      | some callee => simp [isCallee]

/-- Resolving a node adds what the node contributes. -/
theorem bindNode_eq (table : Table) (node : Node) :
    table.bindNode model scoping node = table.contribute model scoping node := by
  have nothing (notIdentifier : node.kind ≠ .identifier)
      (noMember : node.isExpression .member = false) (noCall : node.isExpression .call = false) :
      table.contribute model scoping node = table := by
    simp [Table.contribute, resolution?, fieldAccess?, foreignAccess?, call?, notIdentifier,
      noMember, noCall]
  rw [Table.bindNode]
  cases isKind : node.kind with
  | identifier => exact bindIdentifier_eq table isKind
  | expression =>
      cases isExpression : node.expression with
      | none => exact (nothing (by simp [isKind]) (by simp [Node.isExpression, isExpression])
          (by simp [Node.isExpression, isExpression])).symm
      | some expression =>
          cases expression with
          | member => exact bindMember_eq table (by simp [Node.isExpression, isKind, isExpression])
          | call => exact bindCall_eq table (by simp [Node.isExpression, isKind, isExpression])
          | _ =>
              exact (nothing (by simp [isKind]) (by simp [Node.isExpression, isExpression])
                (by simp [Node.isExpression, isExpression])).symm
  | «module» | «class» | function | parameter | statement | comment | literal =>
      exact (nothing (by simp [isKind]) (by simp [Node.isExpression, isKind])
        (by simp [Node.isExpression, isKind])).symm

end Binding

/-! ## After some nodes -/

/-- The uses of a symbol among nodes, in their order. -/
def uses (model : Model) (scoping : Scoping) (nodes : List Node) (symbol : SymbolId) :
    List Reference :=
  nodes.filterMap fun node =>
    if (resolution? model scoping node).bind Resolution.symbol? = some symbol then
      some { node := node.id, access := accessOf model node.id }
    else none

/-- The positions of the accesses that start at a symbol. -/
def startsAt (accesses : List ForeignAccess) (symbol : SymbolId) : List Nat :=
  accesses.zipIdx.filterMap fun entry =>
    if entry.1.root = some symbol then some entry.2 else none

/-- What stands in the table after some nodes. -/
structure Binds (model : Model) (scoping : Scoping) (taken : List Node) (table : Table) :
    Prop where
  kept : { table.toScoping with symbols := scoping.symbols } = scoping
  symbols :
    ∀ id : SymbolId,
      table.symbols[id]? =
        scoping.symbols[id]?.map fun symbol =>
          { symbol with
            references := symbol.references ++ uses model scoping taken id
            accessorCalls := symbol.accessorCalls ++ startsAt table.foreignAccesses id }
  resolutions :
    table.resolutions =
      (taken.filterMap fun node =>
        (resolution? model scoping node).map fun denoted => (node.id, denoted)).reverse
  fieldAccesses : table.fieldAccesses = taken.filterMap (fieldAccess? model scoping)
  foreignAccesses : table.foreignAccesses = taken.filterMap (foreignAccess? model scoping)
  foreignByNode :
    table.foreignByNode = (table.foreignAccesses.map ForeignAccess.node).zipIdx.reverse
  calls : table.calls = taken.filterMap (call? model scoping)
  unresolved :
    table.unresolved =
      (taken.filter fun node =>
        resolution? model scoping node == some .unresolved).map Node.id

section Binds

variable {model : Model} {scoping : Scoping}

theorem Binds.start :
    Binds model scoping [] ({ toScoping := scoping } : Table) where
  kept := rfl
  symbols id := by simp [uses, startsAt]
  resolutions := rfl
  fieldAccesses := rfl
  foreignAccesses := rfl
  foreignByNode := rfl
  calls := rfl
  unresolved := rfl

theorem filterMap_append_singleton {α β : Type} (made : α → Option β) (items : List α) (item : α) :
    (items ++ [item]).filterMap made = items.filterMap made ++ (made item).toList := by
  cases found : made item <;> simp [found]

theorem uses_append (nodes : List Node) (node : Node) (id : SymbolId) :
    uses model scoping (nodes ++ [node]) id =
      uses model scoping nodes id ++
        if (resolution? model scoping node).bind Resolution.symbol? = some id then
          [{ node := node.id, access := accessOf model node.id }]
        else [] := by
  rw [uses, filterMap_append_singleton, ← uses]
  split <;> rfl

theorem startsAt_append (accesses : List ForeignAccess) (access : Option ForeignAccess)
    (id : SymbolId) :
    startsAt (accesses ++ access.toList) id =
      startsAt accesses id ++
        if access.bind ForeignAccess.root = some id then [accesses.length] else [] := by
  cases access with
  | none => simp
  | some access =>
      by_cases startsHere : access.root = some id <;>
        simp [startsAt, List.zipIdx_append, startsHere]

/-- What a reference to a symbol changes. -/
theorem getElem?_refer (symbols : List Symbol) (target : Option SymbolId) (reference : Reference)
    (id : SymbolId) :
    (match target with
      | some symbol => symbols.modify symbol (·.refer reference)
      | none => symbols)[id]? =
      symbols[id]?.map fun symbol =>
        { symbol with
          references := symbol.references ++ if target = some id then [reference] else [] } := by
  cases target with
  | none => simp
  | some target =>
      by_cases isTarget : target = id <;> simp [isTarget, Symbol.refer]

/-- What an access that starts at a symbol changes. -/
theorem getElem?_startAccess (symbols : List Symbol) (root : Option SymbolId) (position : Nat)
    (id : SymbolId) :
    (match root with
      | some symbol => symbols.modify symbol (·.startAccess position)
      | none => symbols)[id]? =
      symbols[id]?.map fun symbol =>
        { symbol with
          accessorCalls :=
            symbol.accessorCalls ++ if root = some id then [position] else [] } := by
  cases root with
  | none => simp
  | some root =>
      by_cases isRoot : root = id <;> simp [isRoot, Symbol.startAccess]

theorem Binds.contribute {taken : List Node} {table : Table}
    (binds : Binds model scoping taken table) (node : Node) :
    Binds model scoping (taken ++ [node]) (table.contribute model scoping node) where
  kept := binds.kept
  symbols id := by
    have before := binds.symbols id
    simp only [Table.contribute, getElem?_startAccess, getElem?_refer, before, Option.map_map,
      uses_append, startsAt_append]
    congr 1
    funext symbol
    simp
  resolutions := by
    rw [filterMap_append_singleton, List.reverse_append, ← binds.resolutions]
    simp only [Table.contribute]
    cases resolution? model scoping node <;> rfl
  fieldAccesses := by
    rw [filterMap_append_singleton, ← binds.fieldAccesses]
    rfl
  foreignAccesses := by
    rw [filterMap_append_singleton, ← binds.foreignAccesses]
    rfl
  foreignByNode := by
    simp only [Table.contribute, List.map_append, List.zipIdx_append, List.reverse_append,
      binds.foreignByNode]
    cases foreignAccess? model scoping node <;> simp
  calls := by
    rw [filterMap_append_singleton, ← binds.calls]
    rfl
  unresolved := by
    rw [List.filter_append, List.map_append, ← binds.unresolved]
    simp only [Table.contribute]
    by_cases isUnresolved : resolution? model scoping node = some .unresolved
    · simp [isUnresolved]
    · simp [isUnresolved]

/-- After a pass over nodes, what stands in the table comes from them. -/
theorem Binds.foldl {taken : List Node} {table : Table}
    (binds : Binds model scoping taken table) (nodes : List Node) :
    Binds model scoping (taken ++ nodes) (nodes.foldl (Table.bindNode model scoping) table) := by
  induction nodes generalizing table taken with
  | nil => simpa using binds
  | cons node rest induction =>
      rw [List.foldl_cons, bindNode_eq, List.append_cons]
      exact induction (binds.contribute node)

end Binds

/-! ## The table of a model -/

section Resolved

variable {model : Model}

/--
The accesses through other objects below the root, of which it is not known yet whether they end
their chains.
-/
def foreignAccesses (model : Model) : List ForeignAccess :=
  (model.descendants model.root).filterMap (foreignAccess? model (scoping model))

/-- Says of an access whether some other one goes through it. -/
def ForeignAccess.finish (access : ForeignAccess) (accesses : List ForeignAccess) :
    ForeignAccess :=
  { access with isChainEnd := !(accesses.filterMap (·.receiver)).contains access.node }

/-- What the table holds of a declared symbol. -/
def Symbol.finish (symbol : Symbol) (model : Model) (id : SymbolId) : Symbol :=
  { symbol with
    references :=
      inSourceOrder model
        (symbol.references ++ uses model (scoping model) (model.descendants model.root) id)
    accessorCalls := symbol.accessorCalls ++ startsAt (foreignAccesses model) id }

theorem exists_binds_resolve :
    ∃ table, Binds model (scoping model) (model.descendants model.root) table ∧
      resolve model = table.finish model :=
  ⟨_, Binds.start.foldl (model.descendants model.root), rfl⟩

theorem foreignAccesses_resolve :
    (resolve model).foreignAccesses =
      (foreignAccesses model).map fun access => access.finish (foreignAccesses model) := by
  rcases exists_binds_resolve with ⟨table, binds, isTable⟩
  rw [isTable, Table.finish, foreignAccesses, ← binds.foreignAccesses]
  rfl

theorem symbol?_resolve (id : SymbolId) :
    (resolve model).symbol? id =
      ((scoping model).symbol? id).map fun symbol => symbol.finish model id := by
  rcases exists_binds_resolve with ⟨table, binds, isTable⟩
  rw [isTable, Scoping.symbol?, Table.finish, List.getElem?_map, binds.symbols id, Option.map_map,
    binds.foreignAccesses]
  rfl

theorem kept_resolve :
    { (resolve model).toScoping with symbols := (scoping model).symbols } = scoping model := by
  rcases exists_binds_resolve with ⟨table, binds, isTable⟩
  rw [isTable]
  exact binds.kept

theorem fieldAccesses_resolve :
    (resolve model).fieldAccesses =
      (model.descendants model.root).filterMap (fieldAccess? model (scoping model)) := by
  rcases exists_binds_resolve with ⟨table, binds, isTable⟩
  rw [isTable, ← binds.fieldAccesses]
  rfl

theorem calls_resolve :
    (resolve model).calls =
      (model.descendants model.root).filterMap (call? model (scoping model)) := by
  rcases exists_binds_resolve with ⟨table, binds, isTable⟩
  rw [isTable, ← binds.calls]
  rfl

theorem foreignByNode_resolve :
    (resolve model).foreignByNode =
      ((resolve model).foreignAccesses.map ForeignAccess.node).zipIdx.reverse := by
  rcases exists_binds_resolve with ⟨table, binds, isTable⟩
  rw [isTable, Table.finish, List.map_map, binds.foreignByNode]
  rfl

theorem resolutions_resolve :
    (resolve model).resolutions =
      ((model.descendants model.root).filterMap fun node =>
        (resolution? model (scoping model) node).map fun denoted =>
          (node.id, denoted)).reverse := by
  rcases exists_binds_resolve with ⟨table, binds, isTable⟩
  rw [isTable, ← binds.resolutions]
  rfl

theorem unresolved_resolve :
    (resolve model).unresolved =
      ((model.descendants model.root).filter fun node =>
        resolution? model (scoping model) node == some .unresolved).map Node.id := by
  rcases exists_binds_resolve with ⟨table, binds, isTable⟩
  rw [isTable, ← binds.unresolved]
  rfl

theorem symbol?_resolve_eq_some_iff {id : SymbolId} {symbol : Symbol} :
    (resolve model).symbol? id = some symbol ↔
      ∃ declared, (scoping model).symbol? id = some declared ∧
        symbol = declared.finish model id := by
  rw [symbol?_resolve, Option.map_eq_some_iff]
  simp only [eq_comm]

/-! ## The table keeps the scopes -/

theorem scope?_resolve (id : ScopeId) : (resolve model).scope? id = (scoping model).scope? id := by
  have kept := congrArg (Scoping.scope? · id) (@kept_resolve model)
  exact kept

theorem scopeOf?_resolve (node : NodeId) :
    (resolve model).scopeOf? node = (scoping model).scopeOf? node := by
  have kept := congrArg (Scoping.scopeOf? · node) (@kept_resolve model)
  exact kept

theorem enclosingFunction?_resolve (node : NodeId) :
    (resolve model).enclosingFunction? node = (scoping model).enclosingFunction? node := by
  have kept := congrArg (Scoping.enclosingFunction? · node) (@kept_resolve model)
  exact kept

theorem openedBy?_resolve (node : NodeId) :
    (resolve model).openedBy? node = (scoping model).openedBy? node := by
  have kept := congrArg (Scoping.openedBy? · node) (@kept_resolve model)
  exact kept

theorem declaredBy?_resolve (node : NodeId) :
    (resolve model).declaredBy? node = (scoping model).declaredBy? node := by
  have kept := congrArg (Scoping.declaredBy? · node) (@kept_resolve model)
  exact kept

theorem get?_resolve (scope : ScopeId) (name : String) :
    (resolve model).get? scope name = (scoping model).get? scope name := by
  have kept := congrArg (Scoping.get? · scope name) (@kept_resolve model)
  exact kept

theorem chainWithin_resolve (levels : Nat) (scope : ScopeId) :
    (resolve model).chainWithin levels scope = (scoping model).chainWithin levels scope := by
  induction levels generalizing scope with
  | zero => rfl
  | succ levels induction => simp only [Scoping.chainWithin, scope?_resolve, induction]

theorem chain_resolve (scope : ScopeId) :
    (resolve model).chain scope = (scoping model).chain scope := by
  have kept := congrArg Scoping.scopes (@kept_resolve model)
  rw [Scoping.chain, chainWithin_resolve]
  exact congrArg (fun scopes : List Scope => (scoping model).chainWithin scopes.length scope) kept

theorem lookup?_resolve (scope : ScopeId) (name : String) :
    (resolve model).lookup? scope name = (scoping model).lookup? scope name := by
  simp only [Scoping.lookup?, Scoping.find?, get?_resolve, chain_resolve]

end Resolved

/-! ## Looking up names -/

section Names

variable {scoping : Scoping}

theorem exists_scope_of_get? {scope : ScopeId} {name : String} {id : SymbolId}
    (found : scoping.get? scope name = some id) :
    ∃ record, scoping.scope? scope = some record := by
  rcases Option.bind_eq_some_iff.mp found with ⟨record, isRecord, _⟩
  exact ⟨record, isRecord⟩

theorem lookup?_eq_findSome? (scope : ScopeId) (name : String) :
    scoping.lookup? scope name =
      (scoping.chain scope).findSome? fun id => scoping.get? id name := by
  rw [Scoping.lookup?, Scoping.find?, List.map_findSome?]
  congr 1
  funext id
  rw [Function.comp_apply, Option.map_map]
  cases scoping.get? id name <;> rfl

/-- Looking a name up from a node goes through the scopes from the one around the node. -/
theorem map_fst_lookupFrom? {node : NodeId} {scope : ScopeId}
    (isScope : scoping.scopeOf? node = some scope)
    (name : String) :
    (lookupFrom? scoping node name).map Prod.fst = scoping.lookup? scope name := by
  rw [lookupFrom?, isScope, Scoping.lookup?, Option.bind_eq_bind, Option.bind_some]
  cases found : scoping.find? scope name with
  | none => rfl
  | some entry =>
      rcases entry with ⟨id, inScope⟩
      rcases List.exists_of_findSome?_eq_some found with ⟨around, _, made⟩
      rcases Option.map_eq_some_iff.mp made with ⟨symbol, isSymbol, isEntry⟩
      cases isEntry
      rcases exists_scope_of_get? isSymbol with ⟨record, isRecord⟩
      simp [isRecord]

end Names

/-! ## What nodes denote -/

theorem referenced?_eq_bind (table : Table) (node : NodeId) :
    table.referenced? node = (table.resolution? node).bind Resolution.symbol? := by
  rw [Table.referenced?]
  cases table.resolution? node with
  | none => rfl
  | some resolution => cases resolution <;> rfl

theorem referenced?_eq_some_iff {table : Table} {node : NodeId} {id : SymbolId} :
    table.referenced? node = some id ↔
      table.resolution? node = some (.inScope id) ∨
        table.resolution? node = some (.ownField (some id)) := by
  rw [Table.referenced?]
  cases table.resolution? node with
  | none => simp
  | some resolution => cases resolution <;> simp

section Nodes

variable {model : Model} (wellFormed : model.IsWellFormed)

include wellFormed

/-- What a node denotes stands in the table if the node lies below the root. -/
theorem resolution?_eq_some_iff {id : NodeId} {resolution : Resolution} :
    (resolve model).resolution? id = some resolution ↔
      ∃ node ∈ model.descendants model.root,
        node.id = id ∧ resolution? model (scoping model) node = some resolution := by
  have keeps (node : Node) (entry : NodeId × Resolution)
      (made :
        (resolution? model (scoping model) node).map (fun denoted => (node.id, denoted)) =
          some entry) :
      entry.1 = node.id := by
    rcases Option.map_eq_some_iff.mp made with ⟨_, _, rfl⟩
    rfl
  rw [Table.resolution?, resolutions_resolve,
    Lookup.get?_reverse_eq_some_iff (nodup_keys_filterMap keeps wellFormed.nodup_descendants),
    List.mem_filterMap]
  simp only [Option.map_eq_some_iff, Prod.mk.injEq]
  apply exists_congr
  intro node
  apply and_congr_right
  intro _
  constructor
  · rintro ⟨_, denoted, isNode, rfl⟩
    exact ⟨isNode, denoted⟩
  · rintro ⟨isNode, denoted⟩
    exact ⟨resolution, denoted, isNode, rfl⟩

/-- The table holds for every node below the root what the node denotes. -/
theorem resolution?_resolve {node : Node}
    (member : node ∈ model.descendants model.root) :
    (resolve model).resolution? node.id = resolution? model (scoping model) node := by
  apply Option.ext
  intro resolution
  rw [resolution?_eq_some_iff wellFormed]
  constructor
  · rintro ⟨other, otherMember, isOther, denoted⟩
    rwa [← wellFormed.eq_of_mem_descendants otherMember member isOther]
  · intro denoted
    exact ⟨node, member, rfl, denoted⟩

/-- A node refers to a symbol if it lies below the root and denotes something of the symbol. -/
theorem referenced?_resolve_eq_some_iff {id : NodeId} {symbol : SymbolId} :
    (resolve model).referenced? id = some symbol ↔
      ∃ node ∈ model.descendants model.root,
        node.id = id ∧
          (resolution? model (scoping model) node).bind Resolution.symbol? = some symbol := by
  rw [referenced?_eq_bind, Option.bind_eq_some_iff]
  simp only [resolution?_eq_some_iff wellFormed, Option.bind_eq_some_iff]
  constructor
  · rintro ⟨resolution, ⟨node, member, isNode, denoted⟩, refers⟩
    exact ⟨node, member, isNode, resolution, denoted, refers⟩
  · rintro ⟨node, member, isNode, resolution, denoted, refers⟩
    exact ⟨resolution, ⟨node, member, isNode, denoted⟩, refers⟩

theorem mem_unresolved_iff {id : NodeId} :
    id ∈ (resolve model).unresolved ↔ (resolve model).resolution? id = some .unresolved := by
  rw [unresolved_resolve, List.mem_map, resolution?_eq_some_iff wellFormed]
  simp only [List.mem_filter, beq_iff_eq, and_assoc]
  apply exists_congr
  intro node
  apply and_congr_right
  intro _
  exact and_comm

end Nodes

end StructuralLint.Symbols
