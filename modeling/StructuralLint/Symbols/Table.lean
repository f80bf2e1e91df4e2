import StructuralLint.Symbols.Scoping

/-!
# The symbol table

What every identifier and member access denotes: a name in scope, a member of the current object, or
a member reached through another object. Accesses, calls and references are listed in pre-order of
the model.
-/

namespace StructuralLint.Symbols

/-- Names that denote the current object. -/
def selfNames : List String := ["self", "this", "Self", "me"]

/-- Whether a name denotes the current object. -/
def isSelfName (name : String) : Bool :=
  selfNames.contains name

/-- What an identifier or a member access denotes. -/
inductive Resolution where
  /-- A symbol in scope. -/
  | inScope (symbol : SymbolId)
  /-- A member of the current object, with its symbol where the class declares it. -/
  | ownField (symbol : Option SymbolId)
  /-- A member reached through another object, with the number of steps. -/
  | foreign (depth : Nat)
  /-- The current object itself. -/
  | current
  | unresolved
deriving DecidableEq, Repr

/-- A use of a member of the current object. -/
structure FieldAccess where
  node : NodeId
  function : Option NodeId
  field : String
  symbol : Option SymbolId
  isCall : Bool
  isWrite : Bool
deriving DecidableEq, Repr

/-- A use of a member of another object. -/
structure ForeignAccess where
  node : NodeId
  function : Option NodeId
  /-- The symbol at which the chain of members starts. -/
  root : Option SymbolId
  /-- The name at which the chain of members starts. -/
  rootName : Option String
  member : String
  isCall : Bool
  isWrite : Bool
  /-- The number of members from the start, one for the first. -/
  depth : Nat
  /-- The member access that this one goes through. -/
  receiver : Option NodeId
  /-- No access goes through this one. -/
  isChainEnd : Bool
deriving DecidableEq, Repr

/-- What a call calls. -/
inductive Callee where
  /-- A function of the same model. -/
  | resolved (function : NodeId)
  | named (name : String)
deriving DecidableEq, Repr

/-- A call, the function around it and what it calls. -/
structure Call where
  node : NodeId
  caller : Option NodeId
  callee : Callee
deriving DecidableEq, Repr

/-- The resolved names of a model. -/
structure Table extends Scoping where
  /-- What a node denotes. -/
  resolutions : Lookup NodeId Resolution := []
  fieldAccesses : List FieldAccess := []
  foreignAccesses : List ForeignAccess := []
  /-- The position of the access through another object at a node. -/
  foreignByNode : Lookup NodeId Nat := []
  calls : List Call := []
  /-- Identifiers that no scope declares. -/
  unresolved : List NodeId := []
deriving Repr

namespace Table

/-- What a node denotes. -/
def resolution? (table : Table) (node : NodeId) : Option Resolution :=
  table.resolutions.get? node

/-- The symbol that a node refers to. -/
def referenced? (table : Table) (node : NodeId) : Option SymbolId :=
  match table.resolution? node with
  | some (.inScope symbol) => some symbol
  | some (.ownField symbol) => symbol
  | _ => none

/-- The access through another object at a node. -/
def foreignAccessAt? (table : Table) (node : NodeId) : Option ForeignAccess :=
  (table.foreignByNode.get? node).bind fun index => table.foreignAccesses[index]?

/-- The uses of own members directly in a function. -/
def fieldAccessesIn (table : Table) (function : NodeId) : List FieldAccess :=
  table.fieldAccesses.filter (·.function == some function)

/-- The uses of members of other objects directly in a function. -/
def foreignAccessesIn (table : Table) (function : NodeId) : List ForeignAccess :=
  table.foreignAccesses.filter (·.function == some function)

/-- The calls directly in a function. -/
def callsFrom (table : Table) (function : NodeId) : List Call :=
  table.calls.filter (·.caller == some function)

/-- The calls of a function. -/
def callersOf (table : Table) (function : NodeId) : List Call :=
  table.calls.filter (·.callee == .resolved function)

end Table

end StructuralLint.Symbols
