import StructuralLint.Lookup
import StructuralLint.Model.Basic

/-!
# Scopes and declarations

The root, classes, functions, lambdas, loops with a variable and blocks open scopes; the body of a
function shares the scope of the function.  A walk down from the root places every node in the
innermost scope around it and in the innermost function around it, and takes in declarations as it
meets them: the first declaration of a name in a scope introduces a symbol, and every later one
declares it again.
-/

namespace StructuralLint.Symbols

/-- Scopes are numbered in the order in which the walk opens them. -/
abbrev ScopeId := Nat

/-- Symbols are numbered in the order in which the walk declares them. -/
abbrev SymbolId := Nat

/-- What opens a scope. -/
inductive ScopeKind where
  | «module»
  | «class»
  | function
  | block
deriving DecidableEq, Repr

/-- The name of a kind of scope. -/
def ScopeKind.text : ScopeKind → String
  | «module» => "Module"
  | «class» => "Class"
  | function => "Function"
  | block => "Block"

/-- A region in which names are declared. -/
structure Scope where
  kind : ScopeKind
  /-- The node that opens the scope. -/
  node : NodeId
  parent : Option ScopeId
  /-- The symbols declared directly in the scope, in order. -/
  symbols : List SymbolId := []
  /-- The same symbols by their names. -/
  byName : Lookup String SymbolId := []
deriving Repr

/-- Lists a symbol in a scope under a name. -/
def Scope.list (scope : Scope) (name : String) (symbol : SymbolId) : Scope :=
  { scope with
    symbols := scope.symbols ++ [symbol]
    byName := scope.byName.record name symbol }

/-- What a symbol stands for. -/
inductive SymbolKind where
  | variable
  | parameter
  | function
  | «class»
  | constant
deriving DecidableEq, Repr

/-- The name of a kind of symbol. -/
def SymbolKind.text : SymbolKind → String
  | .variable => "Variable"
  | parameter => "Parameter"
  | function => "Function"
  | «class» => "Class"
  | constant => "Constant"

/-- How a reference uses its symbol. -/
inductive Access where
  | read
  | write
deriving DecidableEq, Repr

/-- A node that refers to a symbol. -/
structure Reference where
  node : NodeId
  access : Access
deriving DecidableEq, Repr

/-- A declared name. -/
structure Symbol where
  name : String
  kind : SymbolKind
  /-- The node that declares the symbol first. -/
  declaration : NodeId
  scope : ScopeId
  /-- The declared type, the return type of a function, or the name of a class. -/
  declaredType : Option String
  /-- References in source order. -/
  references : List Reference := []
  /-- Positions of the member accesses that start at the symbol. -/
  accessorCalls : List Nat := []
deriving Repr

namespace Symbol

/-- Adds a reference to a symbol. -/
def refer (symbol : Symbol) (reference : Reference) : Symbol :=
  { symbol with references := symbol.references ++ [reference] }

/-- Lists the position of a member access that starts at a symbol. -/
def startAccess (symbol : Symbol) (position : Nat) : Symbol :=
  { symbol with accessorCalls := symbol.accessorCalls ++ [position] }

/-- References that read the symbol. -/
def reads (symbol : Symbol) : List Reference :=
  symbol.references.filter (·.access == .read)

/-- References that write the symbol. -/
def writes (symbol : Symbol) : List Reference :=
  symbol.references.filter (·.access == .write)

end Symbol

/-- The scopes of a model, the symbols declared in them, and what is known of nodes. -/
structure Scoping where
  scopes : List Scope := []
  symbols : List Symbol := []
  /-- The scope around a node; the root lies in the scope that it opens. -/
  scopeOf : Lookup NodeId ScopeId := []
  /-- The innermost function around a node. -/
  functionOf : Lookup NodeId NodeId := []
  /-- The scope that a node opens. -/
  opened : Lookup NodeId ScopeId := []
  /-- The symbol that a node declares. -/
  declared : Lookup NodeId SymbolId := []
deriving Repr

namespace Scoping

/-! ### Looking up -/

/-- The scope with a number. -/
def scope? (scoping : Scoping) (id : ScopeId) : Option Scope :=
  scoping.scopes[id]?

/-- The symbol with a number. -/
def symbol? (scoping : Scoping) (id : SymbolId) : Option Symbol :=
  scoping.symbols[id]?

/-- The scope around a node. -/
def scopeOf? (scoping : Scoping) (node : NodeId) : Option ScopeId :=
  scoping.scopeOf.get? node

/-- The innermost function around a node. -/
def enclosingFunction? (scoping : Scoping) (node : NodeId) : Option NodeId :=
  scoping.functionOf.get? node

/-- The scope that a node opens. -/
def openedBy? (scoping : Scoping) (node : NodeId) : Option ScopeId :=
  scoping.opened.get? node

/-- The symbol that a node declares. -/
def declaredBy? (scoping : Scoping) (node : NodeId) : Option SymbolId :=
  scoping.declared.get? node

/-- The symbol of a name that is declared directly in a scope. -/
def get? (scoping : Scoping) (scope : ScopeId) (name : String) : Option SymbolId :=
  (scoping.scope? scope).bind (·.byName.get? name)

/-- A scope and the scopes around it, innermost first, for a number of levels. -/
def chainWithin (scoping : Scoping) : Nat → ScopeId → List ScopeId
  | 0, _ => []
  | levels + 1, id =>
      match scoping.scope? id with
      | none => []
      | some scope =>
          id ::
            match scope.parent with
            | some parent => scoping.chainWithin levels parent
            | none => []

/-- A scope and the scopes around it, innermost first. -/
def chain (scoping : Scoping) (scope : ScopeId) : List ScopeId :=
  scoping.chainWithin scoping.scopes.length scope

/-- The innermost scope of a chain that declares a name, and the symbol there. -/
def find? (scoping : Scoping) (scope : ScopeId) (name : String) : Option (SymbolId × ScopeId) :=
  (scoping.chain scope).findSome? fun id => (scoping.get? id name).map fun symbol => (symbol, id)

/-- The symbol that a name denotes in a scope. -/
def lookup? (scoping : Scoping) (scope : ScopeId) (name : String) : Option SymbolId :=
  (scoping.find? scope name).map (·.1)

/-! ### Taking in -/

/-- Opens a scope at a node. -/
def openScope (scoping : Scoping) (kind : ScopeKind) (node : NodeId) (parent : Option ScopeId) :
    Scoping :=
  { scoping with
    scopes := scoping.scopes ++ [{ kind, node, parent }]
    opened := scoping.opened.record node scoping.scopes.length }

/-- Places a node in a scope and a function. -/
def place (scoping : Scoping) (node : NodeId) (scope : ScopeId) (function : Option NodeId) :
    Scoping :=
  { scoping with
    scopeOf := scoping.scopeOf.record node scope
    functionOf :=
      match function with
      | some function => scoping.functionOf.record node function
      | none => scoping.functionOf }

/-- Adds a reference to the symbol with a number. -/
def refer (scoping : Scoping) (symbol : SymbolId) (reference : Reference) : Scoping :=
  { scoping with symbols := scoping.symbols.modify symbol (·.refer reference) }

end Scoping

/-! ## Declarations -/

/-- The kind of symbol that a node declares. -/
def symbolKind? (node : Node) : Option SymbolKind :=
  match node.kind with
  | .class => some .class
  | .function => some .function
  | .parameter => some .parameter
  | .statement =>
      match node.statement with
      | some .varDecl => some .variable
      | some .constDecl => some .constant
      | _ => none
  | _ => none

/-- The declared type of a symbol that a node introduces. -/
def declaredType? (kind : SymbolKind) (node : Node) : Option String :=
  match kind with
  | .class => node.name
  | .function => node.attributes.returnType
  | _ => node.attributes.typeName

/-- Introduces the symbol of a name that is new in a scope. -/
def Scoping.introduce (scoping : Scoping) (node : Node) (kind : SymbolKind) (name : String)
    (scope : ScopeId) : Scoping :=
  let symbol : Symbol :=
    { name, kind, declaration := node.id, scope, declaredType := declaredType? kind node }
  { scoping with
    symbols := scoping.symbols ++ [symbol]
    scopes := scoping.scopes.modify scope (·.list name scoping.symbols.length)
    declared := scoping.declared.record node.id scoping.symbols.length }

/-- Takes in a declaration of a name in a scope; one that is not the first writes the symbol. -/
def Scoping.declare (scoping : Scoping) (node : Node) (kind : SymbolKind) (name : String)
    (scope : ScopeId) : Scoping :=
  match scoping.get? scope name with
  | some existing =>
      { scoping.refer existing { node := node.id, access := .write } with
        declared := scoping.declared.record node.id existing }
  | none => scoping.introduce node kind name scope

/-- Takes in what a node in a scope declares, if it declares a name. -/
def Scoping.takeIn (scoping : Scoping) (node : Node) (scope : ScopeId) : Scoping :=
  match symbolKind? node, node.name with
  | some kind, some name => if name == "" then scoping else scoping.declare node kind name scope
  | _, _ => scoping

/-! ## The walk -/

/-- Whether a block is the body of a function. -/
def isFunctionBody (model : Model) (node : Node) : Bool :=
  (model.parent? node.id).any fun parent =>
    parent.kind == .function && parent.children.getLast? == some node.id

/-- The kind of scope that a node below the root opens. -/
def scopeKind? (model : Model) (node : Node) : Option ScopeKind :=
  match node.kind with
  | .class => some .class
  | .function => some .function
  | .statement =>
      match node.statement with
      | some .block => if isFunctionBody model node then none else some .block
      | some .forLoop => some .block
      | _ => none
  | .expression => if node.expression == some .lambda then some .function else none
  | _ => none

/--
Takes in a node that lies in a scope and in a function: places it, takes in what it declares and
opens its scope.
-/
def Scoping.visit (model : Model) (scoping : Scoping) (node : Node) (scope : ScopeId)
    (function : Option NodeId) : Scoping :=
  let declared := (scoping.place node.id scope function).takeIn node scope
  match scopeKind? model node with
  | some kind => declared.openScope kind node.id (some scope)
  | none => declared

/-- Takes in the subtree of a node, down to a number of levels. -/
def declareWithin (model : Model) :
    Nat → ScopeId → Option NodeId → Scoping → NodeId → Scoping
  | 0, _, _, scoping, _ => scoping
  | levels + 1, scope, function, scoping, id =>
      match model.node? id with
      | none => scoping
      | some node =>
          let innerScope := if (scopeKind? model node).isSome then scoping.scopes.length else scope
          let innerFunction := if node.kind == .function then some id else function
          node.children.foldl (declareWithin model levels innerScope innerFunction)
            (scoping.visit model node scope function)

/-- The scopes and declarations of a model. -/
def scoping (model : Model) : Scoping :=
  let start := (({} : Scoping).openScope .module model.root none).place model.root 0 none
  match model.node? model.root with
  | some root => root.children.foldl (declareWithin model model.nodes.length 0 none) start
  | none => start

end StructuralLint.Symbols
