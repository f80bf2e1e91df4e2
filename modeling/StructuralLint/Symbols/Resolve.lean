import StructuralLint.Order
import StructuralLint.Symbols.Table

/-!
# Resolving names

Once all declarations are known, a second pass goes through the nodes in pre-order and resolves
every identifier and member access, so that a name may be used before it is declared.  It looks
names up in the scopes of the first pass, writes down what each node denotes, and pushes references,
accesses and calls.  At the end each symbol has its references in source order.
-/

namespace StructuralLint.Symbols

/-- How the object of a member access was classified. -/
inductive Receiver where
  /-- The current object, with the symbol of the member where the class declares it. -/
  | own (symbol : Option SymbolId)
  /-- Another object, at the end of a chain of members. -/
  | foreign (root : Option SymbolId) (rootName : Option String) (depth : Nat)
      (receiver : Option NodeId)
deriving DecidableEq, Repr

/-- The symbol that a name denotes at a node, and the kind of the scope that declares it. -/
def lookupFrom? (scoping : Scoping) (node : NodeId) (name : String) :
    Option (SymbolId × ScopeKind) := do
  let scope ← scoping.scopeOf? node
  let (symbol, found) ← scoping.find? scope name
  return (symbol, (← scoping.scope? found).kind)

/-- The member of a name in the class around a node. -/
def classMember? (scoping : Scoping) (node : NodeId) (name : String) : Option SymbolId := do
  let scope ← scoping.scopeOf? node
  let owner ← (scoping.chain scope).find? fun id =>
    (scoping.scope? id).any (·.kind == .class)
  scoping.get? owner name

/--
The member access that an object expression goes through: a member itself, or the member that a
call calls.
-/
def innerMember? (model : Model) (object : Node) : Option Node :=
  if object.expression == some .member then some object
  else if object.expression == some .call then
    (model.child? object.id 0).filter (·.isExpression .member)
  else none

/-- Classifies a member access by walking down its chain of objects, for a number of levels. -/
def classifyWithin (model : Model) (scoping : Scoping) : Nat → NodeId → Receiver
  | 0, _ => .foreign none none 1 none
  | levels + 1, member =>
      match model.child? member 0 with
      | none => .foreign none none 1 none
      | some object =>
          if object.kind == .identifier then
            let name := object.nameText
            if isSelfName name then
              let field := ((model.node? member).map (·.nameText)).getD ""
              .own (classMember? scoping member field)
            else
              .foreign ((lookupFrom? scoping object.id name).map (·.1)) (some name) 1 none
          else
            match innerMember? model object with
            | none => .foreign none none 1 none
            | some inner =>
                match classifyWithin model scoping levels inner.id with
                | .own symbol => .foreign symbol (some inner.nameText) 1 none
                | .foreign root rootName depth _ =>
                    .foreign root rootName (depth + 1) (some inner.id)

/-- Classifies a member access. -/
def classify (model : Model) (scoping : Scoping) (member : NodeId) : Receiver :=
  classifyWithin model scoping model.nodes.length member

/-- Whether a node is what a call calls. -/
def isCallee (model : Model) (node : NodeId) : Bool :=
  (model.parent? node).any (·.isExpression .call) && model.childIndex? node == some 0

/-- Whether a node is assigned to, for a number of levels of indexing. -/
def isWriteTargetWithin (model : Model) : Nat → NodeId → Bool
  | 0, _ => false
  | levels + 1, node =>
      match model.parent? node with
      | none => false
      | some parent =>
          let isFirst := model.childIndex? node == some 0
          if parent.isStatement .assign then isFirst
          else if parent.isExpression .unary then
            parent.operator == some "++" || parent.operator == some "--"
          else if parent.isExpression .index && isFirst then
            isWriteTargetWithin model levels parent.id
          else false

/-- Whether a node is assigned to, perhaps through indexing, or counted up or down. -/
def isWriteTarget (model : Model) (node : NodeId) : Bool :=
  isWriteTargetWithin model model.nodes.length node

/-- Whether a symbol that is found in a scope of a kind is a member of the current object. -/
def isOwnMember (foundIn : ScopeKind) (function : Option NodeId) (kind : SymbolKind) : Bool :=
  foundIn == .class && function.isSome &&
    [SymbolKind.variable, .constant, .function].contains kind

/-- The function that a symbol declares. -/
def functionOf? (scoping : Scoping) (symbol : SymbolId) : Option NodeId :=
  match scoping.symbol? symbol with
  | some declared => if declared.kind == .function then some declared.declaration else none
  | none => none

/-- The method of a name in the class that is the declared type of a symbol. -/
def methodOfType? (scoping : Scoping) (symbol : SymbolId) (name : String) : Option NodeId := do
  let typeName ← (← scoping.symbol? symbol).declaredType
  let owner ← scoping.symbols.find? fun other => other.kind == .class && other.name == typeName
  let scope ← scoping.openedBy? owner.declaration
  functionOf? scoping (← scoping.get? scope name)

/-- What a called node denotes; only identifiers and member accesses denote something. -/
def callee? (model : Model) (scoping : Scoping) (callee : Node) : Option Callee :=
  let name := callee.nameText
  if callee.kind == .identifier then
    let function := (lookupFrom? scoping callee.id name).bind fun found =>
      functionOf? scoping found.1
    some ((function.map Callee.resolved).getD (.named name))
  else if callee.isExpression .member then
    let function :=
      match classify model scoping callee.id with
      | .own (some symbol) => functionOf? scoping symbol
      | .foreign (some root) _ 1 _ => methodOfType? scoping root name
      | _ => none
    some ((function.map Callee.resolved).getD (.named name))
  else none

namespace Table

/-- Adds to a symbol the reference at a node, which reads or writes the symbol. -/
def refer (model : Model) (table : Table) (symbol : SymbolId) (node : NodeId) : Table :=
  let access : Access := if isWriteTarget model node then .write else .read
  { table with toScoping := table.toScoping.refer symbol { node, access } }

/-- Writes down what a node denotes. -/
def resolveAs (table : Table) (node : NodeId) (resolution : Resolution) : Table :=
  { table with resolutions := table.resolutions.record node resolution }

/-- Adds the use of an own member at a node. -/
def addField (model : Model) (scoping : Scoping) (table : Table) (node : Node)
    (symbol : Option SymbolId) : Table :=
  let access : FieldAccess :=
    { node := node.id
      function := scoping.enclosingFunction? node.id
      field := node.nameText
      symbol
      isCall := isCallee model node.id
      isWrite := isWriteTarget model node.id }
  { table with fieldAccesses := table.fieldAccesses ++ [access] }

/-- Adds an access through another object, also to the symbol at which its chain starts. -/
def addForeign (table : Table) (access : ForeignAccess) : Table :=
  let position := table.foreignAccesses.length
  { table with
    symbols :=
      match access.root with
      | some root => table.symbols.modify root (·.startAccess position)
      | none => table.symbols
    foreignAccesses := table.foreignAccesses ++ [access]
    foreignByNode := table.foreignByNode.record access.node position }

/-- Resolves an identifier; one without a name denotes nothing. -/
def bindIdentifier (model : Model) (scoping : Scoping) (table : Table) (node : Node) : Table :=
  let name := node.nameText
  if name == "" then table
  else if isSelfName name then table.resolveAs node.id .current
  else
    match lookupFrom? scoping node.id name with
    | none =>
        { table.resolveAs node.id .unresolved with unresolved := table.unresolved ++ [node.id] }
    | some (symbol, foundIn) =>
        let referred := table.refer model symbol node.id
        let isOwn := (scoping.symbol? symbol).any fun declared =>
          isOwnMember foundIn (scoping.enclosingFunction? node.id) declared.kind
        if isOwn then
          (referred.resolveAs node.id (.ownField (some symbol))).addField model scoping node
            (some symbol)
        else referred.resolveAs node.id (.inScope symbol)

/-- Resolves a member access.  Whether its chain goes on is not known yet. -/
def bindMember (model : Model) (scoping : Scoping) (table : Table) (node : Node) : Table :=
  match classify model scoping node.id with
  | .own symbol =>
      let referred :=
        match symbol with
        | some symbol => table.refer model symbol node.id
        | none => table
      (referred.resolveAs node.id (.ownField symbol)).addField model scoping node symbol
  | .foreign root rootName depth receiver =>
      let access : ForeignAccess :=
        { node := node.id
          function := scoping.enclosingFunction? node.id
          root
          rootName
          member := node.nameText
          isCall := isCallee model node.id
          isWrite := isWriteTarget model node.id
          depth
          receiver
          isChainEnd := true }
      (table.addForeign access).resolveAs node.id (.foreign depth)

/-- Adds the call at a node, unless what it calls denotes nothing. -/
def bindCall (model : Model) (scoping : Scoping) (table : Table) (node : Node) : Table :=
  match (model.child? node.id 0).bind (callee? model scoping) with
  | some callee =>
      let call : Call := { node := node.id, caller := scoping.enclosingFunction? node.id, callee }
      { table with calls := table.calls ++ [call] }
  | none => table

/-- Resolves a node. -/
def bindNode (model : Model) (scoping : Scoping) (table : Table) (node : Node) : Table :=
  match node.kind with
  | .identifier => table.bindIdentifier model scoping node
  | .expression =>
      match node.expression with
      | some .member => table.bindMember model scoping node
      | some .call => table.bindCall model scoping node
      | _ => table
  | _ => table

end Table

/-- The start of a node. -/
def startOf (model : Model) (node : NodeId) : Position :=
  match model.node? node with
  | some node => node.span.start
  | none => { line := 0, column := 0 }

/-- References in source order, without repeated neighbours. -/
def inSourceOrder (model : Model) (references : List Reference) : List Reference :=
  firstOfRuns (· == ·) none (references.mergeSort fun left right =>
    (startOf model left.node).isUpTo (startOf model right.node))

/-- Sorts the references of all symbols, and finds out which accesses end their chains. -/
def Table.finish (model : Model) (table : Table) : Table :=
  let receivers := table.foreignAccesses.filterMap (·.receiver)
  { table with
    symbols := table.symbols.map fun symbol =>
      { symbol with references := inSourceOrder model symbol.references }
    foreignAccesses := table.foreignAccesses.map fun access =>
      { access with isChainEnd := !receivers.contains access.node } }

/-- The resolved names of a model. -/
def resolve (model : Model) : Table :=
  let scoping := scoping model
  let bound := (model.descendants model.root).foldl (Table.bindNode model scoping)
    { toScoping := scoping }
  bound.finish model

end StructuralLint.Symbols
