import StructuralLint.Model.Ingest

/-!
# Building models

A builder creates nodes in source order, numbers them in creation order and lays them out on lines
of its own: declarations, parameters, statements and comments each start a line, expressions follow
each other on the current line, and every ancestor grows to cover what is added below it. A comment
waits for the next declaration, parameter or statement, which becomes its owner.
-/

namespace StructuralLint.Model

/-- A model that is being built. -/
structure Builder where
  path : SourcePath
  nodes : List Node := []
  /-- The parent of each node, as a position in the list of nodes. -/
  parents : List (Option Nat) := []
  root : Option NodeId := none
  line : UInt32 := 1
  column : UInt32 := 1
  pendingComments : List NodeId := []

namespace Builder

/-- Why a node cannot be created. -/
inductive Fault where
  /-- The named parent has not been created. -/
  | missingParent (parent : NodeId)
  /-- The node is named as its own parent: the walk over its ancestors has no end. -/
  | ownParent (parent : NodeId)
deriving DecidableEq, Repr

/-- The node with an id. -/
def node? (builder : Builder) (id : NodeId) : Option Node :=
  builder.nodes[id.index.toNat]?

/-- Changes the node with an id, if there is one. -/
def modify (builder : Builder) (id : NodeId) (change : Node → Node) : Builder :=
  { builder with nodes := builder.nodes.modify id.index.toNat change }

/-- Lets a node reach at least up to a position. -/
def extendTo (stop : Position) (node : Node) : Node :=
  if node.span.stop.isBefore stop then
    { node with span := { node.span with endLine := stop.line, endCol := stop.column } }
  else node

/-- Lets a node and its ancestors reach at least up to a position, for a number of levels. -/
def growWithin (parents : List (Option Nat)) (stop : Position) :
    Nat → Nat → List Node → List Node
  | 0, _, nodes => nodes
  | levels + 1, index, nodes =>
      let grown := nodes.modify index (extendTo stop)
      match parents[index]?.join with
      | some parent => growWithin parents stop levels parent grown
      | none => grown

/-- Adds a node below a parent, or below nothing. -/
def allocate (builder : Builder) (kind : NodeKind) (span : Span) (parent : Option NodeId) :
    Except Fault (NodeId × Builder) :=
  let position := builder.nodes.length
  let id : NodeId := { index := position.toUInt32 }
  let added := builder.nodes ++ [({ id, kind, span } : Node)]
  match parent with
  | none =>
      .ok (id, { builder with nodes := added, parents := builder.parents ++ [none] })
  | some parent =>
      let index := parent.index.toNat
      if position < index then .error (.missingParent parent)
      else if index == position then .error (.ownParent parent)
      else
        let linked := added.modify index fun node => { node with children := node.children ++ [id] }
        let parents := builder.parents ++ [some index]
        let nodes := growWithin parents span.stop position index linked
        .ok (id, { builder with nodes, parents })

/-- Adds a node on a line of its own; it owns the comments that wait. -/
def lineNode (builder : Builder) (parent : NodeId) (kind : NodeKind) (name : Option String) :
    Except Fault (NodeId × Builder) := do
  let line := builder.line + 1
  let span : Span := { startLine := line, startCol := 1, endLine := line, endCol := 1 }
  let (id, added) ← { builder with line, column := 1 }.allocate kind span (some parent)
  let named := added.modify id fun node =>
    { node with name, comments := builder.pendingComments }
  return (id, { named with pendingComments := [] })

/-- Adds a node of a width on the current line. -/
def inlineNode (builder : Builder) (parent : NodeId) (kind : NodeKind) (name : Option String)
    (width : UInt32) : Except Fault (NodeId × Builder) := do
  let first := builder.column + 1
  let last := first + (if width == 0 then 1 else width) - 1
  let span : Span :=
    { startLine := builder.line, startCol := first, endLine := builder.line, endCol := last }
  let (id, added) ← { builder with column := last }.allocate kind span (some parent)
  return (id, added.modify id fun node => { node with name })

/-- Adds the root; it is created first. -/
def addModule (builder : Builder) (name : String) : Except Fault (NodeId × Builder) := do
  let span : Span := { startLine := 1, startCol := 1, endLine := 1, endCol := 1 }
  let (id, added) ← builder.allocate .module span none
  let named := added.modify id fun node => { node with name := some name }
  return (id, { named with root := some id })

/-- Adds a parameter with an optional type. -/
def addParameter (builder : Builder) (function : NodeId) (name : String)
    (typeName : Option String) : Except Fault (NodeId × Builder) := do
  let (id, added) ← builder.lineNode function .parameter (some name)
  return (id, added.modify id fun node =>
    { node with attributes := { node.attributes with typeName } })

/-- Adds a statement. -/
def addStatement (builder : Builder) (parent : NodeId) (kind : StatementKind) :
    Except Fault (NodeId × Builder) := do
  let (id, added) ← builder.lineNode parent .statement none
  return (id, added.modify id fun node => { node with statement := some kind })

/-- Adds a declaration of a variable or constant. -/
def addBinding (builder : Builder) (parent : NodeId) (kind : StatementKind) (name : String) :
    Except Fault (NodeId × Builder) := do
  let (id, added) ← builder.addStatement parent kind
  return (id, added.modify id fun node => { node with name := some name })

/-- Adds a comment, which waits for its owner. -/
def addComment (builder : Builder) (text : String) : Except Fault (NodeId × Builder) := do
  let line := builder.line + 1
  let width := text.length.toUInt32
  let span : Span :=
    { startLine := line, startCol := 1, endLine := line,
      endCol := if width == 0 then 1 else width }
  let (id, added) ← { builder with line, column := 1 }.allocate .comment span none
  let written := added.modify id fun node => { node with text := some text }
  return (id, { written with pendingComments := written.pendingComments ++ [id] })

/-- Adds an expression. -/
def addExpr (builder : Builder) (parent : NodeId) (kind : ExprKind) :
    Except Fault (NodeId × Builder) := do
  let (id, added) ← builder.inlineNode parent .expression none 1
  return (id, added.modify id fun node => { node with expression := some kind })

/-- Adds an identifier, as wide as its name in bytes. -/
def addIdentifier (builder : Builder) (parent : NodeId) (name : String) :
    Except Fault (NodeId × Builder) :=
  builder.inlineNode parent .identifier (some name) name.utf8ByteSize.toUInt32

/-- Adds a member access; its object is added below it afterwards. -/
def addMember (builder : Builder) (parent : NodeId) (name : String) :
    Except Fault (NodeId × Builder) := do
  let (id, added) ←
    builder.inlineNode parent .expression (some name) name.utf8ByteSize.toUInt32
  return (id, added.modify id fun node => { node with expression := some .member })

/-- Adds an expression with an operator. -/
def addOperator (builder : Builder) (parent : NodeId) (kind : ExprKind) (operator : String) :
    Except Fault (NodeId × Builder) := do
  let (id, added) ← builder.addExpr parent kind
  return (id, added.modify id fun node => { node with operator := some operator })

/-- Adds a call of a name; its arguments are added below it afterwards. -/
def addCall (builder : Builder) (parent : NodeId) (name : String) :
    Except Fault (NodeId × Builder) := do
  let (call, added) ← builder.addExpr parent .call
  let (_, named) ← added.addIdentifier call name
  return (call, named)

/--
Adds a call of a member whose object is added below the member afterwards; the ids are those of
the call and of the member.
-/
def addChainedCall (builder : Builder) (parent : NodeId) (method : String) :
    Except Fault ((NodeId × NodeId) × Builder) := do
  let (call, added) ← builder.addExpr parent .call
  let (member, named) ← added.addMember call method
  return ((call, member), named)

/-- Adds a call of a member of a named object. -/
def addMethodCall (builder : Builder) (parent : NodeId) (object method : String) :
    Except Fault (NodeId × Builder) := do
  let ((call, member), added) ← builder.addChainedCall parent method
  let (_, named) ← added.addIdentifier member object
  return (call, named)

/-- Adds a literal, as wide as its text. -/
def addLiteral (builder : Builder) (parent : NodeId) (value : Literal) :
    Except Fault (NodeId × Builder) := do
  let (id, added) ← builder.inlineNode parent .literal none value.text.length.toUInt32
  return (id, added.modify id fun node => { node with literal := some value })

/-- A request to create a node. -/
inductive Call where
  | module (name : String)
  | declaration (kind : NodeKind) (parent : NodeId) (name : String)
  | parameter (function : NodeId) (name : String) (typeName : Option String)
  | statement (parent : NodeId) (kind : StatementKind)
  | binding (parent : NodeId) (kind : StatementKind) (name : String)
  | comment (text : String)
  | expr (parent : NodeId) (kind : ExprKind)
  | identifier (parent : NodeId) (name : String)
  | member (parent : NodeId) (name : String)
  | operator (parent : NodeId) (kind : ExprKind) (operator : String)
  | call (parent : NodeId) (name : String)
  | methodCall (parent : NodeId) (object method : String)
  | chainedCall (parent : NodeId) (method : String)
  | literal (parent : NodeId) (value : Literal)

/-- Answers a request: the new node, or the member of a chained call, and the builder after it. -/
def run (builder : Builder) : Call → Except Fault (NodeId × Builder)
  | .module name => builder.addModule name
  | .declaration kind parent name => builder.lineNode parent kind (some name)
  | .parameter function name typeName => builder.addParameter function name typeName
  | .statement parent kind => builder.addStatement parent kind
  | .binding parent kind name => builder.addBinding parent kind name
  | .comment text => builder.addComment text
  | .expr parent kind => builder.addExpr parent kind
  | .identifier parent name => builder.addIdentifier parent name
  | .member parent name => builder.addMember parent name
  | .operator parent kind operator => builder.addOperator parent kind operator
  | .call parent name => builder.addCall parent name
  | .methodCall parent object method => builder.addMethodCall parent object method
  | .chainedCall parent method => do
    let ((_, member), added) ← builder.addChainedCall parent method
    return (member, added)
  | .literal parent value => builder.addLiteral parent value

/-- What a builder is asked for: to create nodes, or to change one of its nodes in any way. -/
inductive Action where
  | create (call : Call)
  | edit (id : NodeId) (change : Node → Node)

/-- Takes an action. -/
def act (builder : Builder) : Action → Except Fault Builder
  | .create call => return (← builder.run call).2
  | .edit id change => return builder.modify id change

/-- Takes actions one after another. -/
def actAll (builder : Builder) (actions : List Action) : Except Fault Builder :=
  actions.foldlM act builder

/-- The model that has been built, with as many lines as the builder laid out. -/
def build (builder : Builder) : Except Defect Model :=
  match builder.root with
  | none => .error .empty
  | some root => ingest builder.path root builder.nodes (some builder.line)

end Builder

end StructuralLint.Model
