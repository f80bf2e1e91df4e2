import StructuralLint.Lookup
import StructuralLint.Model.Node
import StructuralLint.Source.Range

/-!
# Structural models

A model holds the nodes of one file in a fixed order, with the id of the root. The walk down follows
the child lists, and the walk up follows the parents that were recorded when the model was checked.

A walk from a node that hangs from the root ends, and it has met everything after as many levels as
there are nodes. Comments need not hang from the root, and a walk from one may go in circles for
ever: `ancestors?` and `descendants?` are missing there.
-/

namespace StructuralLint

/-- The nodes of one file. -/
structure Model where
  path : SourcePath
  root : NodeId
  lineCount : Option UInt32
  nodes : List Node
  /-- The parent of each child. -/
  parents : Lookup NodeId NodeId := []
  /-- The owner of each comment that has one. -/
  owners : Lookup NodeId NodeId := []
deriving Repr

namespace Model

/-- The node with an id. -/
def node? (model : Model) (id : NodeId) : Option Node :=
  model.nodes.find? (·.id == id)

/-- The nodes of a kind, in order. -/
def nodesOfKind (model : Model) (kind : NodeKind) : List Node :=
  model.nodes.filter (·.kind == kind)

/-- The parent of a node. -/
def parent? (model : Model) (id : NodeId) : Option Node :=
  (model.parents.get? id).bind model.node?

/-- The node that owns a comment. -/
def commentOwner? (model : Model) (id : NodeId) : Option Node :=
  (model.owners.get? id).bind model.node?

/-- The children of a node, in order. -/
def children (model : Model) (id : NodeId) : List Node :=
  match model.node? id with
  | some node => node.children.filterMap model.node?
  | none => []

/-- The child of a node at a position. -/
def child? (model : Model) (id : NodeId) (index : Nat) : Option Node := do
  let node ← model.node? id
  let child ← node.children[index]?
  model.node? child

/-- The comments that a node owns, in order. -/
def comments (model : Model) (id : NodeId) : List Node :=
  match model.node? id with
  | some node => node.comments.filterMap model.node?
  | none => []

/-- The ancestors of a node up to a number of levels, nearest first. -/
def ancestorsWithin (model : Model) : Nat → NodeId → List Node
  | 0, _ => []
  | levels + 1, id =>
      match model.parent? id with
      | some parent => parent :: model.ancestorsWithin levels parent.id
      | none => []

/-- The ancestors of a node from its parent up to the root. -/
def ancestors (model : Model) (id : NodeId) : List Node :=
  model.ancestorsWithin model.nodes.length id

/-- The subtree of a node down to a number of levels, in pre-order. -/
def descendantsWithin (model : Model) : Nat → NodeId → List Node
  | 0, _ => []
  | levels + 1, id =>
      match model.node? id with
      | some node => node :: node.children.flatMap (model.descendantsWithin levels)
      | none => []

/-- The subtree of a node in pre-order, the node itself first. -/
def descendants (model : Model) (id : NodeId) : List Node :=
  model.descendantsWithin model.nodes.length id

/-- The walk up from a node, if it ends within a number of levels. -/
def ancestorsWithin? (model : Model) : Nat → NodeId → Option (List Node)
  | 0, _ => none
  | levels + 1, id =>
      match model.parent? id with
      | some parent => (model.ancestorsWithin? levels parent.id).map (parent :: ·)
      | none => some []

/-- The ancestors of a node, if the walk up from it ends. -/
def ancestors? (model : Model) (id : NodeId) : Option (List Node) :=
  model.ancestorsWithin? (model.nodes.length + 1) id

/-- The walk down from a node, if it ends within a number of levels. -/
def descendantsWithin? (model : Model) : Nat → NodeId → Option (List Node)
  | 0, _ => none
  | levels + 1, id =>
      match model.node? id with
      | some node =>
          (node.children.mapM (model.descendantsWithin? levels)).map fun subtrees =>
            node :: subtrees.flatten
      | none => some []

/-- The subtree of a node, if the walk down from it ends. -/
def descendants? (model : Model) (id : NodeId) : Option (List Node) :=
  model.descendantsWithin? (model.nodes.length + 1) id

/-- The nearest ancestor of a kind. -/
def enclosing? (model : Model) (id : NodeId) (kind : NodeKind) : Option Node :=
  (model.ancestors id).find? (·.kind == kind)

/-- Whether a node is another or lies below it. -/
def isWithin (model : Model) (id ancestor : NodeId) : Bool :=
  id == ancestor || (model.ancestors id).any (·.id == ancestor)

/-- The body of a function: its last child, if that is a block. -/
def functionBody? (model : Model) (function : NodeId) : Option Node := do
  let node ← model.node? function
  let last ← node.children.getLast?
  (← model.node? last) |> Option.guard (fun body => body.isStatement .block)

/-- The parameters of a function, in order. -/
def parameters (model : Model) (function : NodeId) : List Node :=
  (model.children function).filter (·.kind == .parameter)

/--
The subtree of a node down to a number of levels, without nested functions, classes and lambdas.
-/
def ownCodeWithin (model : Model) : Nat → NodeId → List Node
  | 0, _ => []
  | levels + 1, id =>
      match model.node? id with
      | some node =>
          if node.isCodeBoundary then []
          else node :: node.children.flatMap (model.ownCodeWithin levels)
      | none => []

/--
The nodes that belong to a function itself, in pre-order: those below it that lie in no nested
function, class or lambda.
-/
def ownCode (model : Model) (function : NodeId) : List Node :=
  match model.node? function with
  | some node => node.children.flatMap (model.ownCodeWithin model.nodes.length)
  | none => []

/-- The position of a node among the children of its parent. -/
def childIndex? (model : Model) (id : NodeId) : Option Nat := do
  let parent ← model.parent? id
  parent.children.idxOf? id

/-- The range of a node in the file of the model. -/
def range (model : Model) (node : Node) : Range :=
  { file := model.path, span := node.span }

end Model

end StructuralLint
