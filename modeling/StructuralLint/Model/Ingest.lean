import StructuralLint.Model.Basic

/-!
# Ingestion

A list of nodes becomes a model when it is a tree: ids are distinct, the root is a module, children
exist, have one parent and lie in order inside it, comments have one owner, and every node but a
comment hangs from the root. The model keeps the parents and owners that were found on the way.
Otherwise ingestion names the first defect it meets.
-/

namespace StructuralLint.Model

/-- Why a list of nodes is no model. -/
inductive Defect where
  | empty
  | missingRoot (root : NodeId)
  | rootNotModule (root : NodeId)
  | rootHasParent (root : NodeId)
  | duplicateId (id : NodeId)
  | danglingReference (parent missing : NodeId)
  | multipleParents (node first second : NodeId)
  | orphan (id : NodeId)
  | invertedSpan (id : NodeId)
  | outOfBounds (node : NodeId) (line lineCount : UInt32)
  | childOutsideParent (parent child : NodeId)
  | siblingOrder (first second : NodeId)
  | notAComment (owner comment : NodeId)
  | commentAttachedTwice (comment first second : NodeId)
deriving DecidableEq, Repr

/-- A defect in words. -/
def Defect.message : Defect → String
  | empty => "model contains no nodes"
  | missingRoot root => "root node " ++ root.text ++ " is missing"
  | rootNotModule root => "root node " ++ root.text ++ " is not a Module"
  | rootHasParent root => "root node " ++ root.text ++ " is listed as a child"
  | duplicateId id => "duplicate node id " ++ id.text
  | danglingReference parent missing =>
      "node " ++ parent.text ++ " references missing node " ++ missing.text
  | multipleParents node first second =>
      "node " ++ node.text ++ " is a child of both " ++ first.text ++ " and " ++ second.text
  | orphan id => "node " ++ id.text ++ " is not reachable from the root"
  | invertedSpan id => "node " ++ id.text ++ " has a span that ends before it starts"
  | outOfBounds node line lineCount =>
      "node " ++ node.text ++ " ends on line " ++ toString line.toNat ++
        ", past the end of the file (" ++ toString lineCount.toNat ++ " lines)"
  | childOutsideParent parent child =>
      "node " ++ child.text ++ " lies outside its parent " ++ parent.text
  | siblingOrder first second =>
      "siblings " ++ first.text ++ " and " ++ second.text ++ " overlap or are out of source order"
  | notAComment owner comment =>
      "node " ++ owner.text ++ " attaches " ++ comment.text ++ ", which is not a Comment"
  | commentAttachedTwice comment first second =>
      "comment " ++ comment.text ++ " is attached to both " ++ first.text ++ " and " ++ second.text

namespace Ingest

/-- Nodes by the ids that they list. -/
abbrev Links := Lookup NodeId NodeId

/-- The links found while nodes are checked. -/
structure State where
  parents : Links := []
  owners : Links := []

/-- The first id that occurs a second time; `seen` holds the ids before. -/
def firstRepeated? (seen : List NodeId) : List Node → Option NodeId
  | [] => none
  | node :: rest =>
      if seen.contains node.id then some node.id else firstRepeated? (node.id :: seen) rest

/-- Checks the next child of a node: `previous` is the child before it. -/
def checkChild (model : Model) (node : Node) (found : Links × Option Node) (id : NodeId) :
    Except Defect (Links × Option Node) := do
  let (parents, previous) := found
  match model.node? id with
  | none => throw (.danglingReference node.id id)
  | some child =>
      if id == model.root then throw (.rootHasParent model.root)
      match parents.get? id with
      | some first => throw (.multipleParents id first node.id)
      | none =>
          if !node.span.contains child.span then throw (.childOutsideParent node.id id)
          match previous with
          | some earlier =>
              if child.span.start.isBefore earlier.span.stop then
                throw (.siblingOrder earlier.id child.id)
          | none => pure ()
          return (parents.record id node.id, some child)

/-- Checks the next comment of a node. -/
def checkComment (model : Model) (node : Node) (owners : Links) (id : NodeId) :
    Except Defect Links := do
  match model.node? id with
  | none => throw (.danglingReference node.id id)
  | some comment =>
      if comment.kind != .comment then throw (.notAComment node.id id)
      match owners.get? id with
      | some first => throw (.commentAttachedTwice id first node.id)
      | none => return owners.record id node.id

/-- Checks a node: its span, its children in order, its comments in order. -/
def checkNode (model : Model) (state : State) (node : Node) : Except Defect State := do
  if !node.span.isOrdered then throw (.invertedSpan node.id)
  match model.lineCount with
  | some limit =>
      if limit < node.span.endLine then throw (.outOfBounds node.id node.span.endLine limit)
  | none => pure ()
  let (parents, _) ← node.children.foldlM (checkChild model node) (state.parents, none)
  let owners ← node.comments.foldlM (checkComment model node) state.owners
  return { parents, owners }

/-- The first node but a comment that does not hang from the root. -/
def firstOrphan? (model : Model) : Option Node :=
  let reached := (model.descendants model.root).map (·.id)
  model.nodes.find? fun node => node.kind != .comment && !reached.contains node.id

end Ingest

/-- The model of a list of nodes, or its first defect. -/
def ingest (path : SourcePath) (root : NodeId) (nodes : List Node) (lineCount : Option UInt32) :
    Except Defect Model := do
  let model : Model := { path, root, lineCount, nodes }
  if nodes.isEmpty then throw .empty
  match Ingest.firstRepeated? [] nodes with
  | some id => throw (.duplicateId id)
  | none =>
      match model.node? root with
      | none => throw (.missingRoot root)
      | some rootNode =>
          if rootNode.kind != .module then throw (.rootNotModule root)
          let state ← nodes.foldlM (Ingest.checkNode model) {}
          match Ingest.firstOrphan? model with
          | some node => throw (.orphan node.id)
          | none => return { model with parents := state.parents, owners := state.owners }

end StructuralLint.Model
