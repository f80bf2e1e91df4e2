import StructuralLint.Digest.Xxh3
import StructuralLint.Metric
import StructuralLint.Symbols.Scoping

/-!
# Fingerprints of code

Three views of a function or block: its tokens with names replaced by the order of their first
appearance and literals by their types; the skeleton of its control statements; and the set of pairs
of neighbouring tokens. Conditional statements are kept as the texts of their predicates.
-/

namespace StructuralLint.Duplication

/-! ## Tokens -/

/-- A token of a subtree in which names and values do not matter. -/
inductive Token where
  | statement (kind : StatementKind) (children : Nat)
  | expression (kind : ExprKind) (operator : String) (children : Nat)
  | literal (tag : String) (children : Nat)
  | other (kind : NodeKind) (children : Nat)
  /-- A name, by the number of different names before its first appearance. -/
  | name (index : Nat)
deriving DecidableEq, Repr

namespace Token

/-- A token as text. -/
def text : Token → String
  | statement kind children => "S:" ++ kind.text ++ "/" ++ toString children
  | expression kind operator children =>
      "E:" ++ kind.text ++ ":" ++ operator ++ "/" ++ toString children
  | literal tag children => tag ++ "/" ++ toString children
  | other kind children => kind.text ++ "/" ++ toString children
  | name index => "$" ++ toString index

/-- The token of a node by itself. -/
def ofNode (node : Node) : Token :=
  let children := node.children.length
  match node.kind with
  | .statement => statement (node.statement.getD .other) children
  | .expression => expression (node.expression.getD .other) (node.operator.getD "") children
  | .literal => literal ((node.literal.map Literal.tag).getD "$LIT") children
  | kind => other kind children

end Token

/-- The name of a node that counts below a root: neither that of the root nor that of a literal. -/
def countedName? (root : NodeId) (node : Node) : Option String := do
  guard (node.id != root && node.kind != .literal)
  let name ← node.name
  guard (name != "")
  return name

/-- The tokens of some nodes below a root; `names` are the different names before them, in order. -/
def tokensAfter (root : NodeId) (names : List String) : List Node → List Token
  | [] => []
  | node :: rest =>
      Token.ofNode node ::
        match countedName? root node with
        | none => tokensAfter root names rest
        | some name =>
            .name (names.idxOf name) ::
              tokensAfter root (if names.contains name then names else names ++ [name]) rest

/-- The tokens of the subtree of a node. -/
def tokens (model : Model) (root : NodeId) : List Token :=
  tokensAfter root [] (model.descendants root)

/-- The digest of some tokens. -/
def exactDigest (tokens : List Token) : UInt64 :=
  Digest.ofText (" ".intercalate (tokens.map Token.text))

/-! ## Pairs of tokens -/

/-- A list in increasing order, each number once. -/
def digestSet (digests : List UInt64) : List UInt64 :=
  firstOfRuns (· == ·) none (digests.mergeSort fun left right => left ≤ right)

/-- The digests of the pairs of neighbouring tokens. -/
def bigrams (tokens : List Token) : List UInt64 :=
  digestSet ((tokens.zip (tokens.drop 1)).map fun (left, right) =>
    Digest.ofText (left.text ++ ":" ++ right.text))

/-- The share of common members of two sets; two empty sets are equal. -/
def jaccard (left right : List UInt64) : Float :=
  if left.isEmpty && right.isEmpty then 1
  else
    let common := left.countP right.contains
    Float.ofNat common / Float.ofNat (left.length + right.length - common)

/-! ## Skeletons -/

/-- The least number of control statements of a skeleton that means anything. -/
def minSkeletonControls : Nat := 2

/-- Statements that count as control in a skeleton. -/
def isSkeletonControl (kind : StatementKind) : Bool :=
  kind.isControl || kind == .tryCatch

/--
Control statements and exits of the subtree of a node with their depth, for a number of levels.
-/
def skeletonWithin (model : Model) : Nat → Nat → NodeId → List (StatementKind × Nat)
  | 0, _, _ => []
  | levels + 1, depth, id =>
      match model.node? id with
      | none => []
      | some node =>
          let below (depth : Nat) := node.children.flatMap (skeletonWithin model levels depth)
          match if node.kind == .statement then node.statement else none with
          | some kind =>
              if isSkeletonControl kind then (kind, depth) :: below (depth + 1)
              else if kind.isExit then (kind, depth) :: below depth
              else below depth
          | none => below depth

/-- Control statements and exits of the subtree of a node with their depth, in pre-order. -/
def skeleton (model : Model) (root : NodeId) : List (StatementKind × Nat) :=
  skeletonWithin model model.nodes.length 0 root

/-- The digest of a skeleton, if it has enough control statements. -/
def shapeDigest? (skeleton : List (StatementKind × Nat)) : Option UInt64 :=
  if minSkeletonControls ≤ skeleton.countP (fun entry => isSkeletonControl entry.1) then
    some (Digest.ofText (" ".intercalate (skeleton.map fun (kind, depth) =>
      kind.text ++ "@" ++ toString depth)))
  else none

/-! ## Candidates -/

/-- What a candidate is. -/
inductive CandidateKind where
  | function
  | block
deriving DecidableEq, Repr

/-- A function or block that is large enough to be compared. -/
structure Candidate where
  kind : CandidateKind
  range : Range
  /-- The name of a function. -/
  name : Option String
  statements : Nat
  exact : UInt64
  shape : Option UInt64
  /-- A set, in increasing order. -/
  bigrams : List UInt64
deriving DecidableEq, Repr

/-- The kind of candidate that a node is: a function, or a block that is no body of one. -/
def candidateKind? (model : Model) (node : Node) : Option CandidateKind :=
  if node.kind == .function then some .function
  else if node.isStatement .block && !Symbols.isFunctionBody model node then some .block
  else none

/-- The candidate of a node with enough statements. -/
def candidate? (model : Model) (minStatements : Nat) (node : Node) : Option Candidate := do
  let kind ← candidateKind? model node
  let statements := (model.descendants node.id).countP Metric.isCountedStatement
  guard (minStatements ≤ statements)
  let tokens := tokens model node.id
  return {
    kind
    range := model.range node
    name := if kind == .function then some node.nameText else none
    statements
    exact := exactDigest tokens
    shape := shapeDigest? (skeleton model node.id)
    bigrams := bigrams tokens }

/-! ## Conditional chains -/

/-- A chain of alternatives or a selection, by its predicates. -/
structure Chain where
  range : Range
  /-- The function or module that the chain lies in. -/
  owner : Range
  branches : Nat
  key : UInt64
deriving DecidableEq, Repr

/-- The text of a predicate, with names and values. -/
def predicateText (model : Model) (root : NodeId) : String :=
  " ".intercalate ((model.descendants root).flatMap fun node =>
    node.kind.text :: node.operator.toList ++ node.name.toList ++
      (node.literal.map Literal.text).toList)

/-- The conditions of a chain of alternatives from a node on, for a number of links. -/
def conditions? (model : Model) : Nat → Node → Option (List String)
  | 0, _ => none
  | links + 1, node => do
    let condition ← model.child? node.id 0
    let text := predicateText model condition.id
    match model.child? node.id 2 with
    | some next =>
        if next.isStatement .ifElse then return text :: (← conditions? model links next)
        else return [text]
    | none => return [text]

/-- The labels of the cases of a selection, in order. -/
def caseLabels (model : Model) (node : Node) : List String :=
  ((model.children node.id).filter (·.isStatement .case)).map fun case =>
    "|".intercalate (((model.children case.id).filter fun child =>
      !child.isStatement .block).map fun label => predicateText model label.id)

/-- Whether a node continues the chain of the node above it. -/
def isAlternative (model : Model) (node : Node) : Bool :=
  (model.parent? node.id).any (·.isStatement .ifElse) && model.childIndex? node.id == some 2

/-- The predicates of the chain that starts at a node, and how many of them are no branches. -/
def predicates? (model : Model) (node : Node) : Option (List String × Nat) :=
  match if node.kind == .statement then node.statement else none with
  | some .ifElse => do
    guard (model.parent? node.id).isSome
    guard (!isAlternative model node)
    return ("if" :: (← conditions? model model.nodes.length node), 1)
  | some .select => do
    let scrutinee ← model.child? node.id 0
    return ("select" :: predicateText model scrutinee.id :: caseLabels model node, 2)
  | _ => none

/-- The text that identifies a chain. -/
def chainText (predicates : List String) : String :=
  (String.singleton (Char.ofNat 0x1F)).intercalate predicates

/-- The chain that starts at a node. -/
def chain? (model : Model) (node : Node) : Option Chain := do
  let (predicates, leading) ← predicates? model node
  let owner ← (model.ancestors node.id).find? fun ancestor =>
    ancestor.kind == .function || ancestor.kind == .module
  return {
    range := model.range node
    owner := model.range owner
    branches := predicates.length - leading
    key := Digest.ofText (chainText predicates) }

/-! ## Files -/

/-- What is known of a file when all files are compared. -/
structure Fingerprints where
  path : SourcePath
  candidates : List Candidate
  chains : List Chain
deriving Repr

/-- The fingerprints of a model. -/
def Fingerprints.ofModel (model : Model) (minStatements : Nat) : Fingerprints :=
  { path := model.path
    candidates := model.nodes.filterMap (candidate? model minStatements)
    chains := model.nodes.filterMap (chain? model) }

end StructuralLint.Duplication
