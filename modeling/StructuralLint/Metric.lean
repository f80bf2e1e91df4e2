import StructuralLint.Symbols.Resolve

/-!
# Measures of functions and classes

Counts that rules compare with their thresholds. A function is measured by its own code only: nested
functions, lambdas and classes are measured on their own.
-/

namespace StructuralLint

/-- What is measured. -/
inductive Metric where
  | lineCount
  | paramCount
  | nestingDepth
  | cyclomaticBranches
  | statementCount
  | abstractionDistance
  | methodCount
  | fieldCount
deriving DecidableEq, Repr

namespace Metric

/-- The name of a measure. -/
def text : Metric → String
  | lineCount => "lineCount"
  | paramCount => "paramCount"
  | nestingDepth => "nestingDepth"
  | cyclomaticBranches => "cyclomaticBranches"
  | statementCount => "statementCount"
  | abstractionDistance => "abstractionDistance"
  | methodCount => "methodCount"
  | fieldCount => "fieldCount"

/-- Operators that evaluate their second operand on a condition. -/
def shortCircuitOperators : List String := ["&&", "||", "and", "or"]

/-- Whether a node adds a path through a function. -/
def isBranch (node : Node) : Bool :=
  node.isStatement .ifElse || node.isStatement .whileLoop || node.isStatement .forLoop ||
    node.isStatement .case ||
    (node.isExpression .binary && node.operator.any shortCircuitOperators.contains)

/-- Whether a node is a statement that does something itself. -/
def isCountedStatement (node : Node) : Bool :=
  node.kind == .statement && node.statement != some .block

/-- Whether the child at a position of a node continues its chain of alternatives. -/
def continuesChain (model : Model) (node : Node) (index : Nat) (child : NodeId) : Bool :=
  node.isStatement .ifElse && index == 2 && (model.node? child).any (·.isStatement .ifElse)

/--
The deepest control nesting at or below a node that lies at a depth, for a number of levels. A
node that continues a chain of alternatives stays at the depth of the chain.
-/
def nestingWithin (model : Model) : Nat → Nat → Bool → NodeId → Nat
  | 0, _, _, _ => 0
  | levels + 1, depth, chained, id =>
      match model.node? id with
      | none => 0
      | some node =>
          if node.isCodeBoundary then 0
          else
            let depth := if !chained && node.isControl then depth + 1 else depth
            (node.children.zipIdx.map fun (child, index) =>
              nestingWithin model levels depth (continuesChain model node index child) child).foldl
              max depth

/-- The deepest control nesting in the body of a function. -/
def nestingDepthOf (model : Model) (function : NodeId) : Nat :=
  match model.functionBody? function with
  | some body => nestingWithin model model.nodes.length 0 false body.id
  | none => 0

/--
The number of families of low-level operations that a function uses itself: literals, operators,
and calls of functions outside the model.
-/
def abstractionDistanceOf (model : Model) (table : Symbols.Table) (function : NodeId) : Nat :=
  let own := model.ownCode function
  let literals := own.any (·.kind == .literal)
  let operators := own.any fun node =>
    node.isExpression .binary || node.isExpression .unary || node.isExpression .index
  let primitives := (table.callsFrom function).any fun call =>
    match call.callee with
    | .named _ => true
    | .resolved _ => false
  [literals, operators, primitives].count true

/-- The measures of a function of some lines. -/
def ofLines (model : Model) (table : Symbols.Table) (function : Node) (lines : UInt32) :
    List (Metric × Nat) :=
  let own := model.ownCode function.id
  [(lineCount, lines.toNat),
    (paramCount, (model.parameters function.id).length),
    (nestingDepth, nestingDepthOf model function.id),
    (cyclomaticBranches, own.countP isBranch + 1),
    (statementCount, own.countP isCountedStatement),
    (abstractionDistance, abstractionDistanceOf model table function.id)]

/-- The measures of a function. -/
def ofFunction (model : Model) (table : Symbols.Table) (function : Node) :
    Except Breakdown (List (Metric × Nat)) :=
  return ofLines model table function (← function.span.lineCount)

/-- The measures of a class. -/
def ofClass (model : Model) (node : Node) : List (Metric × Nat) :=
  let members := model.children node.id
  [(methodCount, members.countP (·.kind == .function)),
    (fieldCount, members.countP fun member =>
      member.isStatement .varDecl || member.isStatement .constDecl)]

/-- The measures of a node; only functions and classes are measured. -/
def ofNode (model : Model) (table : Symbols.Table) (node : Node) :
    Except Breakdown (List (Metric × Nat)) :=
  match node.kind with
  | .function => ofFunction model table node
  | .class => .ok (ofClass model node)
  | _ => .ok []

end Metric

/-- The measures of a model, by node. -/
structure Metrics where
  entries : List (NodeId × List (Metric × Nat))
deriving Repr

namespace Metrics

/-- The entry of a node, if it has measures. -/
def entryOf (model : Model) (table : Symbols.Table) (node : Node) :
    Except Breakdown (List (NodeId × List (Metric × Nat))) := do
  let values ← Metric.ofNode model table node
  return if values.isEmpty then [] else [(node.id, values)]

/-- Measures a model. -/
def ofModel (model : Model) (table : Symbols.Table) : Except Breakdown Metrics := do
  let entries ← gather (entryOf model table) model.nodes
  return { entries }

/-- A measure of a node. -/
def get? (metrics : Metrics) (node : NodeId) (metric : Metric) : Option Nat := do
  let (_, values) ← metrics.entries.find? (·.1 == node)
  let (_, value) ← values.find? (·.1 == metric)
  return value

/-- A measure of a node, zero where there is none. -/
def count (metrics : Metrics) (node : NodeId) (metric : Metric) : Nat :=
  (metrics.get? node metric).getD 0

/-- The number of measures. -/
def size (metrics : Metrics) : Nat :=
  metrics.entries.foldl (fun total (_, values) => total + values.length) 0

end Metrics

end StructuralLint
