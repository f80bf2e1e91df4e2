import StructuralLint.Rule.Basic

/-!
# Variables declared too early

Local variables that are declared many statements above their first use. The distance is counted in
statements of the block that declares the variable.
-/

namespace StructuralLint.Rule

/-- The largest number of statements between a declaration and its first use. -/
def maxStatementDistance : Threshold := .count "maxStatementDistance" 5

namespace VerticalSeparation

/--
The child of a block that a node lies in: the last of the node and its ancestors below the
block.
-/
def childWithin? (block : NodeId) : NodeId → List Node → Option NodeId
  | _, [] => none
  | current, parent :: rest =>
      if parent.id == block then some current else childWithin? block parent.id rest

/-- The first use of a symbol that is no declaration. -/
def firstUse? (model : Model) (symbol : Symbols.Symbol) : Option Node :=
  (symbol.references.filterMap fun reference => model.node? reference.node).find? fun node =>
    !node.isDeclaration

/-- The number of statements from a declaration in a block to a use. -/
def distance? (model : Model) (block declaration use : Node) : Option Nat := do
  let declared ← model.childIndex? declaration.id
  let statement ← childWithin? block.id use.id (model.ancestors use.id)
  let used ← model.childIndex? statement
  return used - declared

end VerticalSeparation

/-- Local variables that are declared far from their first use. -/
def verticalSeparation : Rule where
  id := "VerticalSeparation"
  description := "Detects local variables declared far from their first use"
  category := .structural
  severity := .low
  kinds := [.statement]
  thresholds := [maxStatementDistance]
  evaluate context node :=
    let found : Option Violation := do
      guard (node.isStatement .varDecl)
      guard (context.symbols.enclosingFunction? node.id).isSome
      let block ← context.model.parent? node.id
      guard (block.isStatement .block)
      let symbol ← (context.symbols.declaredBy? node.id).bind context.symbols.symbol?
      guard (symbol.declaration == node.id)
      let use ← VerticalSeparation.firstUse? context.model symbol
      let distance ← VerticalSeparation.distance? context.model block node use
      guard (context.count maxStatementDistance < distance)
      return { context.violation "VerticalSeparation" .low node
          (quoted symbol.name ++ " is declared " ++ toString distance ++
            " statements before its first use; move the declaration down") with
        related := [context.range use] }
    .ok found.toList

end StructuralLint.Rule
