import StructuralLint.Rule.Basic

/-!
# Reaching through objects

Chains of member accesses that go through one object to reach another. Only the last access of a
chain is reported.
-/

namespace StructuralLint.Rule

/-- The least number of members of a chain that is reported. -/
def minNavigationLength : Threshold := .count "minChainLength" 2

/-- The node at which a chain is reported: the call of its last member, or the member. -/
def chainAnchor (model : Model) (node : Node) : Node :=
  match model.parent? node.id with
  | some parent =>
      if parent.isExpression .call && parent.children.head? == some node.id then parent else node
  | none => node

/-- The larger of two numbers. -/
def larger (left right : Float) : Float :=
  if left < right then right else left

/-- Chains of members through other objects. -/
def transitiveNavigation : Rule where
  id := "TransitiveNavigation"
  description := "Detects accessor chains that navigate through collaborators"
  category := .structural
  kinds := [.expression]
  thresholds := [minNavigationLength]
  evaluate context node :=
    let found : Option Violation := do
      guard (node.isExpression .member)
      let access ← context.symbols.foreignAccessAt? node.id
      guard (access.isChainEnd && access.root.isSome)
      let least := context.threshold minNavigationLength
      let depth := Float.ofNat access.depth
      guard (!decide (depth < least))
      let root := access.rootName.getD "?"
      return context.violation "TransitiveNavigation" (Severity.scaled depth (larger least 1))
        (chainAnchor context.model node)
        (quoted access.member ++ " is reached through " ++ toString access.depth ++
          " links from " ++ quoted root ++ "; ask " ++ quoted root ++
          " for what you need instead")
    .ok found.toList

end StructuralLint.Rule
