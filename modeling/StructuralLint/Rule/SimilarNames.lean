import StructuralLint.Rule.Basic
import StructuralLint.Text.EditDistance

/-!
# Names that are hard to tell apart

Two functions or classes that are visible in one scope and whose names differ by a few edits. Pairs
with the same signature are left alone. A pair is reported once: at the later declaration of one
scope, or at the inner declaration of two.
-/

namespace StructuralLint.Rule

/-- The largest number of edits between similar names. -/
def maxEditDistance : Threshold := .count "maxEditDistance" 2

/-- The least number of characters of a name that is compared. -/
def minNameLength : Threshold := .count "minNameLength" 5

namespace SimilarNames

/-- What a caller has to know to use a declaration. -/
structure Signature where
  kind : Symbols.SymbolKind
  parameters : List (Option String)
  returns : Option String
deriving DecidableEq

/-- The signature of a symbol. -/
def signature (model : Model) (symbol : Symbols.Symbol) : Signature :=
  { kind := symbol.kind
    parameters :=
      if symbol.kind == .function then
        (model.parameters symbol.declaration).map (·.attributes.typeName)
      else []
    returns := symbol.declaredType }

/-- A declaration whose name is compared. -/
structure Candidate where
  symbol : Symbols.Symbol
  declaration : Node

/--
The candidate of a symbol: a function or class with a long enough name that overrides nothing.
-/
def candidate? (context : Context) (minLength : Nat) (symbol : Symbols.Symbol) :
    Option Candidate := do
  guard (symbol.kind == .function || symbol.kind == .class)
  guard (minLength ≤ symbol.name.length)
  let declaration ← context.model.node? symbol.declaration
  guard (!declaration.attributes.isOverride)
  return { symbol, declaration }

/-- The candidates that a scope declares, in order. -/
def candidates (context : Context) (minLength : Nat) (scope : Symbols.ScopeId) : List Candidate :=
  match context.symbols.scope? scope with
  | none => []
  | some scope =>
      scope.symbols.filterMap fun symbol =>
        (context.symbols.symbol? symbol).bind (candidate? context minLength)

/-- The violation at the second of two candidates, if their names are similar. -/
def compare? (context : Context) (maxDistance : Nat) (first second : Candidate) :
    Option Violation :=
  let distance :=
    Text.editDistance (Text.lower first.symbol.name) (Text.lower second.symbol.name)
  if distance == 0 || maxDistance < distance ||
      signature context.model first.symbol == signature context.model second.symbol then none
  else
    some { context.violation "SimilarNames" .low second.declaration
        (quoted second.symbol.name ++ " differs from " ++ quoted first.symbol.name ++ " by " ++
          toString distance ++ " character" ++ plural distance ++
          "; choose names that make the difference obvious") with
      related := [context.range first.declaration] }

/-- The similar pairs of one list, each with the later member second. -/
def amongThemselves (context : Context) (maxDistance : Nat) : List Candidate → List Violation
  | [] => []
  | first :: rest =>
      rest.filterMap (compare? context maxDistance first) ++
        amongThemselves context maxDistance rest

/-- The similar pairs of an outer and an inner declaration. -/
def acrossScopes (context : Context) (maxDistance : Nat) (outer inner : List Candidate) :
    List Violation :=
  outer.flatMap fun visible => inner.filterMap (compare? context maxDistance visible)

/-- The similar names that the scope of a node brings together. -/
def findings (context : Context) (node : Node) : List Violation :=
  match context.symbols.openedBy? node.id with
  | none => []
  | some scope =>
      let maxDistance := context.count maxEditDistance
      let minLength := context.count minNameLength
      let own := candidates context minLength scope
      let around := (context.symbols.chain scope).drop 1
      amongThemselves context maxDistance own ++
        around.flatMap fun outer =>
          acrossScopes context maxDistance (candidates context minLength outer) own

end SimilarNames

/-- Names of functions and classes that are hard to tell apart. -/
def similarNames : Rule where
  id := "SimilarNames"
  description := "Detects near-identical function and class names visible in one scope"
  category := .naming
  severity := .low
  kinds := [.module, .class, .function, .statement]
  thresholds := [maxEditDistance, minNameLength]
  evaluate context node := .ok (SimilarNames.findings context node)

end StructuralLint.Rule
