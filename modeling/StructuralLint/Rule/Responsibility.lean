import StructuralLint.Rule.Basic

/-!
# Functions with the wrong job

Functions that change state and answer a question at once, functions that mix their own helpers with
low-level work, and functions that use another object more than their own data.
-/

namespace StructuralLint.Rule

/-! ## Command and query -/

/-- Whether a function writes a field of its own object or of an argument. -/
def changesState (context : Context) (function : NodeId) : Bool :=
  ((context.symbols.fieldAccessesIn function).any fun access => access.isWrite && !access.isCall) ||
    (context.symbols.foreignAccessesIn function).any fun access =>
      access.isWrite && access.depth == 1 &&
        ((access.root.bind context.symbols.symbol?).any (·.kind == .parameter))

/-- Whether a node returns something other than a literal or the object itself. -/
def isAnswer (model : Model) (node : Node) : Bool :=
  node.isStatement .return &&
    (model.child? node.id 0).any fun value =>
      value.kind != .literal &&
        !(value.kind == .identifier && Symbols.isSelfName value.nameText)

/-- Functions that change state and return a value. -/
def queryAndMutate : Rule where
  id := "QueryAndMutate"
  description := "Detects functions that both change state and return a value"
  category := .functions
  kinds := [.function]
  evaluate context node :=
    .ok (
      if isConstructor context.model node || !changesState context node.id then []
      else
        match (context.model.ownCode node.id).find? (isAnswer context.model) with
        | none => []
        | some answer =>
            [{ context.violation "QueryAndMutate" .medium node
                (quoted node.nameText ++ " both changes state and returns a value; " ++
                  "separate the command from the query") with
                related := [context.range answer] }])

/-! ## Levels of abstraction -/

/-- The largest number of families of low-level operations beside calls of own helpers. -/
def maxAbstractionDistance : Threshold := .count "maxAbstractionDistance" 1

/-- Functions that call their own helpers and do low-level work too. -/
def mixedAbstraction : Rule where
  id := "MixedAbstraction"
  description := "Detects functions mixing high-level calls with low-level operations"
  category := .functions
  severity := .low
  kinds := [.function]
  thresholds := [maxAbstractionDistance]
  evaluate context node :=
    let helpers := (context.symbols.callsFrom node.id).countP fun call =>
      match call.callee with
      | .resolved target => target != node.id
      | .named _ => false
    let distance := context.metrics.count node.id .abstractionDistance
    .ok (
      if helpers == 0 || Float.ofNat distance ≤ context.threshold maxAbstractionDistance then []
      else
        [context.violation "MixedAbstraction" .low node
          (quoted node.nameText ++ " calls " ++ toString helpers ++
            " of its own helpers but also uses " ++ toString distance ++
            " kinds of low-level operations directly; keep one level of abstraction per function")])

/-! ## Feature envy -/

/-- How many times more a function uses another object than its own data before it is reported. -/
def envyRatio : Threshold := .real "ratio" 2 0 1.7976931348623157e308

/-- The least number of uses of another object that counts. -/
def minForeignAccesses : Threshold := .count "minForeignAccesses" 3

/-- Whether a symbol holds data. -/
def holdsData (symbol : Symbols.Symbol) : Bool :=
  [Symbols.SymbolKind.variable, .parameter, .constant].contains symbol.kind

/-- The data symbols whose members a function uses directly, one for each use. -/
def collaborators (context : Context) (function : NodeId) : List Symbols.SymbolId :=
  (context.symbols.foreignAccessesIn function).filterMap fun access => do
    guard (access.depth == 1)
    let root ← access.root
    guard ((context.symbols.symbol? root).any holdsData)
    return root

/-- The symbol with the most uses; of several the first declared. -/
def mostUsed? (uses : List Symbols.SymbolId) : Option Symbols.SymbolId :=
  uses.foldl
    (fun best candidate =>
      match best with
      | none => some candidate
      | some present =>
          let more := uses.count present < uses.count candidate
          let level := uses.count present == uses.count candidate && candidate < present
          if more || level then some candidate else best)
    none

/--
The number of uses of a function's own data: fields, and names of data that are no
collaborators.
-/
def ownUses (context : Context) (function : NodeId) (uses : List Symbols.SymbolId) : Nat :=
  let locals := (context.model.ownCode function).countP fun node =>
    node.kind == .identifier &&
      match context.symbols.resolution? node.id with
      | some (.inScope symbol) =>
          !uses.contains symbol && (context.symbols.symbol? symbol).any holdsData
      | _ => false
  (context.symbols.fieldAccessesIn function).length + locals

/-- Functions that use another object more than their own data. -/
def featureEnvy : Rule where
  id := "FeatureEnvy"
  description := "Detects functions more interested in another object's data than their own"
  category := .structural
  kinds := [.function]
  thresholds := [envyRatio, minForeignAccesses]
  evaluate context node :=
    let uses := collaborators context node.id
    let own := ownUses context node.id uses
    let found : Option Violation := do
      let envied ← mostUsed? uses
      let count := uses.count envied
      guard (context.count minForeignAccesses ≤ count)
      guard (!decide (Float.ofNat count ≤ context.threshold envyRatio * Float.ofNat own))
      let symbol ← context.symbols.symbol? envied
      let target := symbol.declaredType.getD symbol.name
      return { context.violation "FeatureEnvy" .medium node
          ("Function " ++ quoted node.nameText ++ " uses " ++ toString count ++ " accessors of " ++
            quoted symbol.name ++ " (" ++ target ++ ") but only " ++ toString own ++
            " of its own; consider moving it to " ++ target) with
        related := ((context.model.node? symbol.declaration).map context.range).toList }
    .ok found.toList

end StructuralLint.Rule
