import StructuralLint.Rule.Basic

/-!
# Arguments that do not carry input

Parameters that select what a function does, and parameters that a function writes its result to.
-/

namespace StructuralLint.Rule

/-- The largest number of variants of an enumeration that counts as a selector. -/
def maxEnumVariants : Threshold := .count "maxEnumVariants" 4

/-- Names of the type of truth values. -/
def booleanTypes : List String := ["bool", "boolean", "Bool", "Boolean"]

/-- Whether a node is an enumeration with few variants. -/
def isSmallEnum (context : Context) (node : Node) : Bool :=
  node.attributes.isEnum &&
    (context.model.children node.id).countP (·.isStatement .constDecl) ≤
      context.count maxEnumVariants

/--
Whether the declared type of a parameter has few values: truth values, or a small enumeration of
the same model.
-/
def isSelectorType (context : Context) (parameter : Node) : Bool :=
  match parameter.attributes.typeName with
  | none => false
  | some typeName =>
      booleanTypes.contains typeName ||
        context.symbols.symbols.any fun symbol =>
          symbol.kind == .class && symbol.name == typeName &&
            (context.model.node? symbol.declaration).any (isSmallEnum context)

/--
Whether an `if` chooses between behaviours: it has an alternative, or its first branch leaves
the function.
-/
def ifSelects (model : Model) (node : Node) : Bool :=
  3 ≤ node.children.length ||
    (model.child? node.id 1).any fun branch =>
      (model.children branch.id).any fun statement =>
        statement.statement == some .return || statement.statement == some .throw

/--
Whether a node is part of the condition of a statement that chooses between behaviours, for a
number of levels of expressions around it.
-/
def gatesBranchWithin (model : Model) : Nat → NodeId → Bool
  | 0, _ => false
  | levels + 1, id =>
      match model.parent? id with
      | none => false
      | some parent =>
          if parent.kind == .statement then
            model.childIndex? id == some 0 &&
              match parent.statement with
              | some .ifElse => ifSelects model parent
              | some .select => 2 ≤ (model.children parent.id).countP (·.isStatement .case)
              | _ => false
          else if parent.kind == .expression then gatesBranchWithin model levels parent.id
          else false

/-- Whether a node is part of the condition of a statement that chooses between behaviours. -/
def gatesBranch (model : Model) (node : Node) : Bool :=
  gatesBranchWithin model model.nodes.length node.id

/-- Parameters that select between behaviours. -/
def selectorArgument : Rule where
  id := "SelectorArgument"
  description := "Detects boolean or enum parameters that select between behaviors"
  category := .functions
  kinds := [.function]
  thresholds := [maxEnumVariants]
  evaluate context node :=
    .ok ((context.model.parameters node.id).filterMap fun parameter => do
      guard (isSelectorType context parameter)
      let symbol ← (context.symbols.declaredBy? parameter.id).bind context.symbols.symbol?
      guard (symbol.reads.any fun reference =>
        (context.model.node? reference.node).any (gatesBranch context.model))
      return context.violation "SelectorArgument" .medium parameter
        ("Parameter " ++ quoted parameter.nameText ++ " selects what " ++ quoted node.nameText ++
          " does; split it into one function per behavior"))

/-- Whether a symbol is written after its declaration, or a direct member of it is. -/
def isWrittenBy (context : Context) (symbol : Symbols.Symbol) (parameter : Node) : Bool :=
  (symbol.writes.any fun reference => reference.node != parameter.id) ||
    symbol.accessorCalls.any fun index =>
      context.symbols.foreignAccesses[index]?.any fun access => access.isWrite && access.depth == 1

/-- Parameters passed by reference that a function writes to. -/
def outputArgument : Rule where
  id := "OutputArgument"
  description := "Detects by-reference parameters used to return results"
  category := .functions
  kinds := [.function]
  evaluate context node :=
    .ok ((context.model.parameters node.id).filterMap fun parameter => do
      guard parameter.attributes.byReference
      let symbol ← (context.symbols.declaredBy? parameter.id).bind context.symbols.symbol?
      guard (isWrittenBy context symbol parameter)
      return context.violation "OutputArgument" .medium parameter
        (quoted node.nameText ++ " writes its argument " ++ quoted parameter.nameText ++
          "; return the result instead"))

end StructuralLint.Rule
