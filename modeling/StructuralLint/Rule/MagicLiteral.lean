import StructuralLint.Rule.Basic

/-!
# Literals without a name

Numbers, and strings that decide something, that no name explains. A literal is explained by a
constant, by a variable in capitals, by a short expression that initializes a variable or a
parameter, or by an enumeration around it.
-/

namespace StructuralLint.Rule

/-- The largest number of nodes of an expression that a variable explains. -/
def maxExplanatoryExprNodes : Threshold := .count "maxExplanatoryExprNodes" 3

namespace MagicLiteral

/-- Whole numbers that need no name. -/
def plainInts : List Int64 := [-1, 0, 1, 2, 10, 100, 1000]

/-- Other numbers that need no name. -/
def plainFloats : List Float := [0, 0.5, 1, 2, 100]

/-- Operators that compare for equality. -/
def equalityOperators : List String := ["==", "!=", "===", "!==", "is", "is not"]

/-- Whether a name is written in capitals. -/
def isUpperCase (name : String) : Bool :=
  name.toList.any Char.isAlpha &&
    name.toList.all fun character => character.isUpper || character.isDigit || character == '_'

/-- Whether a string literal decides something: it labels a case or is compared for equality. -/
def isKey (model : Model) (node : Node) : Bool :=
  (model.parent? node.id).any fun parent =>
    parent.isStatement .case || parent.operator.any equalityOperators.contains

/-- Whether a literal needs a name at all. -/
def needsName (model : Model) (node : Node) : Bool :=
  match node.literal with
  | some (.int value) => !plainInts.contains value
  | some (.float value) => !plainFloats.any (· == value)
  | some (.str text) => 1 < text.length && isKey model node
  | _ => false

/--
Whether the nodes around a literal explain it, innermost first; `direct` says that only
expressions lie between.
-/
def isExplained (model : Model) (maxNodes : Nat) (direct : Bool) : List Node → Bool
  | [] => false
  | ancestor :: rest =>
      let short := direct && (model.descendants ancestor.id).length - 1 ≤ maxNodes
      match ancestor.kind with
      | .statement =>
          match ancestor.statement with
          | some .constDecl => true
          | some .varDecl =>
              isUpperCase ancestor.nameText || short || isExplained model maxNodes false rest
          | _ => isExplained model maxNodes false rest
      | .parameter => short || isExplained model maxNodes false rest
      | .class => ancestor.attributes.isEnum || isExplained model maxNodes false rest
      | .expression => isExplained model maxNodes direct rest
      | _ => isExplained model maxNodes false rest

end MagicLiteral

/-- Literals that no name explains. -/
def magicLiteral : Rule where
  id := "MagicLiteral"
  description := "Detects unexplained numeric and string literals"
  category := .structural
  severity := .low
  kinds := [.literal]
  thresholds := [maxExplanatoryExprNodes]
  evaluate context node :=
    .ok (match node.literal with
      | none => []
      | some value =>
          if !MagicLiteral.needsName context.model node ||
              MagicLiteral.isExplained context.model (context.count maxExplanatoryExprNodes) true
                (context.model.ancestors node.id) then []
          else
            [context.violation "MagicLiteral" .low node
              ("Magic " ++ (if value.isNumeric then "number" else "string") ++ " " ++ value.text ++
                "; give it a name that explains it")])

end StructuralLint.Rule
