import StructuralLint.Metric
import StructuralLint.Rule.Info
import StructuralLint.Settings.Resolved

/-!
# Rules

A rule looks at nodes of certain kinds, in the context of the whole model, and reports violations.
It may also fail on a node, with a reason; a failure is a value, so that it cannot stop the other
rules.  Only a rule that never ends on a node keeps them waiting for ever.
-/

namespace StructuralLint

namespace Rule

/-- What a rule sees besides the node. -/
structure Context where
  model : Model
  symbols : Symbols.Table
  metrics : Metrics
  settings : RuleSettings
  /-- Whether a comment reads like code, as the adapter of the file judges. -/
  looksLikeCode : String → Bool

namespace Context

/-- The value of a threshold. -/
def threshold (context : Context) (threshold : Threshold) : Float :=
  (context.settings.threshold? threshold.name).getD threshold.default

/-- The value of a threshold as a count, at most what 64 bits hold. -/
def count (context : Context) (threshold : Threshold) : Nat :=
  (context.threshold threshold).toUInt64.toNat

/-- The range of a node. -/
def range (context : Context) (node : Node) : Range :=
  context.model.range node

/-- A violation at a node. -/
def violation (context : Context) (ruleId : String) (severity : Severity) (node : Node)
    (message : String) : Violation :=
  { ruleId, severity, message, range := context.range node, node := some node.id }

end Context

/-- Why a rule yields no violations at a node. -/
inductive Stop where
  | failed (reason : String)
  /-- The rule never ends there. -/
  | endless
deriving DecidableEq, Repr

end Rule

/-- A rule on nodes. -/
structure Rule where
  id : String
  description : String
  category : Category
  /-- The severity of violations that no threshold scales. -/
  severity : Severity := .medium
  /-- The kinds of nodes that the rule looks at. -/
  kinds : List NodeKind
  thresholds : List Threshold := []
  /-- The violations at a node, or why there are none. -/
  evaluate : Rule.Context → Node → Except Rule.Stop (List Violation)

namespace Rule

/-- The description of a rule. -/
def info (rule : Rule) : RuleInfo :=
  { id := rule.id
    category := rule.category
    description := rule.description
    thresholds := rule.thresholds }

/-- The finding that reports the failure of a rule. -/
def failure (rule : Rule) (context : Context) (node : Node) (reason : String) : Violation :=
  context.violation internalRuleErrorId .low node
    ("Rule " ++ rule.id ++ " failed on " ++ node.kind.text ++ " node " ++ node.id.text ++ ": " ++
      reason)

/-- What a rule contributes at a node: its violations, or one finding on its failure. -/
def outcome (rule : Rule) (context : Context) (node : Node) :
    Except Breakdown (List Violation) :=
  match rule.evaluate context node with
  | .ok violations => .ok violations
  | .error (.failed reason) => .ok [rule.failure context node reason]
  | .error .endless => .error .endless

/-- Names that denote constructors in any class. -/
def constructorNames : List String := ["__init__", "constructor", "new", "init", "initialize"]

/-- Whether a function constructs the objects of its class. -/
def isConstructor (model : Model) (function : Node) : Bool :=
  constructorNames.contains function.nameText ||
    (model.parent? function.id).any fun parent =>
      parent.kind == .class && parent.nameText == function.nameText

/-- A text between backticks, as names are written in messages. -/
def quoted (text : String) : String :=
  "`" ++ text ++ "`"

/-- The ending of a plural. -/
def plural (count : Nat) : String :=
  if count == 1 then "" else "s"

end Rule

end StructuralLint
