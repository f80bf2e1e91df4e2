import StructuralLint.Duplication.Catalog
import StructuralLint.Rule.Basic

/-!
# The registry of rules

Rules in the order of their first registration, with an index from kinds of nodes to the positions
of the rules that look at them. A rule that is registered under a known id takes the place of the
earlier one. The evaluator asks the index at every node and runs the rules that are on.
-/

namespace StructuralLint

/-- Registered rules, and the positions of the rules for each kind of node. -/
structure Registry where
  rules : List Rule := []
  index : List (NodeKind × List Nat) := []

namespace Registry

/-- The positions that an index lists for a kind. -/
def positions (index : List (NodeKind × List Nat)) (kind : NodeKind) : List Nat :=
  ((index.find? (·.1 == kind)).map (·.2)).getD []

/-- Lists a position for a kind, unless it is listed. -/
def addPosition (position : Nat) (index : List (NodeKind × List Nat)) (kind : NodeKind) :
    List (NodeKind × List Nat) :=
  let present := positions index kind
  if present.contains position then index
  else (kind, present ++ [position]) :: index.filter (·.1 != kind)

/-- The index of some rules. -/
def indexOf (rules : List Rule) : List (NodeKind × List Nat) :=
  rules.zipIdx.foldl
    (fun index (rule, position) => rule.kinds.foldl (addPosition position) index) []

/-- Puts a rule at the place of the rule with its id, or at the end. -/
def place (rule : Rule) : List Rule → List Rule
  | [] => [rule]
  | present :: rest => if present.id == rule.id then rule :: rest else present :: place rule rest

/-- Registers a rule. -/
def register (registry : Registry) (rule : Rule) : Registry :=
  let rules := place rule registry.rules
  { rules, index := indexOf rules }

/-- Registers rules one after another. -/
def registerAll (registry : Registry) (rules : List Rule) : Registry :=
  rules.foldl register registry

/-- The positions of the rules that look at a kind of node. -/
def rulesFor (registry : Registry) (kind : NodeKind) : List Nat :=
  positions registry.index kind

/--
Descriptions of all rules that can be configured: those registered, and the rules on duplication
whose ids are not taken.
-/
def catalog (registry : Registry) : List RuleInfo :=
  let registered := registry.rules.map Rule.info
  registered ++ Duplication.catalog.filter fun info =>
    !registered.any (·.id == info.id)

/-- What is the same for all rules on one file. -/
structure File where
  model : Model
  symbols : Symbols.Table
  metrics : Metrics
  looksLikeCode : String → Bool

/-- The context of a rule that is on. -/
def context? (settings : ResolvedSettings) (file : File) (rule : Rule) : Option Rule.Context :=
  match settings.rule? rule.id with
  | some own =>
      if own.enabled then
        some
          { model := file.model
            symbols := file.symbols
            metrics := file.metrics
            settings := own
            looksLikeCode := file.looksLikeCode }
      else none
  | none => none

/-- What the rule at a position contributes at a node. -/
def outcomeAt (registry : Registry) (contexts : List (Option Rule.Context)) (node : Node)
    (position : Nat) : Except Breakdown (List Violation) :=
  match registry.rules[position]?, contexts[position]?.join with
  | some rule, some context => rule.outcome context node
  | _, _ => .ok []

/-- The violations in a file: node by node, and at each node in the order of the rules. -/
def evaluate (registry : Registry) (settings : ResolvedSettings) (file : File) :
    Except Breakdown (List Violation) :=
  let contexts := registry.rules.map (context? settings file)
  gather
    (fun node => gather (registry.outcomeAt contexts node) (registry.rulesFor node.kind))
    file.model.nodes

end Registry

end StructuralLint
