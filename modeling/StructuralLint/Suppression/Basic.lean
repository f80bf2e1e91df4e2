import StructuralLint.Finding
import StructuralLint.Model.Basic
import StructuralLint.Settings.Resolved
import StructuralLint.Suppression.Marker

/-!
# Suppressions

A comment with a marker silences rules inside the node that owns the comment, or at the comment
itself if nothing owns it. Names that denote no rule are reported.
-/

namespace StructuralLint

/-- The rules that a marker silences. -/
inductive SuppressedRules where
  | all
  | only (ids : List String)
deriving DecidableEq, Repr

/-- Whether a rule is silenced. -/
def SuppressedRules.includes : SuppressedRules → String → Bool
  | all, _ => true
  | only ids, id => ids.contains id

/-- A marker with the range that it covers. -/
structure Suppression where
  scope : Range
  rules : SuppressedRules
  /-- Where the marker itself is written. -/
  marker : Range
deriving DecidableEq, Repr

namespace Suppression

/-- Whether findings of a rule at a range are silenced. -/
def suppresses (suppression : Suppression) (ruleId : String) (range : Range) : Bool :=
  suppression.scope.covers range && suppression.rules.includes ruleId

/-- The range that a comment silences. -/
def scopeOf (model : Model) (comment : Node) : Range :=
  match model.commentOwner? comment.id with
  | some owner => model.range owner
  | none => model.range comment

/-- The finding on a name that denotes no rule. -/
def unknownName (model : Model) (comment : Node) (name : String) : Violation :=
  { ruleId := unknownSuppressionId
    severity := .low
    message := "Suppression references unknown rule `" ++ name ++ "`"
    range := model.range comment }

/-- The suppression of a comment that names rules, if one of the names denotes a rule. -/
def ofNames? (model : Model) (settings : ResolvedSettings) (comment : Node)
    (names : List String) : Option Suppression :=
  let scope := scopeOf model comment
  let marker := model.range comment
  if names.contains "*" then some { scope, rules := .all, marker }
  else
    let known := names.filterMap settings.canonicalId?
    if known.isEmpty then none else some { scope, rules := .only known, marker }

/-- The findings on names of a comment that denote no rule. -/
def unknownNames (model : Model) (settings : ResolvedSettings) (comment : Node)
    (names : List String) : List Violation :=
  if names.contains "*" then []
  else
    (names.filter fun name => (settings.canonicalId? name).isNone).map (unknownName model comment)

/-- The comments of a model that carry a marker, with the names in it. -/
def markers (model : Model) : List (Node × List String) :=
  (model.nodesOfKind .comment).filterMap fun comment =>
    (comment.text.bind Marker.parse?).map fun names => (comment, names)

/-- The suppressions of a model, and the findings on names that denote no rule. -/
def collect (model : Model) (settings : ResolvedSettings) : List Suppression × List Violation :=
  ((markers model).filterMap fun (comment, names) => ofNames? model settings comment names,
    (markers model).flatMap fun (comment, names) => unknownNames model settings comment names)

end Suppression

end StructuralLint
