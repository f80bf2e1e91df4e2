import StructuralLint.Decimal.Plain
import StructuralLint.Source.Path

/-!
# Settings as they are written

The content of a settings document before it is checked: values keep the type they were written
with, and keys are kept in order, so that the first fault found does not depend on how they were
listed.
-/

namespace StructuralLint

/-- A configured value. -/
inductive SettingValue where
  | integer (value : Int64)
  | float (value : Float)
  | boolean (value : Bool)
  | string (text : String)

namespace SettingValue

/-- The number of a numeric value. -/
def number? : SettingValue → Option Float
  | integer value => some value.toFloat
  | float value => some value
  | _ => none

/-- The name of the type of a value. -/
def typeName : SettingValue → String
  | integer _ => "integer"
  | float _ => "float"
  | boolean _ => "boolean"
  | string _ => "string"

/-- The value that holds a number: an integer where it is whole and fits. -/
def ofNumber (value : Float) : SettingValue :=
  if Decimal.isWhole value && value.abs < 9223372036854775808 then .integer value.toInt64
  else .float value

end SettingValue

/-- Values by key, in the order of the keys. -/
abbrev Sorted (α : Type) := List (String × α)

namespace Sorted

/-- The value of a key. -/
def get? {α : Type} (entries : Sorted α) (key : String) : Option α :=
  (entries.find? (·.1 == key)).map (·.2)

/-- Sets the value of a key. -/
def insert {α : Type} (key : String) (value : α) : Sorted α → Sorted α
  | [] => [(key, value)]
  | (other, present) :: rest =>
      match Text.order key other with
      | .lt => (key, value) :: (other, present) :: rest
      | .eq => (key, value) :: rest
      | .gt => (other, present) :: insert key value rest

/-- The entries of a list in the order of their keys; of equal keys the last counts. -/
def ofList {α : Type} (entries : List (String × α)) : Sorted α :=
  entries.foldl (fun sorted (key, value) => sorted.insert key value) []

end Sorted

/-- What a document says about one rule. -/
structure RuleSection where
  enabled : Option Bool := none
  thresholds : Sorted SettingValue := []

/-- What a document says. -/
structure Settings where
  workers : Option SettingValue := none
  minDuplicateStatements : Option SettingValue := none
  duplicationSimilarityThreshold : Option SettingValue := none
  perFileTimeoutMs : Option SettingValue := none
  /-- Sections by the spelling of the rule that the document uses. -/
  rules : Sorted RuleSection := []

namespace Settings

/-- Turns a rule on or off. -/
def withEnabled (settings : Settings) (rule : String) (enabled : Bool) : Settings :=
  let present := (settings.rules.get? rule).getD {}
  { settings with rules := settings.rules.insert rule { present with enabled := some enabled } }

/-- Sets a threshold of a rule. -/
def withThreshold (settings : Settings) (rule key : String) (value : Float) : Settings :=
  let present := (settings.rules.get? rule).getD {}
  let changed :=
    { present with thresholds := present.thresholds.insert key (SettingValue.ofNumber value) }
  { settings with rules := settings.rules.insert rule changed }

/-- Why settings cannot be used. -/
inductive Fault where
  /-- The document cannot be read from its file. -/
  | unavailable (path : SourcePath) (reason : String)
  /-- The document is no TOML, or its keys and values have other shapes than settings. -/
  | malformed
  | unknownRule (rule : String)
  | unknownThreshold (rule key : String)
  | invalidThreshold (rule key reason : String)
  | invalidGlobal (key reason : String)
  | conflict (key reason : String)
deriving DecidableEq, Repr

namespace Fault

/-- A fault in words. -/
def message : Fault → String
  | unavailable path reason => "failed to read config " ++ path.text ++ ": " ++ reason
  | malformed => "invalid config document: not a settings document"
  | unknownRule rule => "unknown rule id `" ++ rule ++ "`"
  | unknownThreshold rule key =>
      "rule `" ++ rule ++ "` has no threshold named `" ++ key ++ "`"
  | invalidThreshold rule key reason =>
      "threshold `" ++ rule ++ "." ++ key ++ "` is invalid: " ++ reason
  | invalidGlobal key reason => "global setting `" ++ key ++ "` is invalid: " ++ reason
  | conflict key reason => "conflicting settings at `" ++ key ++ "`: " ++ reason

/-- The key that is at fault, if there is one. -/
def key? : Fault → Option String
  | unavailable _ _ => none
  | malformed => none
  | unknownRule rule => some ("rules." ++ rule)
  | unknownThreshold rule key => some ("rules." ++ rule ++ ".thresholds." ++ key)
  | invalidThreshold rule key _ => some ("rules." ++ rule ++ ".thresholds." ++ key)
  | invalidGlobal key _ => some key
  | conflict key _ => some key

end Fault

end Settings

end StructuralLint
