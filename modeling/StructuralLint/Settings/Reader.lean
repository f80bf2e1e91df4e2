import StructuralLint.Settings.Basic
import StructuralLint.Toml.Reader

/-!
# Reading settings

Settings are written in TOML: four global keys and a table of rules, each with a flag and a table of
thresholds. Other keys are refused, so that a misspelt key never goes unnoticed.
-/

namespace StructuralLint.Settings.Reader

/-- A configured value; lists, tables and dates are none. -/
def value? : Toml.Value → Option SettingValue
  | .integer value => some (.integer value)
  | .float value => some (.float value)
  | .boolean value => some (.boolean value)
  | .string text => some (.string text)
  | _ => none

/-- Reads a key that may be absent. -/
def optional? {α : Type} (read? : Toml.Value → Option α) :
    Option Toml.Value → Option (Option α)
  | none => some none
  | some value => (read? value).map some

/-- The key under which a date stands as text where a table is expected. -/
def dateTimeKey : String := "$__toml_private_datetime"

/-- Reads every value of a table; a date counts as a table that holds its text. -/
def map? {α : Type} (read? : Toml.Value → Option α) : Toml.Value → Option (Sorted α)
  | .table _ entries => do
    let read ← entries.mapM fun (key, value) => return (key, ← read? value)
    return Sorted.ofList read
  | .dateTime text => do
    return Sorted.ofList [(dateTimeKey, ← read? (.string text))]
  | _ => none

/-- A truth value. -/
def flag? : Toml.Value → Option Bool
  | .boolean value => some value
  | _ => none

/-- The section of a rule from its two parts. -/
def ofParts? (enabled thresholds : Option Toml.Value) : Option RuleSection := do
  return {
    enabled := ← optional? flag? enabled
    thresholds := (← optional? (map? value?) thresholds).getD [] }

/-- Whether a table holds no other keys than these. -/
def hasOnly (keys : List String) (entries : Toml.Entries) : Bool :=
  entries.all fun entry => keys.contains entry.1

/-- The section of a rule: a table, or a list that starts with the flag and the thresholds. -/
def rule? : Toml.Value → Option RuleSection
  | .table _ entries =>
      if hasOnly ["enabled", "thresholds"] entries then
        ofParts? (Toml.Entries.get? entries "enabled") (Toml.Entries.get? entries "thresholds")
      else none
  | .array items => ofParts? items[0]? items[1]?
  | _ => none

/-- The settings of a root table. -/
def settings? (root : Toml.Entries) : Option Settings :=
  if hasOnly ["workers", "minDuplicateStatements", "duplicationSimilarityThreshold",
      "perFileTimeoutMs", "rules"] root then do
    return {
      workers := ← optional? value? (root.get? "workers")
      minDuplicateStatements := ← optional? value? (root.get? "minDuplicateStatements")
      duplicationSimilarityThreshold :=
        ← optional? value? (root.get? "duplicationSimilarityThreshold")
      perFileTimeoutMs := ← optional? value? (root.get? "perFileTimeoutMs")
      rules := (← optional? (map? rule?) (root.get? "rules")).getD [] }
  else none

end StructuralLint.Settings.Reader

namespace StructuralLint.Settings

/-- The settings of a document. -/
def read (text : String) : Except Fault Settings :=
  match (Toml.read? text).bind Reader.settings? with
  | some settings => .ok settings
  | none => .error .malformed

end StructuralLint.Settings
