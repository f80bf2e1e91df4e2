import StructuralLint.Rule.Info
import StructuralLint.Rule.Name
import StructuralLint.Settings.Basic

/-!
# Resolved settings

Settings are checked against the catalogue of rules: every key has to denote a rule, no rule may be
configured twice, and every value has to be acceptable. What comes out has a flag and all thresholds
for every rule of the catalogue, the defaults where nothing was configured.
-/

namespace StructuralLint

/-- What the machine has for the program. -/
structure Machine where
  /-- The number of threads that run at once, one where it is not known. -/
  threads : Nat := 1
  threads_pos : 0 < threads := by decide
  /-- Why a number of workers cannot be started, if so. -/
  poolFault? : Nat → Option String := fun _ => none

/-- The flag and the thresholds of one rule. -/
structure RuleSettings where
  enabled : Bool
  thresholds : Sorted Float

namespace RuleSettings

/-- The value of a threshold. -/
def threshold? (settings : RuleSettings) (name : String) : Option Float :=
  settings.thresholds.get? name

/-- The settings of a rule that nothing was configured for. -/
def ofInfo (info : RuleInfo) : RuleSettings :=
  { enabled := true
    thresholds := Sorted.ofList (info.thresholds.map fun threshold =>
      (threshold.name, threshold.default)) }

end RuleSettings

/-- Settings that were checked and completed. -/
structure ResolvedSettings where
  workers : Nat
  minDuplicateStatements : Nat
  duplicationSimilarityThreshold : Float
  perFileTimeoutMs : Nat
  /-- The settings of every rule of the catalogue, in the order of the ids. -/
  rules : Sorted RuleSettings

namespace ResolvedSettings

/-- The settings of a rule. -/
def rule? (settings : ResolvedSettings) (id : String) : Option RuleSettings :=
  settings.rules.get? id

/-- Whether a rule is on. -/
def isEnabled (settings : ResolvedSettings) (id : String) : Bool :=
  (settings.rule? id).any (·.enabled)

/-- The value of a threshold of a rule. -/
def threshold? (settings : ResolvedSettings) (id name : String) : Option Float :=
  (settings.rule? id).bind (·.threshold? name)

/-- The ids of all rules, in order. -/
def ruleIds (settings : ResolvedSettings) : List String :=
  settings.rules.map (·.1)

/-- The id of the rule that a spelling denotes. -/
def canonicalId? (settings : ResolvedSettings) (name : String) : Option String :=
  settings.ruleIds.find? fun id => RuleName.normalize id == RuleName.normalize name

end ResolvedSettings

namespace Settings

/-- The similarity from which code counts as similar, unless configured. -/
def defaultSimilarity : Float := 0.8

/-- The least number of statements of a duplicate, unless configured. -/
def defaultMinDuplicateStatements : Nat := 3

/-- The time limit of an adapter in milliseconds, unless configured. -/
def defaultPerFileTimeoutMs : Nat := 5000

/-- A whole number within bounds. -/
def globalCount (value : Option SettingValue) (key : String) (least : Int) (most : Option Int) :
    Except Fault (Option Nat) :=
  match value with
  | none => .ok none
  | some (.integer word) =>
      let number := word.toInt
      if number < least then
        .error (.invalidGlobal key
          ("must be at least " ++ toString least ++ ", got " ++ toString number))
      else
        match most with
        | some most =>
            if most < number then
              .error (.invalidGlobal key
                ("must be at most " ++ toString most ++ ", got " ++ toString number))
            else .ok (some number.toNat)
        | none => .ok (some number.toNat)
  | some other =>
      .error (.invalidGlobal key ("expected an integer, got " ++ other.typeName))

/-- The similarity from which code counts as similar. -/
def similarity (value : Option SettingValue) : Except Fault Float :=
  let key := "duplicationSimilarityThreshold"
  match value with
  | none => .ok defaultSimilarity
  | some value =>
      match value.number? with
      | none => .error (.invalidGlobal key ("expected a number, got " ++ value.typeName))
      | some number =>
          if number > 0 && number ≤ 1 then .ok number
          else .error (.invalidGlobal key ("must be in (0, 1], got " ++ Decimal.plain number))

/-- Takes in a configured threshold of a rule. -/
def applyThreshold (info : RuleInfo) (settings : RuleSettings) (entry : String × SettingValue) :
    Except Fault RuleSettings :=
  let (name, value) := entry
  match info.threshold? name with
  | none => .error (.unknownThreshold info.id name)
  | some threshold =>
      match value.number? with
      | none =>
          .error (.invalidThreshold info.id name ("expected a number, got " ++ value.typeName))
      | some number =>
          match threshold.refusal? number with
          | some refusal => .error (.invalidThreshold info.id name refusal.message)
          | none => .ok { settings with thresholds := settings.thresholds.insert name number }

/--
Rules configured so far with the spelling that configured them, and the settings of all rules.
-/
structure Progress where
  seen : List (String × String) := []
  rules : Sorted RuleSettings

/-- Takes in the section of a rule. -/
def applySection (catalog : List RuleInfo) (progress : Progress) (entry : String × RuleSection) :
    Except Fault Progress := do
  let (key, configured) := entry
  match catalog.find? fun info => RuleName.normalize info.id == RuleName.normalize key with
  | none => throw (.unknownRule key)
  | some info =>
      match progress.seen.find? (·.1 == info.id) with
      | some (_, previous) =>
          throw (.conflict ("rules." ++ key)
            ("`" ++ previous ++ "` and `" ++ key ++ "` both configure " ++ info.id))
      | none =>
          let present := (progress.rules.get? info.id).getD (RuleSettings.ofInfo info)
          let switched := { present with enabled := configured.enabled.getD present.enabled }
          let complete ← configured.thresholds.foldlM (applyThreshold info) switched
          return {
            seen := (info.id, key) :: progress.seen
            rules := progress.rules.insert info.id complete }

/-- Two thresholds of one rule that only make sense in one order. -/
def checkConflicts (settings : ResolvedSettings) : Except Fault Unit :=
  match settings.threshold? "SimilarNames" "maxEditDistance",
      settings.threshold? "SimilarNames" "minNameLength" with
  | some distance, some length =>
      if distance ≥ length then
        .error (.conflict "rules.SimilarNames.thresholds.maxEditDistance"
          ("maxEditDistance (" ++ Decimal.plain distance ++ ") must be below minNameLength (" ++
            Decimal.plain length ++ "), or every pair of short names collides"))
      else .ok ()
  | _, _ => .ok ()

/-- The greatest number of workers, unless configured. -/
def maxWorkers : Nat := 16

/-- The number of workers when some are asked for; zero leaves the choice to the machine. -/
def effectiveWorkers (machine : Machine) (requested : Nat) : Nat :=
  if 0 < requested then requested else min machine.threads maxWorkers

/-- Settings checked against a catalogue of rules and completed by the defaults. -/
def resolve (settings : Settings) (machine : Machine) (catalog : List RuleInfo) :
    Except Fault ResolvedSettings := do
  let workers ← globalCount settings.workers "workers" 0 (some 256)
  let statements ← globalCount settings.minDuplicateStatements "minDuplicateStatements" 1 none
  let timeout ← globalCount settings.perFileTimeoutMs "perFileTimeoutMs" 1 none
  let threshold ← similarity settings.duplicationSimilarityThreshold
  let defaults := Sorted.ofList (catalog.map fun info => (info.id, RuleSettings.ofInfo info))
  let progress ← settings.rules.foldlM (applySection catalog) { rules := defaults }
  let resolved : ResolvedSettings :=
    { workers := effectiveWorkers machine (workers.getD 0)
      minDuplicateStatements := statements.getD defaultMinDuplicateStatements
      duplicationSimilarityThreshold := threshold
      perFileTimeoutMs := timeout.getD defaultPerFileTimeoutMs
      rules := progress.rules }
  checkConflicts resolved
  return resolved

end Settings

end StructuralLint
