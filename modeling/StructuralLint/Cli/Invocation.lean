import StructuralLint.Finding

/-!
# Tasks of the command line

What the program can be asked to do, and the settings that go with it.
-/

namespace StructuralLint.Cli

/-- How a report is written. -/
inductive Format where
  | text
  | json
deriving DecidableEq, Repr

/-- The format with a name. -/
def Format.ofText? (text : String) : Option Format :=
  if text == "text" then some .text else if text == "json" then some .json else none

/-- What the program is asked to do. -/
inductive Task where
  | analyze (paths : List String) (workers : Option Nat) (format : Format)
      (failOn : Option Severity)
  | rules
deriving DecidableEq, Repr

/-- A task and the file of settings that it is done under. -/
structure Invocation where
  config : Option String
  task : Task
deriving DecidableEq, Repr

/-- What help can be asked about: the program, a task, or help itself. -/
inductive Topic where
  | program
  | analyze
  | rules
  | help
deriving DecidableEq, Repr

/-- Answers to arguments that ask for no task. -/
inductive Reply where
  | help (topic : Topic)
  | version
  /-- The arguments make no sense. -/
  | misuse
deriving DecidableEq, Repr

/-! ## Settings -/

/-- A setting with a value. -/
inductive Setting where
  | config
  | logLevel
  | workers
  | format
  | failOn
deriving DecidableEq, Repr

/-- The largest number of workers that can be asked for. -/
def maxWorkers : Nat := 16

/-- The value of decimal digits. -/
def digitsValue? (digits : List Char) : Option Nat :=
  if digits.isEmpty || !digits.all Char.isDigit then none
  else some (digits.foldl (fun value digit => 10 * value + (digit.toNat - '0'.toNat)) 0)

/-- A number of workers: digits, perhaps after a plus sign, between one and the largest number. -/
def workers? (text : String) : Option Nat := do
  let value ← digitsValue?
    (match text.toList with
    | '+' :: digits => digits
    | digits => digits)
  guard (1 ≤ value && value ≤ maxWorkers)
  return value

namespace Setting

/-- The name of a setting. -/
def longName : Setting → String
  | config => "config"
  | logLevel => "log-level"
  | workers => "workers"
  | format => "format"
  | failOn => "fail-on"

/-- The letter of a setting. -/
def letter? : Setting → Option Char
  | format => some 'f'
  | _ => none

/-- The values of the log level. -/
def logLevels : List String := ["error", "warn", "info", "debug", "trace"]

/-- Whether a setting can have a value. -/
def accepts (setting : Setting) (value : String) : Bool :=
  match setting with
  | config => value != ""
  | logLevel => logLevels.contains value
  | workers => (workers? value).isSome
  | format => (Format.ofText? value).isSome
  | failOn => (Severity.ofText? value).isSome

end Setting

/-- Settings with values that were accepted. -/
abbrev Settled := List (Setting × String)

namespace Settled

/-- The value of a setting. -/
def get? (settled : Settled) (setting : Setting) : Option String :=
  (settled.find? (·.1 == setting)).map (·.2)

/-- Takes in a value, unless the setting has one or cannot have this one. -/
def add (settled : Settled) (setting : Setting) (value : String) : Except Reply Settled :=
  if (settled.get? setting).isSome || !setting.accepts value then .error .misuse
  else .ok (settled ++ [(setting, value)])

end Settled

/-- The settings that can be given before the task, or for a task. -/
def Topic.settings : Topic → List Setting
  | analyze => [.config, .logLevel, .workers, .format, .failOn]
  | _ => [.config, .logLevel]

end StructuralLint.Cli
