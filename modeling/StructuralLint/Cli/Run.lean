import StructuralLint.Cli.Arguments
import StructuralLint.Cli.Collect
import StructuralLint.Cli.Help
import StructuralLint.Cli.Listing
import StructuralLint.Json.Printer
import StructuralLint.Settings.Reader

/-!
# Runs of the program

Reads the arguments, loads the settings, does the task, and says what is printed and how the program
ends.
-/

namespace StructuralLint.Cli

/-- Why a task was not done, with the causes from the outermost on. -/
structure Failure where
  message : String
  causes : List String
deriving DecidableEq, Repr

namespace Failure

/-- A cause with its lines indented; it is numbered if there are several. -/
def causeLines (number : Option Nat) (cause : String) : List String :=
  match (Text.splitAt '\n' cause.toList).map String.ofList with
  | [] => []
  | first :: rest =>
      match number with
      | some number =>
          let digits := toString number
          (String.ofList (List.replicate (5 - digits.length) ' ') ++ digits ++ ": " ++ first) ::
            rest.map ("       " ++ ·)
      | none => ("    " ++ first) :: rest.map ("    " ++ ·)

/-- A failure, line by line. -/
def lines (failure : Failure) : List String :=
  let isNumbered := 1 < failure.causes.length
  let causes := failure.causes.zipIdx.flatMap fun (cause, index) =>
    causeLines (if isNumbered then some index else none) cause
  ("Error: " ++ failure.message) ::
    if failure.causes.isEmpty then [] else "" :: "Caused by:" :: causes

end Failure

/-- How a run ends. -/
inductive Outcome where
  | printed (lines : List String)
  /-- A report, and whether it holds a diagnostic that the run has to fail on. -/
  | reported (report : Report) (format : Format) (isFailing : Bool)
  | failed (failure : Failure)
  | misused
  /-- A file broke down; where the program does not wait for ever, it ends like any that stops. -/
  | lost
deriving DecidableEq, Repr

namespace Outcome

/-- The status that the program ends with. -/
def status : Outcome → UInt32
  | printed _ => 0
  | reported _ _ isFailing => if isFailing then 1 else 0
  | failed _ => 1
  | misused => 2
  | lost => 101

/-- What is printed, line by line, for a run of some milliseconds. -/
def output (duration : Nat) : Outcome → List String
  | printed lines => lines
  | reported report .text _ => reportLines report
  | reported report .json _ =>
      [(Json.object (report.fields ++ [("durationMs", .int duration)])).renderLines]
  | failed _ => []
  | misused => []
  | lost => []

/-- What is printed about errors, line by line. -/
def errors : Outcome → List String
  | failed failure => failure.lines
  | misused => ["error: the arguments were not understood", "",
      "For more information, try '--help'."]
  | _ => []

end Outcome

/-- The file of settings that is used when none is given. -/
def defaultConfig : String := "craftcheck.toml"

variable {m : Type → Type} [Monad m]

/-- Loads the settings of a file. -/
def loadFrom (disk : Disk m) (path : String) : m (Except Failure Settings) := do
  let failure (causes : List String) : Failure :=
    { message := "Failed to load config " ++ path, causes }
  match ← disk.readText path with
  | .error fault =>
      let unavailable : Settings.Fault := .unavailable ⟨path⟩ fault.message
      return .error (failure [unavailable.message, fault.message])
  | .ok text =>
      match Settings.read text with
      | .ok settings => return .ok settings
      | .error fault => return .error (failure [fault.message])

/--
Loads the settings of a run: those of the given file, else those of the default file if there is
one.
-/
def load (disk : Disk m) (config : Option String) : m (Except Failure Settings) := do
  match config with
  | some path => loadFrom disk path
  | none =>
      if (← disk.kind? defaultConfig) == some .file then loadFrom disk defaultConfig
      else return .ok {}

/-- The failure of settings that the rules do not allow. -/
def invalidSettings (fault : Settings.Fault) : Failure :=
  { message := "Invalid configuration", causes := [fault.message] }

/-- Lists the rules. -/
def listRules (machine : Machine) (settings : Settings) : Outcome :=
  let catalog := Registry.builtin.catalog
  match settings.resolve machine catalog with
  | .ok resolved => .printed (catalogLines resolved catalog)
  | .error fault => .failed (invalidSettings fault)

/-- The files that some paths stand for, or the failure on the first that cannot be read. -/
def sources (disk : Disk m) (adapters : AdapterSet) (paths : List String) :
    ExceptT Failure m (List SourceFile) := do
  let found ← paths.mapM fun path => ExceptT.mk do
    match ← disk.sourcesAt adapters path with
    | .ok sources => return .ok sources
    | .error fault =>
        return .error { message := "Failed to read " ++ path, causes := [fault.message] }
  return found.flatten

/-- Analyzes some files. -/
def report (engine : Engine) (files : List SourceFile) (format : Format)
    (failOn : Option Severity) : Outcome :=
  match (engine.analyze false files).1 with
  | none => .lost
  | some (.error interruption) => .failed { message := interruption.message, causes := [] }
  | some (.ok report) =>
      .reported report format (failOn.any fun least =>
        report.diagnostics.any fun diagnostic => least.rank ≤ diagnostic.severity.rank)

/-- Analyzes the files that some paths stand for. -/
def analyze (machine : Machine) (explain : String → String) (disk : Disk m) (settings : Settings)
    (paths : List String) (format : Format) (failOn : Option Severity) : m Outcome := do
  match Engine.configure machine Registry.builtin (AdapterSet.builtin explain) settings with
  | .error fault => return .failed (invalidSettings fault)
  | .ok engine =>
      match ← (sources disk engine.adapters paths).run with
      | .error failure => return .failed failure
      | .ok files => return report engine files format failOn

/-- The settings of a task: a number of workers that is asked for counts. -/
def withWorkers (settings : Settings) (workers : Option Nat) : Settings :=
  match workers with
  | some count => { settings with workers := some (.integer (Int64.ofNat count)) }
  | none => settings

/-- Does a task. -/
def Invocation.run (invocation : Invocation) (machine : Machine) (explain : String → String)
    (disk : Disk m) : m Outcome := do
  match ← load disk invocation.config with
  | .error failure => return .failed failure
  | .ok settings =>
      match invocation.task with
      | .rules => return listRules machine settings
      | .analyze paths workers format failOn =>
          analyze machine explain disk (withWorkers settings workers) paths format failOn

/-- Runs the program on its arguments; the environment may name a file of settings. -/
def run (machine : Machine) (explain : String → String) (disk : Disk m)
    (environment : Option String) (arguments : List String) : m Outcome :=
  match Invocation.read environment arguments with
  | .ok invocation => invocation.run machine explain disk
  | .error (.help topic) => return .printed (helpLines environment topic)
  | .error .version => return .printed [versionLine]
  | .error .misuse => return .misused

end StructuralLint.Cli
