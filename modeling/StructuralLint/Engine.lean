import StructuralLint.Adapter.ModelDocument
import StructuralLint.Duplication.Detect
import StructuralLint.Report
import StructuralLint.Rule.Builtin

/-!
# The engine

An engine holds rules, adapters and resolved settings, and runs on a machine.  A run analyzes every
file on its own, compares all files for duplication and merges the findings into a report.  A file
that no model can be obtained of contributes one finding and nothing else.  A run can be cancelled;
the checks before the run, before each file, after the files and after the comparison see it, and a
run that was cancelled yields no report.

A file can break down.  Then the call never returns: the program stops, or it waits for ever.  Where
several files break down, it depends on the workers which of the two happens, so a run says no more
than that its result is missing.
-/

namespace StructuralLint

/-- A file to analyze. -/
structure SourceFile where
  path : SourcePath
  contents : String
deriving DecidableEq, Repr

/-- A configured engine. -/
structure Engine where
  machine : Machine := {}
  registry : Registry
  adapters : AdapterSet
  settings : ResolvedSettings

/-- What rules see of a model. -/
def Registry.File.ofModel (adapter : Adapter) (model : Model) : Except Breakdown File := do
  let symbols := Symbols.resolve model
  let metrics ← Metrics.ofModel model symbols
  return { model, symbols, metrics, looksLikeCode := adapter.looksLikeCode }

namespace Engine

/-- An engine with settings that suit its rules. -/
def configure (machine : Machine) (registry : Registry) (adapters : AdapterSet)
    (settings : Settings) : Except Settings.Fault Engine := do
  let resolved ← settings.resolve machine registry.catalog
  return { machine, registry, adapters, settings := resolved }

/-- What one file contributes to a run. -/
structure FileOutcome where
  violations : List Violation
  suppressions : List Suppression := []
  fingerprints : Option Duplication.Fingerprints := none
  failed : Bool := false

/-- The finding on a file that no model was obtained of. -/
def failureFinding (path : SourcePath) (fault : Adapter.Fault) : Violation :=
  { ruleId :=
      match fault with
      | .defective _ => modelInvariantId
      | _ => parseErrorId
    severity := .high
    message := fault.message
    range :=
      { file := path, span := { startLine := 1, startCol := 1, endLine := 1, endCol := 1 } } }

/-- The model of a file and the adapter that obtained it, or why there is none. -/
def modelOf (engine : Engine) (file : SourceFile) : Except Adapter.Fault (Adapter × Model) :=
  match engine.adapters.forPath? file.path with
  | none => .error (.noAdapter file.path)
  | some adapter => do
    let model ← adapter.parse file.contents file.path engine.settings.perFileTimeoutMs
    return (adapter, model)

/-- Whether some rule on duplication is on. -/
def comparesFiles (engine : Engine) : Bool :=
  Duplication.catalog.any fun info => engine.settings.isEnabled info.id

/-- What a model contributes to a run. -/
def analyzeModel (engine : Engine) (adapter : Adapter) (model : Model) :
    Except Breakdown FileOutcome := do
  let file ← Registry.File.ofModel adapter model
  let violations ← engine.registry.evaluate engine.settings file
  let (suppressions, unknown) := Suppression.collect model engine.settings
  return {
    violations := violations ++ unknown
    suppressions
    fingerprints :=
      if engine.comparesFiles then
        some (Duplication.Fingerprints.ofModel model engine.settings.minDuplicateStatements)
      else none }

/-- What a file contributes to a run. -/
def analyzeFile (engine : Engine) (file : SourceFile) : Except Breakdown FileOutcome :=
  match engine.modelOf file with
  | .error fault => .ok { violations := [failureFinding file.path fault], failed := true }
  | .ok (adapter, model) => engine.analyzeModel adapter model

/-- The report on what some files contributed. -/
def reportOn (engine : Engine) (fileCount : Nat) (outcomes : List FileOutcome) : Report :=
  let duplicates := Duplication.detect (outcomes.filterMap (·.fingerprints)) engine.settings
  let findings : Findings :=
    { violations := outcomes.flatMap (·.violations) ++ duplicates
      suppressions := outcomes.flatMap (·.suppressions) }
  let diagnostics := findings.finish
  { diagnostics
    summary := Summary.ofDiagnostics diagnostics
    filesAnalyzed := fileCount
    filesFailed := outcomes.countP (·.failed) }

/-! ## Cancellation -/

/-- What the checks of a run see of the cancellation. -/
structure Cancellation where
  /-- At the start of the run. -/
  before : Bool
  /-- Before the file at a position. -/
  atFile : Nat → Bool
  /-- After all files. -/
  afterFiles : Bool
  /-- After the comparison of all files. -/
  afterComparison : Bool

/-- Nobody cancels. -/
def Cancellation.never : Cancellation :=
  { before := false, atFile := fun _ => false, afterFiles := false, afterComparison := false }

/-- Why a run ends without a report. -/
inductive Interruption where
  | cancelled
  /-- The workers cannot be started. -/
  | noPool (reason : String)
deriving DecidableEq, Repr

/-- The interruption in words. -/
def Interruption.message : Interruption → String
  | cancelled => "analysis cancelled"
  | noPool reason => "failed to build worker pool: " ++ reason

/-- Why the workers of an engine cannot be started, if so. -/
def poolFault? (engine : Engine) : Option String :=
  engine.machine.poolFault? engine.settings.workers

/-- What the files contribute that are analyzed under a cancellation, unless one breaks down. -/
def outcomes (engine : Engine) (cancellation : Cancellation) (files : List SourceFile) :
    Except Breakdown (List FileOutcome) :=
  gather
    (fun (file, position) =>
      if cancellation.atFile position then .ok [] else (engine.analyzeFile file).map ([·]))
    files.zipIdx

/--
A run over some files under a cancellation: a report on all of them, or an interruption.  The result
is missing when a file breaks down.
-/
def run (engine : Engine) (cancellation : Cancellation) (files : List SourceFile) :
    Option (Except Interruption Report) :=
  if cancellation.before then some (.error .cancelled)
  else
    match engine.poolFault? with
    | some reason => some (.error (.noPool reason))
    | none =>
        match engine.outcomes cancellation files with
        | .error _ => none
        | .ok outcomes =>
            if cancellation.afterFiles then some (.error .cancelled)
            else
              let report := engine.reportOn files.length outcomes
              some (if cancellation.afterComparison then .error .cancelled else .ok report)

/-- Whether the adapter of a file cancels the run. -/
def cancelsAt (engine : Engine) (file : SourceFile) : Bool :=
  match engine.adapters.forPath? file.path with
  | some adapter => (adapter.attempt file.contents file.path).cancels
  | none => false

/--
What the checks see when the files are analyzed one after another: the token as it was before, and
what adapters do to it once there are workers.
-/
def Cancellation.during (engine : Engine) (token : Bool) (files : List SourceFile) : Cancellation :=
  let after (count : Nat) : Bool :=
    token || (engine.poolFault?.isNone && (files.take count).any engine.cancelsAt)
  { before := token
    atFile := after
    afterFiles := after files.length
    afterComparison := after files.length }

/-- Analyzes some files; the token says whether the engine was cancelled, before and afterwards. -/
def analyze (engine : Engine) (token : Bool) (files : List SourceFile) :
    Option (Except Interruption Report) × Bool :=
  let cancellation := Cancellation.during engine token files
  (engine.run cancellation files, cancellation.afterFiles)

end Engine

end StructuralLint
