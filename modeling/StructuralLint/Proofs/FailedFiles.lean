import Mathlib
import StructuralLint.Proofs.ArrivalOrder
import StructuralLint.Proofs.DuplicationFindings

/-!
# Files that no model is obtained of

A file without a model contributes one violation and neither markers nor fingerprints.  Markers and
findings of other files lie in those files, so nothing of them reaches a failed file, and nothing of
a failed file reaches them.  The report on all files is therefore the report on the files with a
model, with one diagnostic added for each of the others.
-/

namespace StructuralLint

theorem SourcePath.same_comm (left right : SourcePath) : left.same right = right.same left := by
  rw [Bool.eq_iff_iff, same_iff, same_iff, eq_comm]

theorem SourcePath.same_self (path : SourcePath) : path.same path = true :=
  (same_iff path path).mpr rfl

/-- What lies in one file does not lie in a different one. -/
theorem SourcePath.not_same_of_different {path own other : SourcePath}
    (inOwn : path.same own = true)
    (different : own.same other = false) :
    ¬ path.same other = true := by
  rw [same_eq_false_of_same different inOwn other.same_self]
  exact Bool.false_ne_true

/-- Diagnostics of one finding lie in one file. -/
theorem Diagnostic.file_same_eq_of_sameFinding {left right : Diagnostic}
    (same : left.sameFinding right = true) (path : SourcePath) :
    left.range.file.same path = right.range.file.same path := by
  rw [sameFinding, Bool.and_eq_true, Range.same_iff] at same
  rw [SourcePath.same, SourcePath.same, same.2.1]

/-- A violation that nothing silences is reported as it is when it is the only one. -/
theorem Findings.finish_singleton {violation : Violation} {suppressions : List Suppression}
    (unsilenced : isSuppressed suppressions violation = false) :
    finish { violations := [violation], suppressions } = [violation.toDiagnostic] := by
  simp [finish, unsilenced, firstOfRuns]

/-- The scopes and markers of a model lie in its file. -/
theorem Suppression.file_of_mem_collect {model : Model} {settings : ResolvedSettings}
    {suppression : Suppression}
    (member : suppression ∈ (Suppression.collect model settings).1) :
    suppression.scope.file = model.path := by
  rcases List.mem_filterMap.mp member with ⟨⟨comment, names⟩, _, named⟩
  have atOwner : suppression.scope = Suppression.scopeOf model comment := by
    simp only [Suppression.ofNames?] at named
    split at named
    · rw [← Option.some.inj named]
    · rw [Option.ite_none_left_eq_some] at named
      rw [← Option.some.inj named.2]
  rw [atOwner, Suppression.scopeOf]
  split <;> rfl

/-- Items that contribute nothing can be left out. -/
theorem flatMap_filter_of_nil {α β : Type} (items : List α) (contribution : α → List β)
    (keep : α → Bool)
    (nothing : ∀ item ∈ items, keep item = false → contribution item = []) :
    (items.filter keep).flatMap contribution = items.flatMap contribution := by
  induction items with
  | nil => rfl
  | cons item rest induction =>
      rw [List.forall_mem_cons] at nothing
      have restEqual := induction nothing.2
      cases kept : keep item with
      | true => simp only [List.filter_cons, kept, if_true, List.flatMap_cons, restEqual]
      | false =>
          simp only [List.filter_cons, kept, Bool.false_eq_true, if_false, List.flatMap_cons,
            restEqual, nothing.1 kept, List.nil_append]

namespace Engine

/-- The engine has an adapter for a file, and the adapter obtains a model of it in time. -/
def HasModel (engine : Engine) (file : SourceFile) : Prop :=
  ∃ adapter model,
    engine.adapters.forPath? file.path = some adapter ∧
      adapter.parse file.contents file.path engine.settings.perFileTimeoutMs = .ok model

/-- The adapter of a file obtains nodes that ingestion does not accept. -/
def IsDefective (engine : Engine) (file : SourceFile) : Prop :=
  ∃ adapter defect,
    engine.adapters.forPath? file.path = some adapter ∧
      adapter.parse file.contents file.path engine.settings.perFileTimeoutMs =
        .error (.defective defect)

theorem hasModel_iff {engine : Engine} {file : SourceFile} :
    engine.HasModel file ↔ ∃ found, engine.modelOf file = .ok found := by
  rw [HasModel, modelOf]
  cases engine.adapters.forPath? file.path with
  | none => simp
  | some adapter =>
      cases parsed : adapter.parse file.contents file.path engine.settings.perFileTimeoutMs with
      | error fault => simp [parsed, bind, Except.bind]
      | ok model => simp [parsed, bind, Except.bind, pure, Except.pure]

theorem isDefective_iff {engine : Engine} {file : SourceFile} :
    engine.IsDefective file ↔ ∃ defect, engine.modelOf file = .error (.defective defect) := by
  rw [IsDefective, modelOf]
  cases engine.adapters.forPath? file.path with
  | none => simp
  | some adapter =>
      cases parsed : adapter.parse file.contents file.path engine.settings.perFileTimeoutMs with
      | error fault => simp [parsed, bind, Except.bind]
      | ok model => simp [parsed, bind, Except.bind, pure, Except.pure]

instance (engine : Engine) (file : SourceFile) : Decidable (engine.HasModel file) :=
  decidable_of_iff ((engine.modelOf file).isOk = true) <| by
    rw [hasModel_iff]
    cases engine.modelOf file <;> simp [Except.isOk, Except.toBool]

/-- A file whose nodes are not accepted has no model. -/
theorem IsDefective.not_hasModel {engine : Engine} {file : SourceFile}
    (defective : engine.IsDefective file) :
    ¬ engine.HasModel file := by
  intro hasModel
  rcases isDefective_iff.mp defective with ⟨defect, faulty⟩
  rcases hasModel_iff.mp hasModel with ⟨found, obtained⟩
  rw [faulty] at obtained
  cases obtained

/-- A diagnostic stands in one of the files that no model is obtained of. -/
def InFailedFile (engine : Engine) (files : List SourceFile) (diagnostic : Diagnostic) : Prop :=
  ∃ file ∈ files, ¬ engine.HasModel file ∧ diagnostic.range.file.same file.path = true

instance (engine : Engine) (files : List SourceFile) (diagnostic : Diagnostic) :
    Decidable (engine.InFailedFile files diagnostic) :=
  inferInstanceAs (Decidable (∃ file ∈ files, _ ∧ _))

theorem InFailedFile.congr {engine : Engine} {files : List SourceFile} {left right : Diagnostic}
    (same : left.sameFinding right = true) :
    engine.InFailedFile files left ↔ engine.InFailedFile files right := by
  simp only [InFailedFile, Diagnostic.file_same_eq_of_sameFinding same]

/-! ## What one file contributes -/

section Contributions

variable {engine : Engine} {file : SourceFile}

theorem exists_outcomeOf_eq_of_not_hasModel
    (failed : ¬ engine.HasModel file) :
    ∃ fault, engine.modelOf file = .error fault ∧
      engine.outcomeOf file =
        { violations := [failureFinding file.path fault], failed := true } := by
  cases obtained : engine.modelOf file with
  | ok found => exact absurd (hasModel_iff.mpr ⟨found, obtained⟩) failed
  | error fault => exact ⟨fault, rfl, by rw [outcomeOf, analyzeFile, obtained]⟩

/-- A file that no model is obtained of does not break down. -/
theorem hasModel_of_analyzeFile_eq_error {breakdown : Breakdown}
    (broken : engine.analyzeFile file = .error breakdown) :
    engine.HasModel file := by
  cases obtained : engine.modelOf file with
  | ok found => exact hasModel_iff.mpr ⟨found, obtained⟩
  | error fault =>
      rw [analyzeFile, obtained] at broken
      cases broken

theorem failed_outcomeOf_eq :
    (engine.outcomeOf file).failed = decide (¬ engine.HasModel file) := by
  by_cases hasModel : engine.HasModel file
  · rcases hasModel_iff.mp hasModel with ⟨⟨adapter, model⟩, obtained⟩
    rw [outcomeOf, analyzeFile, obtained]
    split
    next outcome analyzed =>
      rcases analyzeModel_eq_ok_iff.mp analyzed with ⟨_, _, _, _, rfl⟩
      simp [hasModel]
    next => simp [hasModel]
  · rcases exists_outcomeOf_eq_of_not_hasModel hasModel with ⟨fault, _, outcome⟩
    rw [outcome]
    simp [hasModel]

/-- The markers of a file lie in that file. -/
theorem file_same_of_mem_suppressions
    (carry : ∀ entry ∈ engine.adapters.entries, entry.2.CarriesPath)
    {suppression : Suppression}
    (member : suppression ∈ (engine.outcomeOf file).suppressions) :
    suppression.scope.file.same file.path = true := by
  rw [outcomeOf] at member
  split at member
  next outcome analyzed =>
    rw [analyzeFile] at analyzed
    split at analyzed
    next =>
      cases analyzed
      cases member
    next adapter model obtained =>
      rcases analyzeModel_eq_ok_iff.mp analyzed with ⟨_, _, _, _, rfl⟩
      rw [Suppression.file_of_mem_collect member]
      exact path_same_of_modelOf_eq_ok carry obtained
  next => cases member

end Contributions

/-! ## Two reports -/

section Isolation

variable {engine : Engine} {files : List SourceFile}
  (anchored : ∀ rule ∈ engine.registry.rules, rule.IsAnchored)
  (carry : ∀ entry ∈ engine.adapters.entries, entry.2.CarriesPath)
  (apart : files.Pairwise fun left right => left.path.same right.path = false)

/-- The files that a model is obtained of. -/
def withModel (engine : Engine) (files : List SourceFile) : List SourceFile :=
  files.filter fun file => decide (engine.HasModel file)

theorem mem_withModel {file : SourceFile} :
    file ∈ engine.withModel files ↔ file ∈ files ∧ engine.HasModel file := by
  simp [withModel]

include apart in
/-- A failed file shares its path with no file that a model is obtained of. -/
theorem same_eq_false_of_failed {failed other : SourceFile}
    (failedMember : failed ∈ files)
    (isFailed : ¬ engine.HasModel failed)
    (otherMember : other ∈ files)
    (hasModel : engine.HasModel other) :
    other.path.same failed.path = false := by
  have symmetric : Std.Symm fun left right : SourceFile => left.path.same right.path = false :=
    ⟨fun left right different => by rw [SourcePath.same_comm, different]⟩
  apply apart.forall otherMember failedMember
  intro equal
  rw [equal] at hasModel
  exact isFailed hasModel

include apart in
theorem not_inFailedFile_of_hasModel {file : SourceFile}
    (member : file ∈ files)
    (hasModel : engine.HasModel file)
    {diagnostic : Diagnostic}
    (inFile : diagnostic.range.file.same file.path = true) :
    ¬ engine.InFailedFile files diagnostic := by
  rintro ⟨failed, failedMember, isFailed, inFailed⟩
  have different := same_eq_false_of_failed apart failedMember isFailed member hasModel
  exact SourcePath.not_same_of_different inFile different inFailed

/-- Failed files have no fingerprints and no markers. -/
theorem fingerprints_withModel (engine : Engine) (files : List SourceFile) :
    ((engine.withModel files).map engine.outcomeOf).filterMap (·.fingerprints) =
      (files.map engine.outcomeOf).filterMap (·.fingerprints) := by
  rw [withModel, List.filterMap_map, List.filterMap_map, List.filterMap_filter]
  apply List.filterMap_congr
  intro file _
  by_cases hasModel : engine.HasModel file
  · simp [hasModel]
  · rcases exists_outcomeOf_eq_of_not_hasModel hasModel with ⟨fault, _, outcome⟩
    simp [hasModel, outcome]

theorem suppressions_withModel (engine : Engine) (files : List SourceFile) :
    ((engine.withModel files).map engine.outcomeOf).flatMap (·.suppressions) =
      (files.map engine.outcomeOf).flatMap (·.suppressions) := by
  rw [List.flatMap_map, List.flatMap_map]
  apply flatMap_filter_of_nil
  intro file _ without
  rcases exists_outcomeOf_eq_of_not_hasModel (of_decide_eq_false without) with ⟨_, _, outcome⟩
  rw [outcome]

include anchored carry in
/-- A finding on duplication lies in a file that a model is obtained of. -/
theorem exists_file_of_mem_detect {violation : Violation}
    (found :
      violation ∈
        Duplication.detect ((files.map engine.outcomeOf).filterMap (·.fingerprints))
          engine.settings) :
    ∃ file ∈ files, engine.HasModel file ∧ violation.range.file.same file.path = true := by
  rw [← fingerprints_withModel] at found
  rcases Duplication.exists_hasRange_of_mem_detect found with ⟨fingerprints, compared, hasRange⟩
  rw [List.filterMap_map] at compared
  rcases List.mem_filterMap.mp compared with ⟨file, member, taken⟩
  rcases mem_withModel.mp member with ⟨isFile, hasModel⟩
  rcases (outcomeOf_liesIn anchored carry file).fingerprints fingerprints taken with
    ⟨isLocal, samePath⟩
  refine ⟨file, isFile, hasModel, ?_⟩
  rcases hasRange with ⟨candidate, isCandidate, equal⟩ | ⟨chain, isChain, equal⟩
  · rw [← equal, isLocal.candidates candidate isCandidate]
    exact samePath
  · rw [← equal, isLocal.chains chain isChain]
    exact samePath

include anchored carry apart in
/-- Outside the failed files stand exactly the violations of the files with a model. -/
theorem filter_violations_not_inFailedFile :
    ((files.map engine.outcomeOf).flatMap (·.violations)).filter
        (fun violation => decide (¬ engine.InFailedFile files violation.toDiagnostic)) =
      ((engine.withModel files).map engine.outcomeOf).flatMap (·.violations) := by
  rw [List.flatMap_map, List.flatMap_map, List.filter_flatMap]
  have contributed (file : SourceFile) (member : file ∈ files) :
      ((engine.outcomeOf file).violations.filter fun violation =>
          decide (¬ engine.InFailedFile files violation.toDiagnostic)) =
        if engine.HasModel file then (engine.outcomeOf file).violations else [] := by
    split
    next hasModel =>
      rw [List.filter_eq_self]
      intro violation found
      have inFile := (outcomeOf_liesIn anchored carry file).violations violation found
      exact decide_eq_true (not_inFailedFile_of_hasModel apart member hasModel inFile)
    next isFailed =>
      rcases exists_outcomeOf_eq_of_not_hasModel isFailed with ⟨fault, _, outcome⟩
      have inFailed : engine.InFailedFile files (failureFinding file.path fault).toDiagnostic :=
        ⟨file, member, isFailed, file.path.same_self⟩
      rw [outcome]
      simp [inFailed]
  rw [List.flatMap_congr contributed]
  rw [← flatMap_filter_of_nil files _ fun file => decide (engine.HasModel file)]
  · apply List.flatMap_congr
    intro file member
    rw [if_pos (of_decide_eq_true (List.mem_filter.mp member).2)]
  · intro file _ without
    rw [if_neg (of_decide_eq_false without)]

include anchored carry apart in
/-- Outside the failed files the report is that on the files with a model. -/
theorem filter_reportOn_not_inFailedFile (fileCount goodCount : Nat) :
    (engine.reportOn fileCount (files.map engine.outcomeOf)).diagnostics.filter
        (fun diagnostic => decide (¬ engine.InFailedFile files diagnostic)) =
      (engine.reportOn goodCount
        ((engine.withModel files).map engine.outcomeOf)).diagnostics := by
  have duplicatesKept :
      (Duplication.detect ((files.map engine.outcomeOf).filterMap (·.fingerprints))
          engine.settings).filter
          (fun violation => decide (¬ engine.InFailedFile files violation.toDiagnostic)) =
        Duplication.detect ((files.map engine.outcomeOf).filterMap (·.fingerprints))
          engine.settings := by
    rw [List.filter_eq_self]
    intro violation found
    rcases exists_file_of_mem_detect anchored carry found with ⟨file, member, hasModel, inFile⟩
    exact decide_eq_true (not_inFailedFile_of_hasModel apart member hasModel inFile)
  simp only [reportOn]
  rw [Findings.filter_finish _ _ fun left right same => by
    simp only [InFailedFile.congr same]]
  rw [List.filter_append, filter_violations_not_inFailedFile anchored carry apart, duplicatesKept,
    fingerprints_withModel, suppressions_withModel]

include anchored carry apart in
/-- In a failed file stands exactly its own violation. -/
theorem filter_violations_in_failed {failed : SourceFile}
    (member : failed ∈ files)
    {fault : Adapter.Fault}
    (outcome :
      engine.outcomeOf failed =
        { violations := [failureFinding failed.path fault], failed := true }) :
    ((files.map engine.outcomeOf).flatMap (·.violations)).filter
        (fun violation => violation.range.file.same failed.path) =
      [failureFinding failed.path fault] := by
  have elsewhere (file : SourceFile) (different : file.path.same failed.path = false) :
      ((engine.outcomeOf file).violations.filter fun violation =>
        violation.range.file.same failed.path) = [] := by
    rw [List.filter_eq_nil_iff]
    intro violation found
    have inFile := (outcomeOf_liesIn anchored carry file).violations violation found
    exact SourcePath.not_same_of_different inFile different
  rcases List.append_of_mem member with ⟨before, after, rfl⟩
  rcases List.pairwise_append.mp apart with ⟨_, failedFirst, beforeApart⟩
  have noneBefore :
      before.flatMap (fun file =>
        (engine.outcomeOf file).violations.filter fun violation =>
          violation.range.file.same failed.path) = [] := by
    rw [List.flatMap_eq_nil_iff]
    intro file isBefore
    exact elsewhere file (beforeApart file isBefore failed List.mem_cons_self)
  have noneAfter :
      after.flatMap (fun file =>
        (engine.outcomeOf file).violations.filter fun violation =>
          violation.range.file.same failed.path) = [] := by
    rw [List.flatMap_eq_nil_iff]
    intro file isAfter
    apply elsewhere file
    rw [SourcePath.same_comm]
    exact List.rel_of_pairwise_cons failedFirst isAfter
  rw [List.flatMap_map, List.filter_flatMap, List.flatMap_append, List.flatMap_cons, noneBefore,
    noneAfter, outcome]
  simp [failureFinding]

include anchored carry apart in
/-- In a failed file the report holds the diagnostic of the failure and nothing else. -/
theorem filter_reportOn_in_failed {failed : SourceFile}
    (member : failed ∈ files)
    (isFailed : ¬ engine.HasModel failed)
    {fault : Adapter.Fault}
    (outcome :
      engine.outcomeOf failed =
        { violations := [failureFinding failed.path fault], failed := true })
    (fileCount : Nat) :
    (engine.reportOn fileCount (files.map engine.outcomeOf)).diagnostics.filter
        (fun diagnostic => diagnostic.range.file.same failed.path) =
      [(failureFinding failed.path fault).toDiagnostic] := by
  have noDuplicates :
      (Duplication.detect ((files.map engine.outcomeOf).filterMap (·.fingerprints))
          engine.settings).filter (fun violation => violation.range.file.same failed.path) =
        [] := by
    rw [List.filter_eq_nil_iff]
    intro violation found
    rcases exists_file_of_mem_detect anchored carry found with ⟨file, isFile, hasModel, inFile⟩
    have different := same_eq_false_of_failed apart member isFailed isFile hasModel
    exact SourcePath.not_same_of_different inFile different
  -- Markers lie in files with a model, so none of them reaches the failed file.
  have unsilenced :
      Findings.isSuppressed ((files.map engine.outcomeOf).flatMap (·.suppressions))
        (failureFinding failed.path fault) = false := by
    rw [Bool.eq_false_iff]
    intro silenced
    rw [← suppressions_withModel, Findings.isSuppressed_iff] at silenced
    rcases silenced.2 with ⟨suppression, isMarker, silences⟩
    rcases List.mem_flatMap.mp isMarker with ⟨_, isOutcome, inOutcome⟩
    rcases List.mem_map.mp isOutcome with ⟨file, inGood, rfl⟩
    rcases mem_withModel.mp inGood with ⟨isFile, hasModel⟩
    have inFile := file_same_of_mem_suppressions carry inOutcome
    have inFailed : suppression.scope.file.same failed.path = true :=
      (SourcePath.same_iff _ _).mpr silences.1
    have different := same_eq_false_of_failed apart member isFailed isFile hasModel
    exact SourcePath.not_same_of_different inFile different inFailed
  simp only [reportOn]
  rw [Findings.filter_finish _ _ fun left right same =>
    Diagnostic.file_same_eq_of_sameFinding same failed.path]
  have image (violation : Violation) :
      violation.toDiagnostic.range.file.same failed.path =
        violation.range.file.same failed.path := rfl
  simp only [image, List.filter_append, noDuplicates, List.append_nil,
    filter_violations_in_failed anchored carry apart member outcome,
    Findings.finish_singleton unsilenced]

end Isolation

/-! ## The runs -/

/-- Files without a model do not break down. -/
theorem worksThrough_withModel_iff (engine : Engine) (files : List SourceFile) :
    engine.WorksThrough (engine.withModel files) ↔ engine.WorksThrough files := by
  constructor
  · intro complete file member
    cases analyzed : engine.analyzeFile file with
    | ok outcome => exact ⟨outcome, rfl⟩
    | error breakdown =>
        have hasModel := hasModel_of_analyzeFile_eq_error analyzed
        rw [← analyzed]
        exact complete file (mem_withModel.mpr ⟨member, hasModel⟩)
  · exact fun complete file member => complete file (mem_withModel.mp member).1

/--
The report on some files is that on the files with a model but for one diagnostic in each of the
others.
-/
structure Isolates (engine : Engine) (files : List SourceFile) (report goodReport : Report) :
    Prop where
  failures :
    ∀ file ∈ files, ¬ engine.HasModel file →
      ∃ diagnostic,
        report.diagnostics.filter (fun reported => reported.range.file.same file.path) =
            [diagnostic] ∧
          (engine.IsDefective file → diagnostic.ruleId = modelInvariantId) ∧
          (¬ engine.IsDefective file → diagnostic.ruleId = parseErrorId) ∧
          diagnostic.severity = .high ∧
          diagnostic.range =
            { file := file.path
              span := { startLine := 1, startCol := 1, endLine := 1, endCol := 1 } }
  others :
    report.diagnostics.filter
        (fun diagnostic => decide (¬ engine.InFailedFile files diagnostic)) =
      goodReport.diagnostics
  counted :
    report.filesFailed = (files.filter fun file => decide (¬ engine.HasModel file)).length

/--
Files without a model stay apart from the others.  For files with pairwise different paths and calls
that nobody cancels, each file without a model has exactly one diagnostic, which says why and stands
at the start of the file; the other diagnostics are those of the call on the files with a model, in
the same order; and the report counts the files without a model.  Without workers, or where a file
with a model breaks down, neither call yields a report, and both end alike.
-/
theorem analyze_isolates_failed_files
    (engine : Engine)
    (rules : engine.registry = Registry.builtin)
    (carry : ∀ entry ∈ engine.adapters.entries, entry.2.CarriesPath)
    (files : List SourceFile)
    (apart : files.Pairwise fun left right => left.path.same right.path = false)
    (undisturbed : ∀ file ∈ files, engine.cancelsAt file = false) :
    (∃ report goodReport,
        engine.analyze false files = (some (.ok report), false) ∧
          engine.analyze false (engine.withModel files) = (some (.ok goodReport), false) ∧
          engine.Isolates files report goodReport) ∨
      engine.analyze false files = engine.analyze false (engine.withModel files) ∧
        (engine.poolFault? ≠ none ∨
          ∃ file ∈ engine.withModel files, ∃ breakdown,
            engine.analyzeFile file = .error breakdown) := by
  have anchored : ∀ rule ∈ engine.registry.rules, rule.IsAnchored := by
    intro rule member
    rw [rules] at member
    exact Rule.isAnchored_of_mem_builtin (Registry.mem_builtin member)
  have goodUndisturbed : ∀ file ∈ engine.withModel files, engine.cancelsAt file = false :=
    fun file member => undisturbed file (mem_withModel.mp member).1
  cases pool : engine.poolFault? with
  | some reason =>
      right
      rw [analyze_eq_run_never undisturbed, analyze_eq_run_never goodUndisturbed,
        run_never_of_poolFault pool, run_never_of_poolFault pool]
      exact ⟨rfl, Or.inl (by simp)⟩
  | none =>
      by_cases complete : engine.WorksThrough files
      · left
        have goodComplete := (worksThrough_withModel_iff engine files).mpr complete
        refine ⟨_, _, analyze_eq_ok undisturbed pool complete,
          analyze_eq_ok goodUndisturbed pool goodComplete, ?_, ?_, ?_⟩
        · intro file member isFailed
          rcases exists_outcomeOf_eq_of_not_hasModel isFailed with ⟨fault, faulty, outcome⟩
          refine ⟨(failureFinding file.path fault).toDiagnostic, ?_, ?_, ?_, rfl, rfl⟩
          · exact filter_reportOn_in_failed anchored carry apart member isFailed outcome _
          · intro isDefective
            rcases isDefective_iff.mp isDefective with ⟨defect, isDefect⟩
            rw [faulty] at isDefect
            cases isDefect
            rfl
          · intro notDefective
            cases fault with
            | defective defect => exact absurd (isDefective_iff.mpr ⟨defect, faulty⟩) notDefective
            | _ => rfl
        · exact filter_reportOn_not_inFailedFile anchored carry apart _ _
        · rw [← List.countP_eq_length_filter, reportOn, List.countP_map]
          apply List.countP_congr
          intro file _
          rw [Function.comp_apply, failed_outcomeOf_eq]
      · right
        have goodBroken := mt (worksThrough_withModel_iff engine files).mp complete
        rw [analyze_eq_run_never undisturbed, analyze_eq_run_never goodUndisturbed,
          run_never_of_not_worksThrough pool complete,
          run_never_of_not_worksThrough pool goodBroken]
        exact ⟨rfl, Or.inr (exists_breakdown_of_not_worksThrough goodBroken)⟩

/-- The document of an empty module and of a function that hangs nowhere. -/
def looseDocument : String :=
  "[null, 0, [[0, \"Module\", [1, 1, 2, 9], []], [1, \"Function\", [1, 1, 2, 9], [], [], \"f\"]]]"

theorem readDocument_looseDocument (explain : String → String) :
    Adapter.readDocument explain looseDocument { text := "src/b.json" } =
      .invalid (.orphan { index := 1 }) := by
  cbv

/-- A sound document, a document with a loose node, and a file that no adapter reads. -/
theorem analyze_isolates_two_of_three_files :
    let good : SourceFile :=
      { path := { text := "src/a.json" }, contents := attachedDocument }
    let broken : SourceFile :=
      { path := { text := "src/b.json" }, contents := looseDocument }
    let unread : SourceFile := { path := { text := "src/c.txt" }, contents := "" }
    ∃ engine report goodReport,
      configure {} Registry.builtin (AdapterSet.builtin Adapter.silent) {} = .ok engine ∧
        engine.analyze false [unread, good, broken] = (some (.ok report), false) ∧
        engine.analyze false [good] = (some (.ok goodReport), false) ∧
        (report.diagnostics.filter (·.range.file.same unread.path)).map (·.ruleId) =
          [parseErrorId] ∧
        (report.diagnostics.filter (·.range.file.same broken.path)).map (·.ruleId) =
          [modelInvariantId] ∧
        report.diagnostics.filter
            (fun diagnostic =>
              decide (¬ engine.InFailedFile [unread, good, broken] diagnostic)) =
          goodReport.diagnostics ∧
        report.filesFailed = 2 := by
  intro good broken unread
  rcases exists_configure_default with ⟨engine, configured⟩
  rcases of_configure_eq_ok configured with ⟨_, rules, adapters, _⟩
  have hasModel : engine.HasModel good := by
    rw [hasModel_iff, modelOf_of_builtin adapters (by decide +kernel),
      readDocument_attachedDocument]
    exact ⟨_, rfl⟩
  have isDefective : engine.IsDefective broken := by
    rw [isDefective_iff, modelOf_of_builtin adapters (by decide +kernel),
      readDocument_looseDocument]
    exact ⟨_, rfl⟩
  have withoutModel := isDefective.not_hasModel
  have withoutAdapter : engine.adapters.forPath? unread.path = none := by
    rw [adapters]
    decide +kernel
  have unreadable : engine.modelOf unread = .error (.noAdapter unread.path) := by
    rw [modelOf, withoutAdapter]
  have neither : ¬ engine.HasModel unread ∧ ¬ engine.IsDefective unread := by
    simp [hasModel_iff, isDefective_iff, unreadable]
  have onlyGood : engine.withModel [unread, good, broken] = [good] := by
    rw [withModel, List.filter_cons_of_neg (by simpa using neither.1),
      List.filter_cons_of_pos (by simpa using hasModel),
      List.filter_cons_of_neg (by simpa using withoutModel), List.filter_nil]
  have carry : ∀ entry ∈ engine.adapters.entries, entry.2.CarriesPath := by
    rw [adapters]
    exact AdapterSet.forall_mem_builtin (Adapter.modelDocument_carriesPath _)
  rcases analyze_isolates_failed_files engine rules carry [unread, good, broken] (by decide)
      (fun file _ => cancelsAt_eq_false_of_builtin adapters file) with
    ⟨report, goodReport, ran, ranGood, isolated⟩ | ⟨_, fault | ⟨file, member, breakdown, stuck⟩⟩
  · rw [onlyGood] at ranGood
    refine ⟨engine, report, goodReport, configured, ran, ranGood, ?_, ?_, isolated.others, ?_⟩
    · rcases isolated.failures unread (by simp) neither.1 with
        ⟨diagnostic, alone, _, notDefective, _⟩
      rw [alone, List.map_singleton, notDefective neither.2]
    · rcases isolated.failures broken (by simp) withoutModel with ⟨diagnostic, alone, defective, _⟩
      rw [alone, List.map_singleton, defective isDefective]
    · rw [isolated.counted, List.filter_cons_of_pos (by simpa using neither.1),
        List.filter_cons_of_neg (by simpa using hasModel),
        List.filter_cons_of_pos (by simpa using withoutModel), List.filter_nil]
      rfl
  · exact absurd (poolFault?_eq_none configured) fault
  · rw [onlyGood] at member
    rw [List.mem_singleton.mp member] at stuck
    rcases exists_analyzeFile_attachedDocument_eq_ok rules adapters good.path
        (by decide +kernel) with ⟨outcome, analyzed⟩
    rw [stuck] at analyzed
    cases analyzed

end Engine

end StructuralLint
