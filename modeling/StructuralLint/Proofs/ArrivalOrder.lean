import Mathlib
import StructuralLint.Engine
import StructuralLint.Proofs.Dispatch
import StructuralLint.Proofs.DuplicationOrder
import StructuralLint.Proofs.Ingestion
import StructuralLint.Proofs.Merging

/-!
# Reports and the order of files

A run over files with pairwise different paths ends in the same way in whatever order the files come
in.  Its report is missing when some file breaks down, which does not depend on the others.
Otherwise, what a file contributes lies in that file, so diagnostics of different files are never
level, and a rearrangement of the files keeps every class of level diagnostics.  The findings on
duplication are the same list for every order, and what markers silence does not depend on the order
of the markers.
-/

namespace StructuralLint

/-! ## Contributions of one file -/

/-- The models that an adapter obtains carry the path of the file. -/
def Adapter.CarriesPath (adapter : Adapter) : Prop :=
  ∀ contents path model,
    (adapter.attempt contents path).outcome = .parsed model → model.path.same path = true

theorem Adapter.Outcome.toModel_eq_ok_iff {outcome : Outcome} {adapter : String}
    {path : SourcePath} {model : Model} :
    outcome.toModel adapter path = .ok model ↔ outcome = .parsed model := by
  cases outcome <;> simp [Outcome.toModel]

theorem Adapter.CarriesPath.same_of_parse_eq_ok {adapter : Adapter}
    (carries : adapter.CarriesPath)
    {contents : String} {path : SourcePath} {limit : Nat} {model : Model}
    (parsed : adapter.parse contents path limit = .ok model) :
    model.path.same path = true := by
  simp only [Adapter.parse] at parsed
  split at parsed
  · cases parsed
  · exact carries contents path model (Adapter.Outcome.toModel_eq_ok_iff.mp parsed)

/-- The adapter for a path is one of those that were registered. -/
theorem AdapterSet.exists_entry_of_forPath?_eq_some {adapters : AdapterSet} {path : SourcePath}
    {adapter : Adapter}
    (found : adapters.forPath? path = some adapter) :
    ∃ entry ∈ adapters.entries, entry.2 = adapter := by
  simp only [AdapterSet.forPath?, Option.bind_eq_bind, Option.bind_eq_some_iff] at found
  rcases found with ⟨_, _, found⟩
  rcases List.exists_of_findSome?_eq_some found with ⟨_, _, found⟩
  rcases Option.map_eq_some_iff.mp found with ⟨entry, isEntry, equal⟩
  exact ⟨entry, List.mem_of_find?_eq_some isEntry, equal⟩

/-- Registering an adapter adds entries for that adapter only. -/
theorem AdapterSet.mem_entries_register {adapters : AdapterSet} {adapter : Adapter}
    {entry : String × Adapter}
    (member : entry ∈ (adapters.register adapter).entries) :
    entry.2 = adapter ∨ entry ∈ adapters.entries := by
  simp only [AdapterSet.register] at member
  generalize adapters.entries = entries at member ⊢
  generalize adapter.extensions = endings at member
  induction endings generalizing entries with
  | nil => exact Or.inr member
  | cons ending rest induction =>
      rw [List.foldl_cons] at member
      rcases induction _ member with added | present
      · exact Or.inl added
      · rcases List.mem_cons.mp present with equal | kept
        · exact Or.inl (by rw [equal])
        · exact Or.inr (List.mem_filter.mp kept).1

/-- The library has one adapter, under all its endings. -/
theorem AdapterSet.eq_modelDocument_of_mem_builtin {explain : String → String}
    {entry : String × Adapter}
    (member : entry ∈ (AdapterSet.builtin explain).entries) :
    entry.2 = Adapter.modelDocument explain := by
  rcases AdapterSet.mem_entries_register member with equal | earlier
  · exact equal
  · cases earlier

theorem AdapterSet.forall_mem_builtin {explain : String → String} {holds : Adapter → Prop}
    (holdsOf : holds (Adapter.modelDocument explain)) :
    ∀ entry ∈ (AdapterSet.builtin explain).entries, holds entry.2 := by
  intro entry member
  rw [eq_modelDocument_of_mem_builtin member]
  exact holdsOf

/-- The models of model documents carry the path of the file. -/
theorem Adapter.modelDocument_carriesPath (explain : String → String) :
    (Adapter.modelDocument explain).CarriesPath := by
  intro contents path model parsed
  simp only [Adapter.modelDocument, Adapter.readDocument] at parsed
  split at parsed
  · cases parsed
  · split at parsed
    next document _ obtained accepted =>
      cases parsed
      rw [Model.eq_linked_of_ingest accepted]
      exact (SourcePath.same_iff path path).mpr rfl
    next => cases parsed

theorem Duplication.Fingerprints.ofModel_isLocal (model : Model) (minStatements : Nat) :
    (Duplication.Fingerprints.ofModel model minStatements).IsLocal where
  candidates := by
    intro candidate member
    rcases List.mem_filterMap.mp member with ⟨node, _, found⟩
    simp only [Duplication.candidate?, Option.bind_eq_bind, Option.bind_eq_some_iff,
      Option.pure_def, Option.some.injEq] at found
    rcases found with ⟨_, _, _, _, rfl⟩
    rfl
  chains := by
    intro chain member
    rcases List.mem_filterMap.mp member with ⟨node, _, found⟩
    simp only [Duplication.chain?, Option.bind_eq_bind, Option.bind_eq_some_iff,
      Option.pure_def, Option.some.injEq] at found
    rcases found with ⟨_, _, _, _, rfl⟩
    rfl

namespace Engine

/-- What a file contributes lies in the file with a path. -/
structure FileOutcome.LiesIn (outcome : FileOutcome) (path : SourcePath) : Prop where
  violations : ∀ violation ∈ outcome.violations, violation.range.file.same path = true
  fingerprints :
    ∀ fingerprints, outcome.fingerprints = some fingerprints →
      fingerprints.IsLocal ∧ fingerprints.path.same path = true

/-- What a model contributes: the violations, and the rest whether or not rules are on. -/
theorem analyzeModel_eq_ok_iff {engine : Engine} {adapter : Adapter} {model : Model}
    {outcome : FileOutcome} :
    engine.analyzeModel adapter model = .ok outcome ↔
      ∃ file violations,
        Registry.File.ofModel adapter model = .ok file ∧
          engine.registry.evaluate engine.settings file = .ok violations ∧
          outcome =
            { violations := violations ++ (Suppression.collect model engine.settings).2
              suppressions := (Suppression.collect model engine.settings).1
              fingerprints :=
                if engine.comparesFiles then
                  some (.ofModel model engine.settings.minDuplicateStatements)
                else none } := by
  simp only [analyzeModel, bind_eq_ok_iff, pure_eq_ok, Except.ok.injEq, @eq_comm _ outcome,
    exists_and_left]

/--
The violations in a file: the failure to obtain a model, or what rules find in the model and the
unknown names in its markers.
-/
theorem mem_violations_iff {engine : Engine} {source : SourceFile} {outcome : FileOutcome}
    (analyzed : engine.analyzeFile source = .ok outcome)
    {violation : Violation} :
    violation ∈ outcome.violations ↔
      (∃ fault,
        engine.modelOf source = .error fault ∧ violation = failureFinding source.path fault) ∨
        ∃ adapter model,
          engine.modelOf source = .ok (adapter, model) ∧
            ((∃ file violations,
              Registry.File.ofModel adapter model = .ok file ∧
                engine.registry.evaluate engine.settings file = .ok violations ∧
                violation ∈ violations) ∨
              violation ∈ (Suppression.collect model engine.settings).2) := by
  rw [analyzeFile] at analyzed
  cases obtained : engine.modelOf source with
  | error fault =>
      rw [obtained] at analyzed
      cases analyzed
      simp
  | ok found =>
      rcases found with ⟨adapter, model⟩
      rw [obtained] at analyzed
      rcases analyzeModel_eq_ok_iff.mp analyzed with ⟨file, violations, isFile, evaluated, rfl⟩
      have only :
          (∃ other listed,
            Registry.File.ofModel adapter model = .ok other ∧
              engine.registry.evaluate engine.settings other = .ok listed ∧
              violation ∈ listed) ↔ violation ∈ violations := by
        constructor
        · rintro ⟨other, listed, isOther, evaluatedOther, member⟩
          cases isFile.symm.trans isOther
          cases evaluated.symm.trans evaluatedOther
          exact member
        · intro member
          exact ⟨file, violations, isFile, evaluated, member⟩
      have ofModel {holds : Adapter → Model → Prop} :
          (∃ chosen parsed,
            (Except.ok (adapter, model) : Except Adapter.Fault (Adapter × Model)) =
                .ok (chosen, parsed) ∧ holds chosen parsed) ↔ holds adapter model := by
        simp
      rw [ofModel, only, List.mem_append]
      simp

/-- What a model contributes lies in the file of the model. -/
theorem analyzeModel_liesIn {engine : Engine}
    (anchored : ∀ rule ∈ engine.registry.rules, rule.IsAnchored)
    {adapter : Adapter} {model : Model} {outcome : FileOutcome}
    (analyzed : engine.analyzeModel adapter model = .ok outcome)
    {path : SourcePath}
    (same : model.path.same path = true) :
    outcome.LiesIn path := by
  rcases analyzeModel_eq_ok_iff.mp analyzed with ⟨file, found, isFile, evaluated, rfl⟩
  constructor
  · intro violation member
    rcases List.mem_append.mp member with inFile | unknown
    · rcases (Registry.evaluate_anchoredIn anchored evaluated inFile).anchor with ⟨_, _, _, atNode⟩
      rw [atNode, Registry.File.model_of_ofModel_eq_ok isFile]
      exact same
    · rcases List.mem_flatMap.mp unknown with ⟨⟨comment, names⟩, _, unknown⟩
      simp only [Suppression.unknownNames, List.mem_ite_nil_left, List.mem_map] at unknown
      rcases unknown with ⟨_, _, _, rfl⟩
      exact same
  · intro fingerprints taken
    simp only [Option.ite_none_right_eq_some, Option.some.injEq] at taken
    rw [← taken.2]
    exact ⟨Duplication.Fingerprints.ofModel_isLocal model _, same⟩

theorem path_same_of_modelOf_eq_ok {engine : Engine}
    (carry : ∀ entry ∈ engine.adapters.entries, entry.2.CarriesPath)
    {file : SourceFile} {adapter : Adapter} {model : Model}
    (obtained : engine.modelOf file = .ok (adapter, model)) :
    model.path.same file.path = true := by
  rw [modelOf] at obtained
  split at obtained
  next => cases obtained
  next chosen found =>
    rcases AdapterSet.exists_entry_of_forPath?_eq_some found with ⟨entry, isEntry, rfl⟩
    rcases bind_eq_ok_iff.mp obtained with ⟨parsedModel, parsed, equal⟩
    cases equal
    exact (carry entry isEntry).same_of_parse_eq_ok parsed

/-- What a file contributes to a run, nothing where it breaks down. -/
def outcomeOf (engine : Engine) (file : SourceFile) : FileOutcome :=
  match engine.analyzeFile file with
  | .ok outcome => outcome
  | .error _ => { violations := [] }

/-- None of some files breaks down. -/
def WorksThrough (engine : Engine) (files : List SourceFile) : Prop :=
  ∀ file ∈ files, ∃ outcome, engine.analyzeFile file = .ok outcome

theorem WorksThrough.analyzeFile_eq {engine : Engine} {files : List SourceFile}
    (complete : engine.WorksThrough files)
    {file : SourceFile}
    (member : file ∈ files) :
    engine.analyzeFile file = .ok (engine.outcomeOf file) := by
  rcases complete file member with ⟨outcome, analyzed⟩
  rw [outcomeOf, analyzed]

theorem exists_breakdown_of_not_worksThrough {engine : Engine} {files : List SourceFile}
    (broken : ¬ engine.WorksThrough files) :
    ∃ file ∈ files, ∃ breakdown, engine.analyzeFile file = .error breakdown := by
  simp only [WorksThrough, not_forall] at broken
  rcases broken with ⟨file, member, missing⟩
  cases analyzed : engine.analyzeFile file with
  | ok outcome => exact absurd ⟨outcome, analyzed⟩ missing
  | error breakdown => exact ⟨file, member, breakdown, analyzed⟩

/-- What a file contributes lies in that file, also when no model is obtained of it. -/
theorem outcomeOf_liesIn {engine : Engine}
    (anchored : ∀ rule ∈ engine.registry.rules, rule.IsAnchored)
    (carry : ∀ entry ∈ engine.adapters.entries, entry.2.CarriesPath)
    (file : SourceFile) :
    (engine.outcomeOf file).LiesIn file.path := by
  rw [outcomeOf]
  split
  next outcome analyzed =>
    rw [analyzeFile] at analyzed
    split at analyzed
    next fault _ =>
      cases analyzed
      constructor
      · intro violation member
        rw [List.mem_singleton.mp member]
        exact (SourcePath.same_iff file.path file.path).mpr rfl
      · nofun
    next adapter model obtained =>
      exact analyzeModel_liesIn anchored analyzed (path_same_of_modelOf_eq_ok carry obtained)
  next => exact ⟨nofun, nofun⟩

/-! ## The report -/

section Rearrangement

variable {files permuted : List SourceFile} {outcome : SourceFile → FileOutcome}
  (perm : files.Perm permuted)
  (apart : files.Pairwise fun left right => left.path.same right.path = false)
  (liesIn : ∀ file ∈ files, (outcome file).LiesIn file.path)

include perm apart liesIn

/-- The findings on duplication do not depend on the order of the files. -/
theorem detect_map_eq_of_perm (settings : ResolvedSettings) :
    Duplication.detect ((files.map outcome).filterMap (·.fingerprints)) settings =
      Duplication.detect ((permuted.map outcome).filterMap (·.fingerprints)) settings := by
  apply Duplication.detect_eq_of_perm ((perm.map outcome).filterMap _)
  · intro fingerprints member
    simp only [List.mem_filterMap, List.mem_map] at member
    rcases member with ⟨_, ⟨file, isFile, rfl⟩, taken⟩
    exact ((liesIn file isFile).fingerprints fingerprints taken).1
  · rw [List.pairwise_filterMap, List.pairwise_map]
    refine apart.imp_of_mem ?_
    intro left right leftFile rightFile different first firstTaken second secondTaken
    exact SourcePath.same_eq_false_of_same different
      ((liesIn left leftFile).fingerprints first firstTaken).2
      ((liesIn right rightFile).fingerprints second secondTaken).2

/-- A rearrangement of the files keeps every class of level diagnostics. -/
theorem sameLevels_unsilenced_of_perm (duplicates : List Violation) :
    SameLevels Diagnostic.order
      (Findings.unsilenced
        { violations := (files.map outcome).flatMap (·.violations) ++ duplicates
          suppressions := (files.map outcome).flatMap (·.suppressions) })
      (Findings.unsilenced
        { violations := (permuted.map outcome).flatMap (·.violations) ++ duplicates
          suppressions := (permuted.map outcome).flatMap (·.suppressions) }) := by
  have silence := Findings.isSuppressed_eq_of_perm
    ((perm.map outcome).flatMap_right fun outcome => outcome.suppressions)
  simp only [Findings.unsilenced, silence]
  simp only [List.filter_append, List.map_append, List.filter_flatMap, List.map_flatMap,
    List.flatMap_map]
  apply SameLevels.append_right
  apply sameLevels_flatMap_of_perm Diagnostic.order perm
  refine apart.imp_of_mem ?_
  intro left right leftFile rightFile different first firstMember second secondMember
  rcases List.mem_map.mp firstMember with ⟨leftViolation, leftKept, rfl⟩
  rcases List.mem_map.mp secondMember with ⟨rightViolation, rightKept, rfl⟩
  apply Diagnostic.order_ne_eq_of_files
  exact SourcePath.same_eq_false_of_same different
    ((liesIn left leftFile).violations leftViolation (List.mem_filter.mp leftKept).1)
    ((liesIn right rightFile).violations rightViolation (List.mem_filter.mp rightKept).1)

/-- The report on what some files contributed does not depend on the order of the files. -/
theorem reportOn_eq_of_perm (engine : Engine) :
    engine.reportOn files.length (files.map outcome) =
      engine.reportOn permuted.length (permuted.map outcome) := by
  have duplicates := detect_map_eq_of_perm perm apart liesIn engine.settings
  have levels := sameLevels_unsilenced_of_perm perm apart liesIn
    (Duplication.detect ((permuted.map outcome).filterMap (·.fingerprints)) engine.settings)
  have diagnostics := Findings.finish_eq_of_sameLevels levels
  simp only [reportOn, duplicates, diagnostics, perm.length_eq, (perm.map outcome).countP_eq]

end Rearrangement

/-! ## Runs that nobody cancels -/

theorem outcomes_never (engine : Engine) (files : List SourceFile) :
    engine.outcomes .never files =
      gather (fun file => (engine.analyzeFile file).map ([·])) files := by
  let contributed (file : SourceFile) := (engine.analyzeFile file).map ([·])
  calc engine.outcomes .never files
    _ = gather (fun entry => contributed entry.1) files.zipIdx := gather_congr fun _ _ => rfl
    _ = gather contributed (files.zipIdx.map Prod.fst) := (gather_map Prod.fst files.zipIdx).symm
    _ = gather contributed files := by rw [List.zipIdx_map_fst]

theorem outcomes_never_eq_ok {engine : Engine} {files : List SourceFile}
    (complete : engine.WorksThrough files) :
    engine.outcomes .never files = .ok (files.map engine.outcomeOf) := by
  rw [outcomes_never, List.map_eq_flatMap]
  apply gather_eq_ok
  intro file member
  rw [complete.analyzeFile_eq member]
  rfl

theorem worksThrough_of_outcomes_never_eq_ok {engine : Engine} {files : List SourceFile}
    {outcomes : List FileOutcome}
    (gathered : engine.outcomes .never files = .ok outcomes) :
    engine.WorksThrough files := by
  rw [outcomes_never] at gathered
  intro file member
  rcases (gather_eq_ok_iff.mp gathered).1 file member with ⟨part, isPart⟩
  cases analyzed : engine.analyzeFile file with
  | ok outcome => exact ⟨outcome, rfl⟩
  | error breakdown =>
      rw [analyzed] at isPart
      cases isPart

/-- Without workers a run that nobody cancels ends at once. -/
theorem run_never_of_poolFault {engine : Engine} {reason : String}
    (fault : engine.poolFault? = some reason)
    (files : List SourceFile) :
    engine.run .never files = some (.error (.noPool reason)) := by
  simp [run, Cancellation.never, fault]

/-- When no file breaks down, all files are analyzed and reported on. -/
theorem run_never_of_worksThrough {engine : Engine} {files : List SourceFile}
    (pool : engine.poolFault? = none)
    (complete : engine.WorksThrough files) :
    engine.run .never files =
      some (.ok (engine.reportOn files.length (files.map engine.outcomeOf))) := by
  have gathered := outcomes_never_eq_ok complete
  simp only [run, pool, gathered]
  rfl

/-- A file that breaks down keeps a run from its end. -/
theorem run_never_of_not_worksThrough {engine : Engine} {files : List SourceFile}
    (pool : engine.poolFault? = none)
    (broken : ¬ engine.WorksThrough files) :
    engine.run .never files = none := by
  cases gathered : engine.outcomes .never files with
  | ok outcomes => exact absurd (worksThrough_of_outcomes_never_eq_ok gathered) broken
  | error breakdown =>
      simp only [run, pool, gathered]
      rfl

/-- When no adapter cancels, the checks of a run see no cancellation. -/
theorem Cancellation.during_eq_never {engine : Engine} {files : List SourceFile}
    (undisturbed : ∀ file ∈ files, engine.cancelsAt file = false) :
    Cancellation.during engine false files = .never := by
  have noneCancels (count : Nat) : (files.take count).any engine.cancelsAt = false := by
    rw [List.any_eq_false]
    intro file member
    rw [undisturbed file (List.mem_of_mem_take member)]
    decide
  simp only [Cancellation.during, Cancellation.never, noneCancels, Bool.or_false, Bool.and_false]

theorem analyze_eq_run_never {engine : Engine} {files : List SourceFile}
    (undisturbed : ∀ file ∈ files, engine.cancelsAt file = false) :
    engine.analyze false files = (engine.run .never files, false) := by
  rw [analyze, Cancellation.during_eq_never undisturbed]
  rfl

/-- When nobody cancels and no file breaks down, all files are analyzed and reported on. -/
theorem analyze_eq_ok {engine : Engine} {files : List SourceFile}
    (undisturbed : ∀ file ∈ files, engine.cancelsAt file = false)
    (pool : engine.poolFault? = none)
    (complete : engine.WorksThrough files) :
    engine.analyze false files =
      (some (.ok (engine.reportOn files.length (files.map engine.outcomeOf))), false) := by
  rw [analyze_eq_run_never undisturbed, run_never_of_worksThrough pool complete]

/--
A file breaks down with the rules of the library only where a function has too many lines to count
or the rule on redundant comments never ends at a comment.
-/
theorem exists_analyzeFile_eq_ok {engine : Engine} {source : SourceFile} {adapter : Adapter}
    {model : Model} {file : Registry.File}
    (rules : engine.registry = Registry.builtin)
    (obtained : engine.modelOf source = .ok (adapter, model))
    (isFile : Registry.File.ofModel adapter model = .ok file)
    (ends :
      ∀ node ∈ model.nodes, node.kind = .comment →
        ∀ context, Registry.context? engine.settings file Rule.redundantComment = some context →
          Rule.redundantComment.evaluate context node ≠ .error .endless) :
    ∃ outcome, engine.analyzeFile source = .ok outcome := by
  rw [analyzeFile, obtained]
  cases evaluated : engine.registry.evaluate engine.settings file with
  | ok violations =>
      exact ⟨_, analyzeModel_eq_ok_iff.mpr ⟨file, violations, isFile, evaluated, rfl⟩⟩
  | error breakdown =>
      rw [rules] at evaluated
      rcases Registry.exists_endless_comment_of_evaluate_eq_error evaluated with
        ⟨_, node, member, isComment, context, on, endless⟩
      rw [Registry.File.model_of_ofModel_eq_ok isFile] at member
      exact absurd endless (ends node member isComment context on)

/-- The adapter of the library never cancels a run. -/
theorem cancelsAt_eq_false_of_builtin {engine : Engine} {explain : String → String}
    (adapters : engine.adapters = AdapterSet.builtin explain)
    (file : SourceFile) :
    engine.cancelsAt file = false := by
  rw [cancelsAt, adapters]
  split
  next adapter found =>
    rcases AdapterSet.exists_entry_of_forPath?_eq_some found with ⟨entry, isEntry, rfl⟩
    rw [AdapterSet.eq_modelDocument_of_mem_builtin isEntry]
    rfl
  next => rfl

/--
Files with pairwise different paths can be analyzed in any order: when nobody cancels, the call on a
list of them and the call on every permutation of that list end alike.  Both yield the same report,
unless there are no workers or a file breaks down.
-/
theorem analyze_perm
    (engine : Engine)
    (rules : engine.registry = Registry.builtin)
    (carry : ∀ entry ∈ engine.adapters.entries, entry.2.CarriesPath)
    (files permuted : List SourceFile)
    (perm : files.Perm permuted)
    (apart : files.Pairwise fun left right => left.path.same right.path = false)
    (undisturbed : ∀ file ∈ files, engine.cancelsAt file = false) :
    engine.analyze false files = engine.analyze false permuted ∧
      ((∃ report, engine.analyze false files = (some (.ok report), false)) ∨
        engine.poolFault? ≠ none ∨
        ∃ file ∈ files, ∃ breakdown, engine.analyzeFile file = .error breakdown) := by
  have anchored : ∀ rule ∈ engine.registry.rules, rule.IsAnchored := by
    intro rule member
    rw [rules] at member
    exact Rule.isAnchored_of_mem_builtin (Registry.mem_builtin member)
  have liesIn : ∀ file ∈ files, (engine.outcomeOf file).LiesIn file.path :=
    fun file _ => outcomeOf_liesIn anchored carry file
  have permutedUndisturbed : ∀ file ∈ permuted, engine.cancelsAt file = false :=
    fun file member => undisturbed file (perm.mem_iff.mpr member)
  have alike : engine.WorksThrough permuted ↔ engine.WorksThrough files :=
    forall_congr' fun file => by rw [perm.mem_iff]
  rw [analyze_eq_run_never undisturbed, analyze_eq_run_never permutedUndisturbed]
  cases pool : engine.poolFault? with
  | some reason =>
      rw [run_never_of_poolFault pool, run_never_of_poolFault pool]
      exact ⟨rfl, Or.inr (Or.inl (by simp))⟩
  | none =>
      by_cases complete : engine.WorksThrough files
      · rw [run_never_of_worksThrough pool complete,
          run_never_of_worksThrough pool (alike.mpr complete),
          reportOn_eq_of_perm perm apart liesIn]
        exact ⟨rfl, Or.inl ⟨_, rfl⟩⟩
      · rw [run_never_of_not_worksThrough pool complete,
          run_never_of_not_worksThrough pool (mt alike.mp complete)]
        exact ⟨rfl, Or.inr (Or.inr (exists_breakdown_of_not_worksThrough complete))⟩

/-! ## Engines of the library -/

theorem of_configure_eq_ok {machine : Machine} {registry : Registry} {adapters : AdapterSet}
    {settings : Settings} {engine : Engine}
    (configured : configure machine registry adapters settings = .ok engine) :
    engine.machine = machine ∧ engine.registry = registry ∧ engine.adapters = adapters ∧
      settings.resolve machine registry.catalog = .ok engine.settings := by
  rcases bind_eq_ok_iff.mp configured with ⟨resolved, isResolved, equal⟩
  cases equal
  exact ⟨rfl, rfl, rfl, isResolved⟩

theorem exists_configure_default :
    ∃ engine,
      configure {} Registry.builtin (AdapterSet.builtin Adapter.silent) {} = .ok engine :=
  ⟨_, rfl⟩

/-- A machine that can start workers lets an engine start them. -/
theorem poolFault?_eq_none {registry : Registry} {adapters : AdapterSet} {settings : Settings}
    {engine : Engine}
    (configured : configure {} registry adapters settings = .ok engine) :
    engine.poolFault? = none := by
  rw [poolFault?, (of_configure_eq_ok configured).1]

/-- The engine with the adapter of the library obtains what the text of a document stands for. -/
theorem modelOf_of_builtin {engine : Engine} {explain : String → String} {file : SourceFile}
    (adapters : engine.adapters = AdapterSet.builtin explain)
    (chosen : ((AdapterSet.builtin explain).forPath? file.path).isSome = true) :
    engine.modelOf file =
      ((Adapter.readDocument explain file.contents file.path).toModel
        (Adapter.modelDocument explain).name file.path).map
        fun model => (Adapter.modelDocument explain, model) := by
  rcases Option.isSome_iff_exists.mp chosen with ⟨adapter, found⟩
  rcases AdapterSet.exists_entry_of_forPath?_eq_some found with ⟨entry, isEntry, rfl⟩
  rw [AdapterSet.eq_modelDocument_of_mem_builtin isEntry] at found
  rw [modelOf, adapters, found]
  simp only [Adapter.parse, Adapter.modelDocument, Nat.not_lt_zero, if_false]
  cases (Adapter.readDocument explain file.contents file.path) <;> rfl

/-- The document of a module that holds a function. -/
def attachedDocument : String :=
  "[null, 0, [[0, \"Module\", [1, 1, 2, 9], [1]], [1, \"Function\", [1, 1, 2, 9], [], [], \"f\"]]]"

/-- The model of the document. -/
def attachedModel (path : SourcePath) : Model :=
  .linked
    { path
      root := { index := 0 }
      lineCount := none
      nodes :=
        [{ id := { index := 0 }
           kind := .module
           span := { startLine := 1, startCol := 1, endLine := 2, endCol := 9 }
           children := [{ index := 1 }] },
          { id := { index := 1 }
            kind := .function
            span := { startLine := 1, startCol := 1, endLine := 2, endCol := 9 }
            name := some "f" }] }

theorem readDocument_attachedDocument (explain : String → String) (path : SourcePath) :
    Adapter.readDocument explain attachedDocument path = .parsed (attachedModel path) := by
  cbv

/-- The document does not break down. -/
theorem exists_analyzeFile_attachedDocument_eq_ok {engine : Engine} {explain : String → String}
    (rules : engine.registry = Registry.builtin)
    (adapters : engine.adapters = AdapterSet.builtin explain)
    (path : SourcePath)
    (chosen : ((AdapterSet.builtin explain).forPath? path).isSome = true) :
    ∃ outcome, engine.analyzeFile { path, contents := attachedDocument } = .ok outcome := by
  let source : SourceFile := { path, contents := attachedDocument }
  have isFile :
      Registry.File.ofModel (.modelDocument explain) (attachedModel path) = .ok _ := rfl
  have noComment : ∀ node ∈ (attachedModel path).nodes, node.kind ≠ .comment := by
    simp [attachedModel]
  have obtained :
      engine.modelOf source = .ok (.modelDocument explain, attachedModel path) := by
    rw [@modelOf_of_builtin engine explain source adapters chosen, readDocument_attachedDocument]
    rfl
  refine exists_analyzeFile_eq_ok rules obtained isFile ?_
  intro node member isComment
  exact absurd isComment (noComment node member)

/-- Two model documents and a file that no adapter reads, in two orders. -/
theorem analyze_perm_three_files :
    let first : SourceFile := { path := { text := "src/b.json" }, contents := attachedDocument }
    let second : SourceFile := { path := { text := "src/a.json" }, contents := attachedDocument }
    let third : SourceFile := { path := { text := "src/c.txt" }, contents := "" }
    ∃ engine report,
      configure {} Registry.builtin (AdapterSet.builtin Adapter.silent) {} = .ok engine ∧
        engine.analyze false [first, second, third] = (some (.ok report), false) ∧
        engine.analyze false [second, third, first] = (some (.ok report), false) := by
  intro first second third
  rcases exists_configure_default with ⟨engine, configured⟩
  rcases of_configure_eq_ok configured with ⟨_, rules, adapters, _⟩
  have carry : ∀ entry ∈ engine.adapters.entries, entry.2.CarriesPath := by
    rw [adapters]
    exact AdapterSet.forall_mem_builtin (Adapter.modelDocument_carriesPath _)
  have perm : ([first] ++ [second, third]).Perm ([second, third] ++ [first]) :=
    List.perm_append_comm
  have undisturbed : ∀ file ∈ [first, second, third], engine.cancelsAt file = false :=
    fun file _ => cancelsAt_eq_false_of_builtin adapters file
  rcases analyze_perm engine rules carry [first, second, third] [second, third, first] perm
      (by decide) undisturbed with
    ⟨alike, ⟨report, analyzed⟩ | fault | ⟨file, member, breakdown, broken⟩⟩
  · exact ⟨engine, report, configured, analyzed, alike ▸ analyzed⟩
  · exact absurd (poolFault?_eq_none configured) fault
  · have unbroken : ∃ outcome, engine.analyzeFile file = .ok outcome := by
      rcases List.mem_cons.mp member with rfl | later
      · exact exists_analyzeFile_attachedDocument_eq_ok rules adapters _ (by decide +kernel)
      · rcases List.mem_pair.mp later with rfl | rfl
        · exact exists_analyzeFile_attachedDocument_eq_ok rules adapters _ (by decide +kernel)
        · have withoutAdapter : engine.adapters.forPath? third.path = none := by
            rw [adapters]
            decide +kernel
          exact ⟨_, by rw [analyzeFile, modelOf, withoutAdapter]⟩
    rcases unbroken with ⟨outcome, analyzed⟩
    rw [broken] at analyzed
    cases analyzed

end Engine

end StructuralLint
