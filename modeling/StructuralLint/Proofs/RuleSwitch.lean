import StructuralLint.Proofs.ArrivalOrder
import StructuralLint.Proofs.DuplicationFindings
import StructuralLint.Proofs.EndlessWalks
import StructuralLint.Proofs.RuleIds

/-!
# Switching one rule off

Rules share the model, the metrics, the markers and the clusters of copies, but none of them sees
what another one found.  Switching a rule off therefore takes its own findings out of the report and
leaves everything else in place.  The ids that markers are read with do not depend on the flags, and
fingerprints are left out only when nobody compares them.
-/

namespace StructuralLint

/-- Findings of one rule are dropped together or kept together. -/
theorem filter_ruleId_ne_of_own {findings : List Violation} {ruleId : String}
    (own : ∀ violation ∈ findings, violation.ruleId = ruleId)
    (id : String) :
    findings.filter (·.ruleId != id) = if ruleId = id then [] else findings := by
  split
  next same =>
    rw [List.filter_eq_nil_iff]
    intro violation found
    rw [own violation found, same, bne_self_eq_false]
    exact Bool.false_ne_true
  next different =>
    rw [List.filter_eq_self]
    intro violation found
    rw [own violation found, bne_iff_ne]
    exact different

namespace ResolvedSettings

/-- The settings with the flag of one rule set, and all else as it is. -/
def withEnabled (settings : ResolvedSettings) (id : String) (enabled : Bool) : ResolvedSettings :=
  { settings with
    rules := settings.rules.map fun entry =>
      (entry.1, if entry.1 == id then { entry.2 with enabled } else entry.2) }

section WithEnabled

variable (settings : ResolvedSettings) (id : String) (enabled : Bool)

@[simp]
theorem ruleIds_withEnabled : (settings.withEnabled id enabled).ruleIds = settings.ruleIds := by
  rw [ruleIds, ruleIds, withEnabled, List.map_map]
  rfl

@[simp]
theorem canonicalId?_withEnabled :
    (settings.withEnabled id enabled).canonicalId? = settings.canonicalId? := by
  funext name
  rw [canonicalId?, canonicalId?, ruleIds_withEnabled]

theorem rule?_withEnabled (other : String) :
    (settings.withEnabled id enabled).rule? other =
      (settings.rule? other).map fun own =>
        if other == id then { own with enabled } else own := by
  simp only [rule?, Sorted.get?, withEnabled, List.find?_map, Function.comp_def, Option.map_map]
  cases found : settings.rules.find? fun entry => entry.1 == other with
  | none => rfl
  | some entry =>
      have key : entry.1 = other := by simpa using List.find?_some found
      simp only [Option.map_some, key]

variable {id}

theorem rule?_withEnabled_of_ne {other : String} (different : other ≠ id) :
    (settings.withEnabled id enabled).rule? other = settings.rule? other := by
  simp [rule?_withEnabled, different]

theorem isEnabled_withEnabled_of_ne {other : String} (different : other ≠ id) :
    (settings.withEnabled id enabled).isEnabled other = settings.isEnabled other := by
  rw [isEnabled, isEnabled, rule?_withEnabled_of_ne settings enabled different]

variable (id)

@[simp]
theorem isEnabled_withEnabled_self_false :
    (settings.withEnabled id false).isEnabled id = false := by
  rw [isEnabled, rule?_withEnabled]
  cases settings.rule? id <;> simp

@[simp]
theorem threshold?_withEnabled (other name : String) :
    (settings.withEnabled id enabled).threshold? other name = settings.threshold? other name := by
  rw [threshold?, threshold?, rule?_withEnabled]
  cases settings.rule? other with
  | none => rfl
  | some own =>
      rw [Option.map_some, Option.bind_some, Option.bind_some]
      split <;> rfl

/-- Findings that hang on the flag of a rule lose exactly those of the rule switched off. -/
theorem findings_withEnabled_false {ruleId : String} {findings : List Violation}
    (own : ∀ violation ∈ findings, violation.ruleId = ruleId) :
    (if (settings.withEnabled id false).isEnabled ruleId then findings else []) =
      (if settings.isEnabled ruleId then findings else []).filter (·.ruleId != id) := by
  have ownIfOn :
      ∀ violation ∈ (if settings.isEnabled ruleId then findings else []),
        violation.ruleId = ruleId :=
    fun violation found => own violation (List.mem_ite_nil_right.mp found).2
  rw [filter_ruleId_ne_of_own ownIfOn]
  by_cases same : ruleId = id
  · rw [if_pos same, same, isEnabled_withEnabled_self_false, if_neg Bool.false_ne_true]
  · rw [if_neg same, isEnabled_withEnabled_of_ne settings false same]

end WithEnabled

end ResolvedSettings

/-! ## Rules on nodes -/

namespace Registry

/-- A rule that is switched off has no context; every other rule keeps its own. -/
theorem context?_withEnabled_false (settings : ResolvedSettings) (id : String) (file : File)
    (rule : Rule) :
    context? (settings.withEnabled id false) file rule =
      if rule.id = id then none else context? settings file rule := by
  split
  next same =>
    subst same
    rw [context?, ResolvedSettings.rule?_withEnabled]
    cases settings.rule? rule.id <;> simp
  next different =>
    rw [context?, context?, settings.rule?_withEnabled_of_ne false different]

/-- At every node the other rules report what they report anyway. -/
theorem outcomeAt_withEnabled_false {registry : Registry}
    (own : ∀ rule ∈ registry.rules, rule.ReportsOwnId)
    {settings : ResolvedSettings} {file : File} {node : Node} {position : Nat}
    {found : List Violation}
    (ended :
      registry.outcomeAt (registry.rules.map (context? settings file)) node position = .ok found)
    (id : String) :
    registry.outcomeAt (registry.rules.map (context? (settings.withEnabled id false) file)) node
        position =
      .ok (found.filter (·.ruleId != id)) := by
  rw [outcomeAt_contexts] at ended ⊢
  cases isRule : registry.rules[position]? with
  | none =>
      rw [isRule] at ended
      cases ended
      rfl
  | some rule =>
      have reportsOwnId := own rule (List.mem_of_getElem? isRule)
      rw [isRule, Option.elim_some] at ended
      rw [Option.elim_some, context?_withEnabled_false]
      cases on : context? settings file rule with
      | none =>
          rw [on] at ended
          cases ended
          split <;> rfl
      | some context =>
          rw [on, Option.elim_some] at ended
          have ofRule : ∀ violation ∈ found, violation.ruleId = rule.id :=
            fun violation listed => reportsOwnId.ruleId_of_reports ⟨found, ended, listed⟩
          rw [filter_ruleId_ne_of_own ofRule]
          split
          next => rfl
          next => exact ended

/-- Without a rule, the violations in a file are those found with it but for its own. -/
theorem evaluate_withEnabled_false {registry : Registry}
    (own : ∀ rule ∈ registry.rules, rule.ReportsOwnId)
    {settings : ResolvedSettings} {file : File} {violations : List Violation}
    (evaluated : registry.evaluate settings file = .ok violations)
    (id : String) :
    registry.evaluate (settings.withEnabled id false) file =
      .ok (violations.filter (·.ruleId != id)) := by
  refine gather_eq_ok_filter ?_ evaluated
  intro node _ atNode gathered
  refine gather_eq_ok_filter ?_ gathered
  intro position _ found ended
  exact outcomeAt_withEnabled_false own ended id

/--
Where only one rule keeps the violations in a file from being found, it is the rule on redundant
comments.
-/
theorem eq_redundantComment_of_evaluate_withEnabled {settings : ResolvedSettings} {file : File}
    {id : String} {breakdown : Breakdown} {violations : List Violation}
    (broken : Registry.builtin.evaluate settings file = .error breakdown)
    (evaluated : Registry.builtin.evaluate (settings.withEnabled id false) file = .ok violations) :
    id = Rule.redundantComment.id ∧ breakdown = .endless := by
  rcases exists_endless_comment_of_evaluate_eq_error broken with
    ⟨isEndless, node, member, isComment, context, on, endless⟩
  refine ⟨?_, isEndless⟩
  by_contra different
  have onToo : context? (settings.withEnabled id false) file Rule.redundantComment =
      some context := by
    rw [context?_withEnabled_false, if_neg (Ne.symm different), on]
  exact ne_endless_of_evaluate_eq_ok isIndexed_builtin evaluated member
    (List.mem_of_getElem? (i := 10) rfl) (by simp [isComment, Rule.redundantComment]) onToo endless

end Registry

/-! ## Markers -/

/-- What markers name does not depend on which rules are on. -/
theorem Suppression.collect_withEnabled (model : Model) (settings : ResolvedSettings)
    (id : String) (enabled : Bool) :
    collect model (settings.withEnabled id enabled) = collect model settings := by
  simp only [collect, ofNames?, unknownNames, ResolvedSettings.canonicalId?_withEnabled]

theorem Suppression.ruleId_of_mem_collect {model : Model} {settings : ResolvedSettings}
    {violation : Violation}
    (found : violation ∈ (collect model settings).2) :
    violation.ruleId = unknownSuppressionId := by
  rcases List.mem_flatMap.mp found with ⟨⟨comment, names⟩, _, unknown⟩
  simp only [unknownNames, List.mem_ite_nil_left, List.mem_map] at unknown
  rcases unknown with ⟨_, _, _, rfl⟩
  rfl

/-! ## Rules on duplication -/

namespace Duplication

theorem detect_withEnabled_false (files : List Fingerprints) (settings : ResolvedSettings)
    (id : String) :
    detect files (settings.withEnabled id false) =
      (detect files settings).filter (·.ruleId != id) := by
  have copies (clusters : List (List Candidate)) :
      ∀ violation ∈ clusters.flatMap duplicateCode, violation.ruleId = duplicateCodeId := by
    rw [List.forall_mem_flatMap]
    exact fun _ _ _ found => (of_mem_duplicateCode found).1
  have similar (clusters : List (List Candidate)) :
      ∀ violation ∈ clusters.flatMap similarStructure,
        violation.ruleId = similarStructureId := by
    rw [List.forall_mem_flatMap]
    exact fun _ _ _ found => (of_mem_similarStructure found).1
  have conditionals (chains : List Chain) (minLength : Nat) :
      ∀ violation ∈ duplicateConditionals chains minLength,
        violation.ruleId = duplicateConditionalId :=
    fun _ found => (of_mem_duplicateConditionals found).1
  have sameSimilarity :
      (settings.withEnabled id false).duplicationSimilarityThreshold =
        settings.duplicationSimilarityThreshold := rfl
  simp only [detect, List.filter_append, ResolvedSettings.threshold?_withEnabled, sameSimilarity]
  rw [settings.findings_withEnabled_false id (copies _),
    settings.findings_withEnabled_false id (similar _),
    settings.findings_withEnabled_false id (conditionals _ _)]

/-- With all rules on duplication off there are no findings, whatever is compared. -/
theorem detect_eq_nil_of_off {settings : ResolvedSettings}
    (off : (catalog.any fun info => settings.isEnabled info.id) = false)
    (files : List Fingerprints) :
    detect files settings = [] := by
  simp only [catalog, List.any_cons, List.any_nil, Bool.or_false, Bool.or_eq_false_iff] at off
  simp only [detect, off, Bool.false_eq_true, if_false, List.append_nil]

end Duplication

/-! ## The report -/

namespace Engine

/-- The ids that the engine reports under by itself. -/
def reservedIds : List String :=
  [parseErrorId, modelInvariantId, internalRuleErrorId, unknownSuppressionId]

theorem failureFinding_ruleId_mem_reservedIds (path : SourcePath) (fault : Adapter.Fault) :
    (failureFinding path fault).ruleId ∈ reservedIds := by
  cases fault <;> simp [failureFinding, reservedIds]

/-- No rule of the library has an id that the engine uses itself. -/
theorem not_mem_reservedIds_of_mem_catalog {info : RuleInfo}
    (isRule : info ∈ Registry.builtin.catalog) :
    info.id ∉ reservedIds := by
  have apart : ∀ id ∈ Registry.builtin.catalog.map (·.id), id ∉ reservedIds := by
    decide +kernel
  exact apart info.id (List.mem_map_of_mem isRule)

/-- The engine with one rule switched off. -/
def withoutRule (engine : Engine) (id : String) : Engine :=
  { engine with settings := engine.settings.withEnabled id false }

theorem modelOf_withoutRule (engine : Engine) (id : String) (file : SourceFile) :
    (engine.withoutRule id).modelOf file = engine.modelOf file :=
  rfl

theorem poolFault?_withoutRule (engine : Engine) (id : String) :
    (engine.withoutRule id).poolFault? = engine.poolFault? :=
  rfl

section WithoutRule

variable {engine : Engine} {id : String}
  (own : ∀ rule ∈ engine.registry.rules, rule.ReportsOwnId)
  (notReserved : id ∉ reservedIds)

/-- Where files are compared without the rule, they are compared with it. -/
theorem comparesFiles_of_withoutRule (compares : (engine.withoutRule id).comparesFiles = true) :
    engine.comparesFiles = true := by
  rcases List.any_eq_true.mp compares with ⟨info, isRule, isOn⟩
  apply List.any_eq_true.mpr
  refine ⟨info, isRule, ?_⟩
  by_cases same : info.id = id
  · simp [withoutRule, same] at isOn
  · rw [← isOn]
    exact (engine.settings.isEnabled_withEnabled_of_ne false same).symm

include own notReserved in
/-- A file loses the violations of the rule, and its fingerprints when nobody compares them. -/
theorem analyzeFile_withoutRule {file : SourceFile} {outcome : FileOutcome}
    (analyzed : engine.analyzeFile file = .ok outcome) :
    (engine.withoutRule id).analyzeFile file =
      .ok
        { outcome with
          violations := outcome.violations.filter (·.ruleId != id)
          fingerprints :=
            if (engine.withoutRule id).comparesFiles then outcome.fingerprints else none } := by
  have kept {findings : List Violation} {ruleId : String}
      (ofRule : ∀ violation ∈ findings, violation.ruleId = ruleId)
      (reserved : ruleId ∈ reservedIds) :
      findings.filter (·.ruleId != id) = findings := by
    rw [filter_ruleId_ne_of_own ofRule, if_neg]
    intro equal
    exact notReserved (equal ▸ reserved)
  rw [analyzeFile] at analyzed ⊢
  rw [modelOf_withoutRule]
  cases obtained : engine.modelOf file with
  | error fault =>
      rw [obtained] at analyzed
      cases analyzed
      have single : ∀ violation ∈ [failureFinding file.path fault],
          violation.ruleId = (failureFinding file.path fault).ruleId := by
        intro violation member
        rw [List.mem_singleton.mp member]
      simp only [kept single (failureFinding_ruleId_mem_reservedIds file.path fault), ite_self]
  | ok found =>
      rcases found with ⟨adapter, model⟩
      rw [obtained] at analyzed
      rcases analyzeModel_eq_ok_iff.mp analyzed with ⟨file, violations, isFile, evaluated, rfl⟩
      have evaluatedWithout := Registry.evaluate_withEnabled_false own evaluated id
      refine analyzeModel_eq_ok_iff.mpr ⟨file, _, isFile, evaluatedWithout, ?_⟩
      have unknownKept :
          (Suppression.collect model engine.settings).2.filter (·.ruleId != id) =
            (Suppression.collect model engine.settings).2 :=
        kept (fun _ unknown => Suppression.ruleId_of_mem_collect unknown) (by decide)
      have sameMarkers :
          Suppression.collect model (engine.withoutRule id).settings =
            Suppression.collect model engine.settings :=
        Suppression.collect_withEnabled model engine.settings id false
      rw [sameMarkers, List.filter_append, unknownKept]
      cases compares : (engine.withoutRule id).comparesFiles with
      | false => rfl
      | true =>
          rw [comparesFiles_of_withoutRule compares]
          rfl

/-- Where the rule is on, a file breaks down that works without the rule only by its comments. -/
theorem eq_redundantComment_of_analyzeFile_withoutRule
    (rules : engine.registry = Registry.builtin)
    {file : SourceFile} {breakdown : Breakdown} {outcome : FileOutcome}
    (broken : engine.analyzeFile file = .error breakdown)
    (analyzed : (engine.withoutRule id).analyzeFile file = .ok outcome) :
    id = Rule.redundantComment.id ∧ breakdown = .endless := by
  rw [analyzeFile] at broken analyzed
  rw [modelOf_withoutRule] at analyzed
  cases obtained : engine.modelOf file with
  | error fault =>
      rw [obtained] at broken
      cases broken
  | ok found =>
      rcases found with ⟨adapter, model⟩
      rw [obtained] at broken analyzed
      rcases analyzeModel_eq_ok_iff.mp analyzed with ⟨file, violations, isFile, evaluated, rfl⟩
      simp only [analyzeModel, isFile, bind, Except.bind] at broken
      cases evaluatedWith : engine.registry.evaluate engine.settings file with
      | ok found =>
          rw [evaluatedWith] at broken
          cases broken
      | error other =>
          rw [evaluatedWith] at broken
          cases broken
          rw [rules] at evaluatedWith
          rw [withoutRule, rules] at evaluated
          exact Registry.eq_redundantComment_of_evaluate_withEnabled evaluatedWith evaluated

section Complete

variable {files : List SourceFile} (complete : engine.WorksThrough files)

include own notReserved complete

theorem worksThrough_withoutRule : (engine.withoutRule id).WorksThrough files :=
  fun _ member => ⟨_, analyzeFile_withoutRule own notReserved (complete.analyzeFile_eq member)⟩

theorem outcomeOf_withoutRule {file : SourceFile}
    (member : file ∈ files) :
    (engine.withoutRule id).outcomeOf file =
      { engine.outcomeOf file with
        violations := (engine.outcomeOf file).violations.filter (·.ruleId != id)
        fingerprints :=
          if (engine.withoutRule id).comparesFiles then (engine.outcomeOf file).fingerprints
          else none } := by
  rw [outcomeOf, analyzeFile_withoutRule own notReserved (complete.analyzeFile_eq member)]

/-- The findings on duplication lose those of the rule and no others. -/
theorem detect_withoutRule :
    Duplication.detect
        ((files.map (engine.withoutRule id).outcomeOf).filterMap (·.fingerprints))
        (engine.withoutRule id).settings =
      (Duplication.detect ((files.map engine.outcomeOf).filterMap (·.fingerprints))
        engine.settings).filter (·.ruleId != id) := by
  rw [← Duplication.detect_withEnabled_false]
  cases compares : (engine.withoutRule id).comparesFiles with
  | true =>
      have sameFingerprints :
          (files.map (engine.withoutRule id).outcomeOf).filterMap (·.fingerprints) =
            (files.map engine.outcomeOf).filterMap (·.fingerprints) := by
        rw [List.filterMap_map, List.filterMap_map]
        apply List.filterMap_congr
        intro file member
        rw [Function.comp_apply, outcomeOf_withoutRule own notReserved complete member, compares,
          if_pos rfl]
        rfl
      rw [sameFingerprints]
      rfl
  | false =>
      -- Nobody compares, so it does not matter that the fingerprints are missing.
      have nothing := Duplication.detect_eq_nil_of_off compares
      rw [nothing]
      exact (nothing _).symm

theorem diagnostics_reportOn_withoutRule (fileCount : Nat) :
    ((engine.withoutRule id).reportOn fileCount
        (files.map (engine.withoutRule id).outcomeOf)).diagnostics =
      (engine.reportOn fileCount (files.map engine.outcomeOf)).diagnostics.filter
        (·.ruleId != id) := by
  have sameRule (left right : Diagnostic) (same : left.sameFinding right = true) :
      (left.ruleId != id) = (right.ruleId != id) := by
    rw [Diagnostic.sameFinding, Bool.and_eq_true, beq_iff_eq] at same
    rw [same.1]
  have violations :
      files.flatMap (fun file => ((engine.withoutRule id).outcomeOf file).violations) =
        (files.flatMap fun file => (engine.outcomeOf file).violations).filter
          (·.ruleId != id) := by
    rw [List.filter_flatMap]
    exact List.flatMap_congr fun file member => by
      rw [outcomeOf_withoutRule own notReserved complete member]
  have suppressions :
      files.flatMap (fun file => ((engine.withoutRule id).outcomeOf file).suppressions) =
        files.flatMap fun file => (engine.outcomeOf file).suppressions :=
    List.flatMap_congr fun file member => by
      rw [outcomeOf_withoutRule own notReserved complete member]
  simp only [reportOn]
  rw [Findings.filter_finish _ _ sameRule, detect_withoutRule own notReserved complete]
  simp only [List.flatMap_map, violations, suppressions, List.filter_append]
  rfl

end Complete

end WithoutRule

/--
Rules do not interfere where runs end.  Of two configured engines whose settings differ in the flag
of one rule of the library only, the one without the rule reports the diagnostics of the other but
for those of the rule, in the same order.  When the engine with the rule yields no report, both end
alike, unless the rule is the one on redundant comments: it never ends on some file that works
without the rule.
-/
theorem analyze_with_rule_off
    (machine : Machine)
    (explain : String → String)
    (settings settingsWithout : Settings)
    (engine engineWithout : Engine)
    (configured :
      configure machine Registry.builtin (AdapterSet.builtin explain) settings = .ok engine)
    (configuredWithout :
      configure machine Registry.builtin (AdapterSet.builtin explain) settingsWithout =
        .ok engineWithout)
    (info : RuleInfo)
    (isRule : info ∈ Registry.builtin.catalog)
    (onlyFlag : engineWithout.settings = engine.settings.withEnabled info.id false)
    (files : List SourceFile) :
    (∃ report reportWithout,
      engine.analyze false files = (some (.ok report), false) ∧
        engineWithout.analyze false files = (some (.ok reportWithout), false) ∧
        reportWithout.diagnostics = report.diagnostics.filter (·.ruleId != info.id)) ∨
      (engine.analyze false files = engineWithout.analyze false files ∧
        ∀ report, engine.analyze false files ≠ (some (.ok report), false)) ∨
      (info.id = "RedundantComment" ∧
        engine.analyze false files = (none, false) ∧
        (∃ reportWithout,
          engineWithout.analyze false files = (some (.ok reportWithout), false)) ∧
        ∃ file ∈ files, engine.analyzeFile file = .error .endless) := by
  rcases of_configure_eq_ok configured with ⟨onMachine, rules, adapters, _⟩
  rcases of_configure_eq_ok configuredWithout with
    ⟨onMachineWithout, rulesWithout, adaptersWithout, _⟩
  have switched : engineWithout = engine.withoutRule info.id := by
    cases engineWithout
    rw [withoutRule, Engine.mk.injEq]
    exact ⟨onMachineWithout.trans onMachine.symm, rulesWithout.trans rules.symm,
      adaptersWithout.trans adapters.symm, onlyFlag⟩
  have own : ∀ rule ∈ engine.registry.rules, rule.ReportsOwnId := by
    intro rule member
    rw [rules] at member
    exact Rule.reportsOwnId_of_mem_builtin (Registry.mem_builtin member)
  have notReserved := not_mem_reservedIds_of_mem_catalog isRule
  rw [analyze_eq_run_never fun file _ => cancelsAt_eq_false_of_builtin adapters file,
    analyze_eq_run_never fun file _ => cancelsAt_eq_false_of_builtin adaptersWithout file]
  subst switched
  cases pool : engine.poolFault? with
  | some reason =>
      right
      left
      rw [run_never_of_poolFault pool]
      rw [← poolFault?_withoutRule engine info.id] at pool
      rw [run_never_of_poolFault pool]
      simp
  | none =>
      have poolWithout := (poolFault?_withoutRule engine info.id).trans pool
      by_cases complete : engine.WorksThrough files
      · left
        have completeWithout := worksThrough_withoutRule own notReserved complete
        rw [run_never_of_worksThrough pool complete,
          run_never_of_worksThrough poolWithout completeWithout]
        exact ⟨_, _, rfl, rfl, diagnostics_reportOn_withoutRule own notReserved complete _⟩
      · right
        rw [run_never_of_not_worksThrough pool complete]
        by_cases completeWithout : (engine.withoutRule info.id).WorksThrough files
        · right
          rw [run_never_of_worksThrough poolWithout completeWithout]
          rcases exists_breakdown_of_not_worksThrough complete with
            ⟨file, member, breakdown, broken⟩
          rcases completeWithout file member with ⟨outcome, analyzed⟩
          rcases eq_redundantComment_of_analyzeFile_withoutRule rules broken analyzed with
            ⟨isRedundant, rfl⟩
          exact ⟨isRedundant, rfl, ⟨_, rfl⟩, file, member, broken⟩
        · left
          rw [run_never_of_not_worksThrough poolWithout completeWithout]
          simp

/-- The default settings, and a section that turns off the rule on short names. -/
theorem analyze_without_short_names :
    let files : List SourceFile :=
      [{ path := { text := "src/a.json" }, contents := attachedDocument },
        { path := { text := "src/b.txt" }, contents := "" }]
    let settings : Settings := {}
    let adapters := AdapterSet.builtin Adapter.silent
    ∃ engine engineWithout,
      configure {} Registry.builtin adapters settings = .ok engine ∧
        configure {} Registry.builtin adapters (settings.withEnabled "ShortName" false) =
          .ok engineWithout ∧
        engine.settings.isEnabled "ShortName" = true ∧
        ∃ report reportWithout,
          engine.analyze false files = (some (.ok report), false) ∧
            engineWithout.analyze false files = (some (.ok reportWithout), false) ∧
            reportWithout.diagnostics = report.diagnostics.filter (·.ruleId != "ShortName") := by
  intro files settings adapters
  refine ⟨_, _, rfl, rfl, rfl, ?_⟩
  rcases analyze_with_rule_off {} Adapter.silent settings (settings.withEnabled "ShortName" false)
      _ _ rfl rfl Rule.shortName.info (List.mem_of_getElem? (i := 7) rfl) rfl files with
    reported | ⟨_, missing⟩ | ⟨other, _⟩
  · exact reported
  · refine absurd (analyze_eq_ok ?_ rfl ?_) (missing _)
    · exact fun file _ => cancelsAt_eq_false_of_builtin rfl file
    · intro file member
      rcases List.mem_pair.mp member with rfl | rfl
      · exact exists_analyzeFile_attachedDocument_eq_ok rfl rfl _ (by decide +kernel)
      · have withoutAdapter :
            (AdapterSet.builtin Adapter.silent).forPath? { text := "src/b.txt" } = none := by
          decide +kernel
        exact ⟨_, by rw [analyzeFile, modelOf, withoutAdapter]⟩
  · exact absurd other (by decide)

/-- The document of a comment that is its own child and owns another comment. -/
def loopDocument : String :=
  "[null,0,[[0,\"Module\",[1,1,3,1]]," ++
    "[1,\"Comment\",[1,1,1,9],[1],[2],null,null,null,null,null,\"// around\"]," ++
    "[2,\"Comment\",[1,1,1,9],[],[],null,null,null,null,null,\"// going around\"]]]"

/-- The comment that is its own child. -/
def loopingComment : Node :=
  { id := { index := 1 }, kind := .comment
    span := { startLine := 1, startCol := 1, endLine := 1, endCol := 9 }
    children := [{ index := 1 }], comments := [{ index := 2 }], text := some "// around" }

/-- The comment that it owns. -/
def ownedComment : Node :=
  { id := { index := 2 }, kind := .comment
    span := { startLine := 1, startCol := 1, endLine := 1, endCol := 9 }
    text := some "// going around" }

/-- The model of the document. -/
def loopModel (path : SourcePath) : Model :=
  .linked
    { path
      root := { index := 0 }
      lineCount := none
      nodes :=
        [{ id := { index := 0 }, kind := .module
           span := { startLine := 1, startCol := 1, endLine := 3, endCol := 1 } },
          loopingComment, ownedComment] }

theorem readDocument_loopDocument (explain : String → String) (path : SourcePath) :
    Adapter.readDocument explain loopDocument path = .parsed (loopModel path) := by
  cbv

/-- The model is well formed, but the walk down from the owner of a comment goes around. -/
theorem not_walkDownEnds_loopModel (path : SourcePath) :
    (loopModel path).IsWellFormed ∧ ¬ (loopModel path).WalkDownEnds loopingComment.id := by
  have accepted :
      Model.ingest path { index := 0 } (loopModel path).nodes none = .ok (loopModel path) := rfl
  have wellFormed := Model.IsWellFormed.of_ingest accepted
  refine ⟨wellFormed, ?_⟩
  rw [Model.walkDownEnds_iff wellFormed.nonempty wellFormed.children_mem_ids
    wellFormed.distinctIds]
  intro noCycle
  refine noCycle loopingComment.id Relation.ReflTransGen.refl (Relation.TransGen.single ?_)
  exact ⟨loopingComment, List.mem_of_getElem? (i := 1) rfl, rfl, List.mem_cons_self⟩

/-- Where the rule on redundant comments looks for two words, it never ends on the model. -/
theorem evaluate_loopModel_ne_ok {settings : ResolvedSettings} {file : Registry.File}
    {path : SourcePath}
    (isModel : file.model = loopModel path)
    (isOn : settings.isEnabled Rule.redundantComment.id = true)
    (limit : settings.threshold? Rule.redundantComment.id Rule.minWords.name = some 2)
    (violations : List Violation) :
    Registry.builtin.evaluate settings file ≠ .ok violations := by
  intro evaluated
  rcases Registry.isEnabled_iff_exists_context?.mp isOn with ⟨context, on⟩
  rcases Registry.of_context?_eq_some on with ⟨sameModel, _, thresholds⟩
  rcases not_walkDownEnds_loopModel path with ⟨wellFormed, endless⟩
  have contextModel : context.model = loopModel path := sameModel.trans isModel
  have twoWords : context.count Rule.minWords = 2 := by
    rw [Rule.Context.count, thresholds _ _ limit]
    decide +kernel
  have member : ownedComment ∈ file.model.nodes := by
    rw [isModel]
    exact List.mem_of_getElem? (i := 2) rfl
  refine Registry.ne_endless_of_evaluate_eq_ok Registry.isIndexed_builtin evaluated member
    (List.mem_of_getElem? (i := 10) rfl) (by decide) on ?_
  rw [Rule.redundantComment_eq_endless_iff (contextModel ▸ wellFormed), contextModel]
  refine ⟨loopingComment, ["going", "around"], ?_, endless⟩
  have isOwner : (loopModel path).commentOwner? ownedComment.id = some loopingComment := rfl
  have text : ownedComment.text = some "// going around" := rfl
  have noIntent : Rule.Comments.hasIntent "// going around" = false := by decide +kernel
  have adjacent : Rule.Comments.isAdjacent ownedComment loopingComment = true := by decide
  have words : Rule.Comments.commentWords "// going around" = ["going", "around"] := by
    decide +kernel
  simp [Rule.Comments.worded?, contextModel, twoWords, isOwner, text, noIntent, adjacent, words]

section Loop

variable {engine : Engine} {explain : String → String}
  (pool : engine.poolFault? = none)
  (rules : engine.registry = Registry.builtin)
  (adapters : engine.adapters = AdapterSet.builtin explain)
  {path : SourcePath}
  (chosen : ((AdapterSet.builtin explain).forPath? path).isSome = true)

include adapters chosen in
theorem modelOf_loopDocument :
    engine.modelOf { path, contents := loopDocument } =
      .ok (.modelDocument explain, loopModel path) := by
  let source : SourceFile := { path, contents := loopDocument }
  rw [@modelOf_of_builtin engine explain source adapters chosen, readDocument_loopDocument]
  rfl

include pool rules adapters chosen

/-- With the rule on, the call on the document never ends. -/
theorem analyze_loopDocument_eq_none
    (isOn : engine.settings.isEnabled Rule.redundantComment.id = true)
    (limit : engine.settings.threshold? Rule.redundantComment.id Rule.minWords.name = some 2) :
    engine.analyze false [{ path, contents := loopDocument }] = (none, false) := by
  rw [analyze_eq_run_never fun file _ => cancelsAt_eq_false_of_builtin adapters file,
    run_never_of_not_worksThrough pool]
  intro complete
  rcases complete _ List.mem_cons_self with ⟨outcome, analyzed⟩
  rw [analyzeFile, modelOf_loopDocument adapters chosen] at analyzed
  rcases analyzeModel_eq_ok_iff.mp analyzed with ⟨file, violations, isFile, evaluated, _⟩
  have isModel := Registry.File.model_of_ofModel_eq_ok isFile
  rw [rules] at evaluated
  exact evaluate_loopModel_ne_ok isModel isOn limit violations evaluated

/-- With the rule off, it reports on the document. -/
theorem exists_analyze_loopDocument_eq_ok
    (off : engine.settings.isEnabled Rule.redundantComment.id = false) :
    ∃ report,
      engine.analyze false [{ path, contents := loopDocument }] = (some (.ok report), false) := by
  have isFile : Registry.File.ofModel (.modelDocument explain) (loopModel path) = .ok _ := rfl
  refine ⟨_, analyze_eq_ok ?_ pool ?_⟩
  · exact fun file _ => cancelsAt_eq_false_of_builtin adapters file
  · intro file member
    rw [List.mem_singleton.mp member]
    refine exists_analyzeFile_eq_ok rules (modelOf_loopDocument adapters chosen) isFile ?_
    intro node _ _ context on
    have isOn := Registry.isEnabled_iff_exists_context?.mpr ⟨context, on⟩
    rw [off] at isOn
    cases isOn

end Loop

/-- With the default settings a run on the document never ends; without one rule it reports. -/
theorem analyze_never_ends_on_loop :
    let files : List SourceFile :=
      [{ path := { text := "src/a.json" }, contents := loopDocument }]
    let settings : Settings := {}
    let adapters := AdapterSet.builtin Adapter.silent
    ∃ engine engineWithout,
      configure {} Registry.builtin adapters settings = .ok engine ∧
        configure {} Registry.builtin adapters
            (settings.withEnabled "RedundantComment" false) = .ok engineWithout ∧
        engineWithout.settings = engine.settings.withEnabled "RedundantComment" false ∧
        engine.analyze false files = (none, false) ∧
        ∃ report, engineWithout.analyze false files = (some (.ok report), false) := by
  intro files settings adapters
  refine ⟨_, _, rfl, rfl, rfl, ?_, ?_⟩
  · exact analyze_loopDocument_eq_none rfl rfl rfl (by decide +kernel) (by decide +kernel) rfl
  · exact exists_analyze_loopDocument_eq_ok rfl rfl rfl (by decide +kernel) (by decide +kernel)

end Engine

end StructuralLint
