import StructuralLint.Proofs.RunFindings

/-!
# Rules that fail

A rule may fail at a node.  The evaluator reports the failure under an id of its own and goes on
with the next rule, so nothing that is reported under another id depends on it.  All failures share
that id, and of several findings with one rule at one range a report keeps the first only.  So where
rules fail at a range the report says so, but it names one failure: the one whose message comes
first.
-/

namespace StructuralLint

/-! ## Forgiven failures -/

/-- What a rule says of its failure at a node. -/
def Rule.failureMessage (rule : Rule) (node : Node) (reason : String) : String :=
  "Rule " ++ rule.id ++ " failed on " ++ node.kind.text ++ " node " ++ node.id.text ++ ": " ++
    reason

/-- What a rule finds never has the id of failures. -/
def Rule.UsesOtherIds (rule : Rule) : Prop :=
  ∀ context node violations,
    rule.evaluate context node = .ok violations →
      ∀ violation ∈ violations, violation.ruleId ≠ internalRuleErrorId

/-- The rule that finds nothing where it fails, as far as its failures are forgiven. -/
def Rule.forgiven (forgives : Rule → Rule.Context → Node → Bool) (rule : Rule) : Rule :=
  { rule with
    evaluate := fun context node =>
      match rule.evaluate context node with
      | .ok violations => .ok violations
      | .error (.failed reason) =>
          if forgives rule context node then .ok [] else .error (.failed reason)
      | .error .endless => .error .endless }

section Forgiven

variable {forgives : Rule → Rule.Context → Node → Bool}

/-- Forgiving a failure takes away only the finding on the failure. -/
theorem Rule.filter_outcome_forgiven (rule : Rule) (context : Context) (node : Node) :
    ((rule.forgiven forgives).outcome context node).map
        (·.filter (·.ruleId != internalRuleErrorId)) =
      (rule.outcome context node).map (·.filter (·.ruleId != internalRuleErrorId)) := by
  have failureDropped (failed : Rule) (reason : String) :
      [failed.failure context node reason].filter (·.ruleId != internalRuleErrorId) = [] := rfl
  simp only [Rule.outcome, Rule.forgiven]
  cases rule.evaluate context node with
  | ok violations => rfl
  | error stop =>
      cases stop with
      | endless => rfl
      | failed reason =>
          dsimp only
          rw [Except.map, failureDropped]
          cases forgives rule context node <;> rfl

namespace Registry

theorem place_map_forgiven (rule : Rule) (rules : List Rule) :
    place (rule.forgiven forgives) (rules.map (·.forgiven forgives)) =
      (place rule rules).map (·.forgiven forgives) := by
  induction rules with
  | nil => rfl
  | cons present rest induction =>
      have sameId (rule : Rule) : (rule.forgiven forgives).id = rule.id := rfl
      rw [List.map_cons, place, place, sameId, sameId, induction]
      split <;> rfl

/-- Registering rules with forgiven failures is forgiving the failures of registered rules. -/
theorem rules_registerAll_map_forgiven {registry other : Registry}
    (same : other.rules = registry.rules.map (·.forgiven forgives))
    (rules : List Rule) :
    (other.registerAll (rules.map (·.forgiven forgives))).rules =
      (registry.registerAll rules).rules.map (·.forgiven forgives) := by
  induction rules generalizing registry other with
  | nil => exact same
  | cons rule rest induction =>
      have next :
          (other.register (rule.forgiven forgives)).rules =
            (registry.register rule).rules.map (·.forgiven forgives) := by
        rw [register, register, same, place_map_forgiven]
      exact induction next

theorem filter_contribution_forgiven (settings : ResolvedSettings) (file : File) (node : Node)
    (rule : Rule) :
    (contribution settings file node (rule.forgiven forgives)).map
        (·.filter (·.ruleId != internalRuleErrorId)) =
      (contribution settings file node rule).map
        (·.filter (·.ruleId != internalRuleErrorId)) := by
  rw [contribution, contribution, show (rule.forgiven forgives).id = rule.id from rfl,
    show (rule.forgiven forgives).kinds = rule.kinds from rfl]
  cases settings.rule? rule.id with
  | none => rfl
  | some own =>
      dsimp only
      split
      · exact rule.filter_outcome_forgiven _ node
      · rfl

variable {registry other : Registry}
  (sameRules : other.rules = registry.rules.map (·.forgiven forgives))

include sameRules

theorem catalog_of_forgiven : other.catalog = registry.catalog := by
  have sameInfos : other.rules.map Rule.info = registry.rules.map Rule.info := by
    rw [sameRules, List.map_map]
    rfl
  rw [catalog, catalog, sameInfos]

variable (indexed : registry.IsIndexed) (otherIndexed : other.IsIndexed)

include indexed otherIndexed

/-- Forgiven or not, failures change nothing that is found under other ids. -/
theorem filter_evaluate_of_forgiven (settings : ResolvedSettings) (file : File) :
    (other.evaluate settings file).map (·.filter (·.ruleId != internalRuleErrorId)) =
      (registry.evaluate settings file).map (·.filter (·.ruleId != internalRuleErrorId)) := by
  simp only [evaluate_eq_gather indexed, evaluate_eq_gather otherIndexed, map_filter_gather,
    sameRules, gather_map, filter_contribution_forgiven]

end Registry

namespace Engine

variable {engine calm : Engine}
  (sameRules : calm.registry.rules = engine.registry.rules.map (·.forgiven forgives))
  (sameAdapters : calm.adapters = engine.adapters)
  (sameSettings : calm.settings = engine.settings)
  (indexed : engine.registry.IsIndexed)
  (calmIndexed : calm.registry.IsIndexed)

include sameAdapters sameSettings in
theorem modelOf_of_forgiven (file : SourceFile) : calm.modelOf file = engine.modelOf file := by
  rw [modelOf, modelOf, sameAdapters, sameSettings]

include sameRules sameAdapters sameSettings indexed calmIndexed

/-- Of one file only the findings on failures may differ. -/
theorem exists_analyzeFile_of_forgiven {source : SourceFile} {outcome : FileOutcome}
    (analyzed : engine.analyzeFile source = .ok outcome) :
    ∃ calmOutcome,
      calm.analyzeFile source = .ok calmOutcome ∧
        calmOutcome.violations.filter (·.ruleId != internalRuleErrorId) =
          outcome.violations.filter (·.ruleId != internalRuleErrorId) ∧
        calmOutcome.suppressions = outcome.suppressions ∧
        calmOutcome.fingerprints = outcome.fingerprints := by
  rw [analyzeFile] at analyzed ⊢
  rw [modelOf_of_forgiven sameAdapters sameSettings]
  cases obtained : engine.modelOf source with
  | error fault =>
      rw [obtained] at analyzed
      cases analyzed
      exact ⟨_, rfl, rfl, rfl, rfl⟩
  | ok found =>
      rcases found with ⟨adapter, model⟩
      rw [obtained] at analyzed
      rcases analyzeModel_eq_ok_iff.mp analyzed with ⟨file, violations, isFile, evaluated, rfl⟩
      have sameFindings :=
        Registry.filter_evaluate_of_forgiven sameRules indexed calmIndexed engine.settings file
      rw [evaluated] at sameFindings
      cases calmEvaluated : calm.registry.evaluate engine.settings file with
      | error breakdown =>
          rw [calmEvaluated] at sameFindings
          cases sameFindings
      | ok calmViolations =>
          rw [calmEvaluated] at sameFindings
          rw [← sameSettings] at calmEvaluated
          have compares : calm.comparesFiles = engine.comparesFiles := by
            rw [comparesFiles, comparesFiles, sameSettings]
          have filtered :
              calmViolations.filter (·.ruleId != internalRuleErrorId) =
                violations.filter (·.ruleId != internalRuleErrorId) :=
            Except.ok.inj sameFindings
          refine ⟨_, analyzeModel_eq_ok_iff.mpr ⟨file, _, isFile, calmEvaluated, rfl⟩, ?_, ?_, ?_⟩
          · rw [List.filter_append, List.filter_append, filtered, sameSettings]
          · rw [sameSettings]
          · rw [compares, sameSettings]

section Complete

variable {files : List SourceFile} (complete : engine.WorksThrough files)

include complete

theorem worksThrough_of_forgiven : calm.WorksThrough files := by
  intro file member
  rcases exists_analyzeFile_of_forgiven sameRules sameAdapters sameSettings indexed calmIndexed
      (complete.analyzeFile_eq member) with
    ⟨calmOutcome, analyzed, _⟩
  exact ⟨calmOutcome, analyzed⟩

theorem outcomeOf_of_forgiven {file : SourceFile}
    (member : file ∈ files) :
    (calm.outcomeOf file).violations.filter (·.ruleId != internalRuleErrorId) =
        (engine.outcomeOf file).violations.filter (·.ruleId != internalRuleErrorId) ∧
      (calm.outcomeOf file).suppressions = (engine.outcomeOf file).suppressions ∧
      (calm.outcomeOf file).fingerprints = (engine.outcomeOf file).fingerprints := by
  rcases exists_analyzeFile_of_forgiven sameRules sameAdapters sameSettings indexed calmIndexed
      (complete.analyzeFile_eq member) with
    ⟨calmOutcome, analyzed, same⟩
  rw [show calm.outcomeOf file = calmOutcome by rw [outcomeOf, analyzed]]
  exact same

/-- Of a report only the diagnostics on failures may differ. -/
theorem filter_reportOn_of_forgiven (fileCount : Nat) :
    (calm.reportOn fileCount (files.map calm.outcomeOf)).diagnostics.filter
        (·.ruleId != internalRuleErrorId) =
      (engine.reportOn fileCount (files.map engine.outcomeOf)).diagnostics.filter
        (·.ruleId != internalRuleErrorId) := by
  have sameRule (left right : Diagnostic) (same : left.sameFinding right = true) :
      (left.ruleId != internalRuleErrorId) = (right.ruleId != internalRuleErrorId) := by
    rw [Diagnostic.sameFinding, Bool.and_eq_true, beq_iff_eq] at same
    rw [same.1]
  have contributed {file : SourceFile} (member : file ∈ files) :=
    outcomeOf_of_forgiven sameRules sameAdapters sameSettings indexed calmIndexed complete member
  have violations :
      (files.flatMap fun file =>
          (calm.outcomeOf file).violations.filter (·.ruleId != internalRuleErrorId)) =
        files.flatMap fun file =>
          (engine.outcomeOf file).violations.filter (·.ruleId != internalRuleErrorId) :=
    List.flatMap_congr fun file member => (contributed member).1
  have suppressions :
      files.flatMap (fun file => (calm.outcomeOf file).suppressions) =
        files.flatMap fun file => (engine.outcomeOf file).suppressions :=
    List.flatMap_congr fun file member => (contributed member).2.1
  have fingerprints :
      files.filterMap (fun file => (calm.outcomeOf file).fingerprints) =
        files.filterMap fun file => (engine.outcomeOf file).fingerprints :=
    List.filterMap_congr fun file member => (contributed member).2.2
  simp only [reportOn]
  rw [Findings.filter_finish _ _ sameRule, Findings.filter_finish _ _ sameRule]
  simp only [Violation.toDiagnostic, List.filter_append, List.flatMap_map, List.filterMap_map,
    List.filter_flatMap, Function.comp_def, violations, suppressions, fingerprints, sameSettings]

end Complete

omit sameRules sameSettings indexed calmIndexed in
theorem cancelsAt_of_forgiven : calm.cancelsAt = engine.cancelsAt := by
  funext file
  rw [cancelsAt, cancelsAt, sameAdapters]

end Engine

end Forgiven

/-! ## Reported failures -/

namespace Engine

/-- Some rule that is on fails at a node at a range, with a message that names the two. -/
def FailsAt (engine : Engine) (files : List SourceFile) (range : Range) (message : String) : Prop :=
  ∃ rule context node reason,
    engine.Inspects files rule context node ∧
      rule.evaluate context node = .error (.failed reason) ∧
      range.same (context.range node) = true ∧ rule.failureMessage node reason = message

section Reported

variable {engine : Engine} {files : List SourceFile} {range : Range}
  (indexed : engine.registry.IsIndexed)
  (complete : engine.WorksThrough files)

theorem internalRuleErrorId_not_mem_otherIds : internalRuleErrorId ∉ otherIds := by
  decide

/-- A finding under the id of failures is the failure of a rule, if rules use other ids. -/
theorem exists_failure_of_reports {rule : Rule} {context : Rule.Context} {node : Node}
    (other : rule.UsesOtherIds)
    {violation : Violation}
    (reports : rule.Reports context node violation)
    (isInternal : violation.ruleId = internalRuleErrorId) :
    ∃ reason,
      rule.evaluate context node = .error (.failed reason) ∧
        violation = rule.failure context node reason := by
  rcases Rule.reports_iff.mp reports with ⟨violations, evaluated, member⟩ | failed
  · exact absurd isInternal (other context node violations evaluated violation member)
  · exact failed

include indexed complete in
/-- Every failure that nothing silences comes up for the report. -/
theorem exists_unsilenced_of_failsAt
    (unsilenced : ¬ Silenced (engine.found files).suppressions internalRuleErrorId range)
    {message : String}
    (fails : engine.FailsAt files range message) :
    ∃ diagnostic ∈ (engine.found files).unsilenced,
      diagnostic.ruleId = internalRuleErrorId ∧ range.same diagnostic.range = true ∧
        diagnostic.severity = .low ∧ diagnostic.message = message := by
  rcases fails with ⟨rule, context, node, reason, inspected, failed, inRange, rfl⟩
  have reports : rule.Reports context node (rule.failure context node reason) :=
    Rule.reports_iff.mpr (Or.inr ⟨reason, failed, rfl⟩)
  refine ⟨(rule.failure context node reason).toDiagnostic, ?_, rfl, inRange, rfl, rfl⟩
  refine (Findings.mem_unsilenced_iff _ _).mpr ⟨rule.failure context node reason, ?_, ?_, rfl⟩
  · have notOther := internalRuleErrorId_not_mem_otherIds
    exact (mem_found_iff_of_not_otherIds indexed complete notOther).mpr
      ⟨rule, context, node, inspected, reports⟩
  · exact fun silenced => unsilenced ((Silenced.congr inRange).mpr silenced)

include indexed complete in
/-- Under the id of failures nothing else comes up for the report, if rules use other ids. -/
theorem failsAt_of_mem_unsilenced
    (others : ∀ rule ∈ engine.registry.rules, rule.UsesOtherIds)
    {diagnostic : Diagnostic}
    (member : diagnostic ∈ (engine.found files).unsilenced)
    (isInternal : diagnostic.ruleId = internalRuleErrorId)
    (inRange : range.same diagnostic.range = true) :
    diagnostic.severity = .low ∧ engine.FailsAt files range diagnostic.message := by
  rcases (Findings.mem_unsilenced_iff _ _).mp member with ⟨violation, isFound, _, rfl⟩
  have isInternal : violation.ruleId = internalRuleErrorId := isInternal
  have notOther : violation.ruleId ∉ otherIds := by
    rw [isInternal]
    exact internalRuleErrorId_not_mem_otherIds
  rcases (mem_found_iff_of_not_otherIds indexed complete notOther).mp isFound with
    ⟨rule, context, node, inspected, reports⟩
  rcases exists_failure_of_reports (others rule inspected.registered) reports isInternal with
    ⟨reason, failed, rfl⟩
  exact ⟨rfl, rule, context, node, reason, inspected, failed, inRange, rfl⟩

include indexed complete in
/-- Where rules fail and nothing silences that, the report has one diagnostic on the failures. -/
theorem exists_filter_finish_of_failsAt
    (unsilenced : ¬ Silenced (engine.found files).suppressions internalRuleErrorId range)
    {message : String}
    (fails : engine.FailsAt files range message) :
    ∃ diagnostic,
      (engine.found files).finish.filter
          (fun reported => reported.ruleId == internalRuleErrorId && range.same reported.range) =
        [diagnostic] ∧
        ((∀ rule ∈ engine.registry.rules, rule.UsesOtherIds) →
          diagnostic.severity = .low ∧ engine.FailsAt files range diagnostic.message ∧
            ∀ other, engine.FailsAt files range other → diagnostic.message ≤ other) := by
  rcases exists_unsilenced_of_failsAt indexed complete unsilenced fails with
    ⟨found, isFound, isInternal, inRange, _⟩
  rcases Findings.exists_filter_finish_at_eq isFound isInternal inRange with ⟨best, single, _⟩
  refine ⟨best, single, fun others => ?_⟩
  rcases Findings.exists_filter_finish_at_eq_of_messages
      (fun _ fails => exists_unsilenced_of_failsAt indexed complete unsilenced fails)
      (fun _ member isInternal inRange =>
        failsAt_of_mem_unsilenced indexed complete others member isInternal inRange)
      fails with
    ⟨named, namedSingle, isNamed⟩
  rw [List.singleton_inj.mp (single.symm.trans namedSingle)]
  exact isNamed

end Reported

/--
Failures of rules are reported and contained.  In the report of a completed run with any registered
rules, each range at which rules fail has exactly one diagnostic on failures, unless it is silenced.
If no rule uses the id of failures itself, the diagnostic is of low severity and names a rule and a
node; of all failures at the range it is the one with the least message.  And whichever failures are
forgiven, so that the rules find nothing where they fail, the run completes with the same
diagnostics under all other ids.
-/
theorem analyze_contains_rule_failures
    (machine : Machine)
    (rules : List Rule)
    (adapters : AdapterSet)
    (settings : Settings)
    (engine : Engine)
    (configured :
      configure machine (({} : Registry).registerAll rules) adapters settings = .ok engine)
    (token : Bool)
    (files : List SourceFile)
    (report : Report)
    (completed : (engine.analyze token files).1 = some (.ok report)) :
    (∀ range,
        ¬ Silenced (engine.found files).suppressions internalRuleErrorId range →
          ∀ message,
            engine.FailsAt files range message →
              ∃ diagnostic,
                report.diagnostics.filter
                    (fun reported =>
                      reported.ruleId == internalRuleErrorId && range.same reported.range) =
                  [diagnostic] ∧
                  ((∀ rule ∈ engine.registry.rules, rule.UsesOtherIds) →
                    diagnostic.severity = .low ∧
                      engine.FailsAt files range diagnostic.message ∧
                      ∀ other,
                        engine.FailsAt files range other → diagnostic.message ≤ other)) ∧
      ∀ forgives,
        ∃ calm calmReport,
          configure machine (({} : Registry).registerAll (rules.map (·.forgiven forgives))) adapters
              settings =
            .ok calm ∧
            (calm.analyze token files).1 = some (.ok calmReport) ∧
            report.diagnostics.filter (·.ruleId != internalRuleErrorId) =
              calmReport.diagnostics.filter (·.ruleId != internalRuleErrorId) := by
  rcases of_configure_eq_ok configured with ⟨rfl, sameRegistry, rfl, accepted⟩
  have indexed : engine.registry.IsIndexed := by
    rw [sameRegistry]
    exact Registry.isIndexed_empty.registerAll rules
  rcases analyze_eq_ok_iff.mp completed with ⟨notCancelled, pool, complete, isReport⟩
  constructor
  · intro range unsilenced message fails
    rw [isReport]
    exact exists_filter_finish_of_failsAt indexed complete unsilenced fails
  · intro forgives
    let calm : Engine :=
      { engine with
        registry := ({} : Registry).registerAll (rules.map (·.forgiven forgives)) }
    have sameRules : calm.registry.rules = engine.registry.rules.map (·.forgiven forgives) := by
      rw [sameRegistry]
      exact Registry.rules_registerAll_map_forgiven rfl rules
    have calmIndexed : calm.registry.IsIndexed := Registry.isIndexed_empty.registerAll _
    have calmConfigured :
        configure calm.machine calm.registry calm.adapters settings = .ok calm := by
      rw [configure, Registry.catalog_of_forgiven sameRules, sameRegistry, accepted]
      rfl
    have calmComplete := worksThrough_of_forgiven sameRules rfl rfl indexed calmIndexed complete
    have sameCancellation : calm.cancelsAt = engine.cancelsAt := cancelsAt_of_forgiven rfl
    rw [← sameCancellation] at notCancelled
    refine ⟨calm, _, calmConfigured,
      analyze_eq_ok_iff.mpr ⟨notCancelled, pool, calmComplete, rfl⟩, ?_⟩
    rw [isReport]
    exact (filter_reportOn_of_forgiven sameRules rfl rfl indexed calmIndexed complete
      files.length).symm

/-! Two failures at one range -/

/-- A rule that fails wherever it looks. -/
def strictRule : Rule :=
  { id := "Strict"
    description := "Functions and classes are not handled"
    category := .structural
    kinds := [.function, .class]
    evaluate := fun _ node => .error (.failed ("cannot handle " ++ node.nameText)) }

/-- A file with a class and a function that takes up all of it. -/
def nestedFile : SourceFile :=
  { path := { text := "src/a.json" }
    contents :=
      "[null, 0, [[0, \"Module\", [1, 1, 3, 9], [1], [], \"m\"], " ++
        "[1, \"Class\", [1, 1, 2, 9], [2], [], \"c\"], " ++
        "[2, \"Function\", [1, 1, 2, 9], [], [], \"f\"]]]" }

/-- The range of the class and of the function. -/
def nestedRange : Range :=
  { file := nestedFile.path
    span := { startLine := 1, startCol := 1, endLine := 2, endCol := 9 } }

/-- The class. -/
def nestedClass : Node :=
  { id := { index := 1 }
    kind := .class
    span := nestedRange.span
    name := some "c"
    children := [{ index := 2 }] }

/-- The function. -/
def nestedFunction : Node :=
  { id := { index := 2 }
    kind := .function
    span := nestedRange.span
    name := some "f" }

/-- The model of the file. -/
def nestedModel : Model :=
  .linked
    { path := nestedFile.path
      root := { index := 0 }
      lineCount := none
      nodes :=
        [{ id := { index := 0 }
           kind := .module
           span := { startLine := 1, startCol := 1, endLine := 3, endCol := 9 }
           name := some "m"
           children := [{ index := 1 }] },
          nestedClass, nestedFunction] }

theorem readDocument_nested (explain : String → String) :
    Adapter.readDocument explain nestedFile.contents nestedFile.path = .parsed nestedModel := by
  cbv

theorem exists_configure_strict :
    ∃ engine,
      configure {} (({} : Registry).registerAll [strictRule])
          (AdapterSet.builtin Adapter.silent) {} = .ok engine ∧
        engine.settings.isEnabled strictRule.id = true :=
  ⟨_, rfl, by decide +kernel⟩

section Strict

variable {engine : Engine}
  (configured :
    configure {} (({} : Registry).registerAll [strictRule])
      (AdapterSet.builtin Adapter.silent) {} = .ok engine)

include configured

theorem modelOf_nested :
    engine.modelOf nestedFile = .ok (.modelDocument Adapter.silent, nestedModel) := by
  rcases of_configure_eq_ok configured with ⟨_, _, adapters, _⟩
  rw [modelOf_of_builtin adapters (by decide +kernel), readDocument_nested]
  rfl

/-- A rule that fails comes to an end. -/
theorem worksThrough_nested : engine.WorksThrough [nestedFile] := by
  rcases of_configure_eq_ok configured with ⟨_, rules, _, _⟩
  have isFile :
      Registry.File.ofModel (.modelDocument Adapter.silent) nestedModel = .ok _ := rfl
  intro file member
  rw [List.mem_singleton.mp member, analyzeFile, modelOf_nested configured]
  cases evaluated : engine.registry.evaluate engine.settings _ with
  | ok violations => exact ⟨_, analyzeModel_eq_ok_iff.mpr ⟨_, violations, isFile, evaluated, rfl⟩⟩
  | error breakdown =>
      have indexed : engine.registry.IsIndexed := by
        rw [rules]
        exact Registry.isIndexed_empty.registerAll _
      rcases Registry.exists_endless_of_evaluate_eq_error indexed evaluated with
        ⟨_, _, _, rule, isRule, _, _, _, endless⟩
      rw [rules] at isRule
      rw [List.mem_singleton.mp isRule] at endless
      cases endless

theorem analyze_nested :
    engine.analyze false [nestedFile] =
        (some (.ok (engine.reportOn 1 ([nestedFile].map engine.outcomeOf))), false) ∧
      (engine.found [nestedFile]).suppressions = [] := by
  rcases of_configure_eq_ok configured with ⟨_, _, adapters, _⟩
  have complete := worksThrough_nested configured
  refine ⟨analyze_eq_ok (fun file _ => cancelsAt_eq_false_of_builtin adapters file)
    (poolFault?_eq_none configured) complete, ?_⟩
  have analyzed := complete.analyzeFile_eq (List.mem_singleton_self nestedFile)
  rw [analyzeFile, modelOf_nested configured] at analyzed
  rcases analyzeModel_eq_ok_iff.mp analyzed with ⟨_, _, _, _, isOutcome⟩
  simp only [found, List.map_singleton, List.flatMap_singleton, isOutcome]
  rfl

/-- The rule looks at the class and at the function. -/
theorem inspects_nested (isEnabled : engine.settings.isEnabled strictRule.id = true) {node : Node}
    (isNested : node = nestedClass ∨ node = nestedFunction) :
    ∃ context,
      engine.Inspects [nestedFile] strictRule context node ∧
        nestedRange.same (context.range node) = true := by
  have isFile :
      Registry.File.ofModel (.modelDocument Adapter.silent) nestedModel = .ok _ := rfl
  rcases Registry.isEnabled_iff_exists_context?.mp isEnabled with ⟨context, on⟩
  have registered : strictRule ∈ engine.registry.rules := by
    rw [(of_configure_eq_ok configured).2.1]
    exact List.mem_singleton_self strictRule
  refine ⟨context, ⟨registered, ?_, ?_⟩, ?_⟩
  · rcases isNested with rfl | rfl <;> decide
  · refine ⟨nestedFile, List.mem_singleton_self _, _, _, _, modelOf_nested configured, isFile, ?_,
      on⟩
    exact List.mem_cons_of_mem _ (List.mem_pair.mpr isNested)
  · rw [Rule.Context.range, (Registry.of_context?_eq_some on).1]
    rcases isNested with rfl | rfl <;> decide

/-- It fails at both, and at no other node. -/
theorem failsAt_nested_iff (isEnabled : engine.settings.isEnabled strictRule.id = true)
    {message : String} :
    engine.FailsAt [nestedFile] nestedRange message ↔
      message = "Rule Strict failed on Class node #1: cannot handle c" ∨
        message = "Rule Strict failed on Function node #2: cannot handle f" := by
  constructor
  · rintro ⟨rule, context, node, reason, ⟨registered, looks, inFile⟩, failed, _, rfl⟩
    rw [(of_configure_eq_ok configured).2.1] at registered
    cases List.mem_singleton.mp registered
    cases failed
    rcases inFile with ⟨source, isSource, adapter, model, file, obtained, _, isNode, _⟩
    rw [List.mem_singleton.mp isSource, modelOf_nested configured] at obtained
    cases obtained
    rcases List.mem_cons.mp isNode with rfl | isNested
    · exact absurd looks (by decide)
    · rcases List.mem_pair.mp isNested with rfl | rfl
      · exact Or.inl (by decide +kernel)
      · exact Or.inr (by decide +kernel)
  · intro isMessage
    rcases isMessage with rfl | rfl
    · rcases inspects_nested configured isEnabled (Or.inl rfl) with ⟨context, inspected, inRange⟩
      exact ⟨_, _, _, _, inspected, rfl, inRange, by decide +kernel⟩
    · rcases inspects_nested configured isEnabled (Or.inr rfl) with ⟨context, inspected, inRange⟩
      exact ⟨_, _, _, _, inspected, rfl, inRange, by decide +kernel⟩

/-- Of the two messages the one on the class comes first. -/
theorem eq_of_least_nested (isEnabled : engine.settings.isEnabled strictRule.id = true)
    {message : String}
    (fails : engine.FailsAt [nestedFile] nestedRange message)
    (isLeast : ∀ other, engine.FailsAt [nestedFile] nestedRange other → message ≤ other) :
    message = "Rule Strict failed on Class node #1: cannot handle c" := by
  rcases (failsAt_nested_iff configured isEnabled).mp fails with isClass | isFunction
  · exact isClass
  · have least := isLeast _ ((failsAt_nested_iff configured isEnabled).mpr (Or.inl rfl))
    rw [isFunction] at least
    exact absurd least (by decide)

theorem isIndexed_strict : engine.registry.IsIndexed := by
  rw [(of_configure_eq_ok configured).2.1]
  exact Registry.isIndexed_empty.registerAll _

theorem usesOtherIds_strict : ∀ rule ∈ engine.registry.rules, rule.UsesOtherIds := by
  intro rule registered context node violations evaluated
  rw [(of_configure_eq_ok configured).2.1] at registered
  cases List.mem_singleton.mp registered
  cases evaluated

end Strict

/-- The report names the failure at the class. -/
theorem analyze_names_failure_on_class :
    ∃ engine report diagnostic,
      configure {} (({} : Registry).registerAll [strictRule])
          (AdapterSet.builtin Adapter.silent) {} = .ok engine ∧
        engine.analyze false [nestedFile] = (some (.ok report), false) ∧
        report.diagnostics.filter
            (fun reported =>
              reported.ruleId == internalRuleErrorId && nestedRange.same reported.range) =
          [diagnostic] ∧
        diagnostic.message = "Rule Strict failed on Class node #1: cannot handle c" := by
  rcases exists_configure_strict with ⟨engine, configured, isEnabled⟩
  rcases analyze_nested configured with ⟨completed, unmarked⟩
  have unsilenced :
      ¬ Silenced (engine.found [nestedFile]).suppressions internalRuleErrorId nestedRange := by
    rw [unmarked]
    exact not_silenced_nil _ _
  have onClass := (failsAt_nested_iff configured isEnabled).mpr (Or.inl rfl)
  rcases (analyze_contains_rule_failures _ _ _ _ engine configured false _ _
      (by rw [completed])).1 _ unsilenced _ onClass with
    ⟨diagnostic, single, isNamed⟩
  rcases isNamed (usesOtherIds_strict configured) with ⟨_, fails, isLeast⟩
  exact ⟨engine, _, diagnostic, configured, completed, single,
    eq_of_least_nested configured isEnabled fails isLeast⟩

/-- Nothing suppresses the failure at the function, and the report does not name it. -/
theorem analyze_leaves_out_failure_on_function :
    ∃ engine report context,
      configure {} (({} : Registry).registerAll [strictRule])
          (AdapterSet.builtin Adapter.silent) {} = .ok engine ∧
        engine.analyze false [nestedFile] = (some (.ok report), false) ∧
        (engine.found [nestedFile]).suppressions = [] ∧
        engine.Inspects [nestedFile] strictRule context nestedFunction ∧
        strictRule.evaluate context nestedFunction = .error (.failed "cannot handle f") ∧
        nestedRange.same (context.range nestedFunction) = true ∧
        ∀ diagnostic ∈ report.diagnostics,
          diagnostic.ruleId = internalRuleErrorId →
            nestedRange.same diagnostic.range = true →
              ¬ "#2".toList <:+: diagnostic.message.toList := by
  rcases exists_configure_strict with ⟨engine, configured, isEnabled⟩
  rcases analyze_nested configured with ⟨completed, unmarked⟩
  rcases inspects_nested configured isEnabled (Or.inr rfl) with ⟨context, inspected, inRange⟩
  refine ⟨engine, _, context, configured, completed, unmarked, inspected, rfl, inRange, ?_⟩
  have unsilenced :
      ¬ Silenced (engine.found [nestedFile]).suppressions internalRuleErrorId nestedRange := by
    rw [unmarked]
    exact not_silenced_nil _ _
  have onClass := (failsAt_nested_iff configured isEnabled).mpr (Or.inl rfl)
  rcases exists_filter_finish_of_failsAt (isIndexed_strict configured)
      (worksThrough_nested configured) unsilenced onClass with
    ⟨reported, single, isNamed⟩
  rcases isNamed (usesOtherIds_strict configured) with ⟨_, fails, isLeast⟩
  intro diagnostic member isInternal sameRange
  have isReported : diagnostic ∈ [reported] := by
    rw [← single, List.mem_filter, isInternal, sameRange]
    exact ⟨member, rfl⟩
  rw [List.mem_singleton.mp isReported, eq_of_least_nested configured isEnabled fails isLeast]
  decide

end Engine

end StructuralLint
