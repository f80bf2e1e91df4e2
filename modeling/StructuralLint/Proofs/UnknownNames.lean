import StructuralLint.Proofs.Cancellation
import StructuralLint.Proofs.FailedFiles
import StructuralLint.Proofs.RuleSwitch
import StructuralLint.Proofs.SettingsResolution

/-!
# Names in markers that denote no rule

A marker may list any number of names, and each name that denotes no rule is found on its own.  All
of these findings have the rule and the range in common, and of several findings with one rule at
one range a report keeps the first only.  So every marker with an unknown name is reported, but the
report names one of its unknown names: the one whose message comes first.
-/

namespace StructuralLint

/-! ## What markers list -/

namespace Suppression

/--
A comment of a model lists a name that denotes no rule of a catalogue, in a marker without a
star.
-/
structure ListsUnknown (model : Model) (catalog : List RuleInfo) (comment : Node)
    (name : String) : Prop where
  isComment : comment ∈ model.nodesOfKind .comment
  listed :
    ∃ text names,
      comment.text = some text ∧ Marker.parse? text = some names ∧ name ∈ names ∧ "*" ∉ names
  unknown : ∀ info ∈ catalog, ¬ info.IsDenotedBy name

theorem mem_markers_iff {model : Model} {comment : Node} {names : List String} :
    (comment, names) ∈ markers model ↔
      comment ∈ model.nodesOfKind .comment ∧
        ∃ text, comment.text = some text ∧ Marker.parse? text = some names := by
  rw [markers, List.mem_filterMap]
  constructor
  · rintro ⟨found, isComment, named⟩
    rcases Option.map_eq_some_iff.mp named with ⟨_, parsed, equal⟩
    cases equal
    exact ⟨isComment, Option.bind_eq_some_iff.mp parsed⟩
  · rintro ⟨isComment, text, hasText, parsed⟩
    refine ⟨comment, isComment, ?_⟩
    rw [hasText, Option.bind_some, parsed]
    rfl

/-- The findings on a model are those on the unknown names that its comments list. -/
theorem mem_collect_iff {model : Model} {settings : ResolvedSettings} {catalog : List RuleInfo}
    (knows :
      ∀ name, settings.canonicalId? name = none ↔ ∀ info ∈ catalog, ¬ info.IsDenotedBy name)
    {violation : Violation} :
    violation ∈ (collect model settings).2 ↔
      ∃ comment name,
        ListsUnknown model catalog comment name ∧ unknownName model comment name = violation := by
  rw [collect, List.mem_flatMap]
  constructor
  · rintro ⟨⟨comment, names⟩, marker, found⟩
    simp only [unknownNames, List.mem_ite_nil_left, List.contains_iff_mem, List.mem_map,
      List.mem_filter, Option.isNone_iff_eq_none] at found
    rcases found with ⟨noStar, name, ⟨listed, unknown⟩, equal⟩
    rcases mem_markers_iff.mp marker with ⟨isComment, text, hasText, parsed⟩
    exact ⟨comment, name,
      ⟨isComment, ⟨text, names, hasText, parsed, listed, noStar⟩, (knows name).mp unknown⟩, equal⟩
  · rintro ⟨comment, name, ⟨isComment, listed, unknown⟩, equal⟩
    rcases listed with ⟨text, names, hasText, parsed, listed, noStar⟩
    refine ⟨(comment, names), mem_markers_iff.mpr ⟨isComment, text, hasText, parsed⟩, ?_⟩
    simp only [unknownNames, List.mem_ite_nil_left, List.contains_iff_mem, List.mem_map,
      List.mem_filter, Option.isNone_iff_eq_none]
    exact ⟨noStar, name, ⟨listed, (knows name).mpr unknown⟩, equal⟩

end Suppression

/-- Findings on duplication carry the id of a rule on duplication. -/
theorem Duplication.ruleId_mem_of_mem_detect {files : List Fingerprints}
    {settings : ResolvedSettings} {violation : Violation}
    (found : violation ∈ detect files settings) :
    violation.ruleId ∈ [duplicateCodeId, similarStructureId, duplicateConditionalId] := by
  simp only [detect, List.mem_append, List.mem_ite_nil_right, List.mem_flatMap] at found
  rcases found with (⟨_, _, _, found⟩ | ⟨_, _, _, found⟩) | ⟨_, found⟩
  · simp [(of_mem_duplicateCode found).1]
  · simp [(of_mem_similarStructure found).1]
  · simp [(of_mem_duplicateConditionals found).1]

namespace Engine

/--
A comment at a range, in a file that a model is obtained of, lists a name that denotes no rule.
-/
def ListsUnknown (engine : Engine) (files : List SourceFile) (range : Range) (name : String) :
    Prop :=
  ∃ file ∈ files, ∃ adapter model,
    engine.modelOf file = .ok (adapter, model) ∧
      ∃ comment,
        Suppression.ListsUnknown model engine.registry.catalog comment name ∧
          range.same (model.range comment) = true

/-- The message of a finding on a name that denotes no rule. -/
def unknownNameMessage (name : String) : String :=
  "Suppression references unknown rule `" ++ name ++ "`"

/-! ## What a run finds -/

/--
A run completes when nobody cancels it, the workers start and no file breaks down, with the report
on what the files contribute.
-/
theorem analyze_eq_ok_iff {engine : Engine} {token : Bool} {files : List SourceFile}
    {report : Report} :
    (engine.analyze token files).1 = some (.ok report) ↔
      (token || files.any engine.cancelsAt) = false ∧ engine.poolFault? = none ∧
        engine.WorksThrough files ∧
        report = engine.reportOn files.length (files.map engine.outcomeOf) := by
  constructor
  · intro completed
    cases token with
    | true => cases completed
    | false =>
        cases pool : engine.poolFault? with
        | some reason => simp [analyze, run, Cancellation.during, pool] at completed
        | none =>
            have undisturbed : files.any engine.cancelsAt = false := by
              rw [← afterFiles_during_eq pool]
              exact afterFiles_of_run_eq_ok completed
            rw [analyze_eq_run_never (by simpa using undisturbed)] at completed
            by_cases complete : engine.WorksThrough files
            · rw [run_never_of_worksThrough pool complete] at completed
              cases completed
              exact ⟨undisturbed, rfl, complete, rfl⟩
            · rw [run_never_of_not_worksThrough pool complete] at completed
              cases completed
  · rintro ⟨cancelled, pool, complete, rfl⟩
    rcases Bool.or_eq_false_iff.mp cancelled with ⟨rfl, undisturbed⟩
    rw [analyze_eq_ok (by simpa using undisturbed) pool complete]

/--
The names that denote no rule for resolved settings are those that denote none of the
catalogue.
-/
theorem canonicalId?_eq_none_iff {machine : Machine} {registry : Registry} {adapters : AdapterSet}
    {settings : Settings} {engine : Engine}
    (configured : configure machine registry adapters settings = .ok engine)
    (name : String) :
    engine.settings.canonicalId? name = none ↔
      ∀ info ∈ engine.registry.catalog, ¬ info.IsDenotedBy name := by
  rcases of_configure_eq_ok configured with ⟨_, rfl, _, accepted⟩
  have ids := Settings.mem_ruleIds_iff_of_resolve accepted
  simp only [ResolvedSettings.canonicalId?, List.find?_eq_none, beq_iff_eq, ids, List.mem_map,
    forall_exists_index, and_imp, forall_apply_eq_imp_iff₂, RuleInfo.IsDenotedBy]

section Findings

variable {engine : Engine}
  (apart :
    ∀ rule ∈ engine.registry.rules, ∀ context node violation,
      rule.Reports context node violation → violation.ruleId ≠ unknownSuppressionId)

include apart in
/-- The findings on unknown names in a file are those of its model. -/
theorem mem_violations_iff_of_unknown {source : SourceFile} {outcome : FileOutcome}
    (analyzed : engine.analyzeFile source = .ok outcome)
    {violation : Violation}
    (isUnknown : violation.ruleId = unknownSuppressionId) :
    violation ∈ outcome.violations ↔
      ∃ adapter model,
        engine.modelOf source = .ok (adapter, model) ∧
          violation ∈ (Suppression.collect model engine.settings).2 := by
  rw [mem_violations_iff analyzed]
  constructor
  · rintro (⟨fault, _, rfl⟩ | ⟨adapter, model, obtained, byRule | unknown⟩)
    · cases fault <;>
        simp [failureFinding, unknownSuppressionId, modelInvariantId, parseErrorId] at isUnknown
    · rcases byRule with ⟨file, violations, _, evaluated, member⟩
      rcases Registry.exists_reports_of_mem_evaluate evaluated member with
        ⟨node, _, rule, isRule, context, _, reports⟩
      exact absurd isUnknown (apart rule isRule context node violation reports)
    · exact ⟨adapter, model, obtained, unknown⟩
  · rintro ⟨adapter, model, obtained, unknown⟩
    exact Or.inr ⟨adapter, model, obtained, Or.inr unknown⟩

variable (engine) in
/-- All that is found on some files before anything is silenced or merged. -/
def found (files : List SourceFile) : Findings :=
  { violations :=
      (files.map engine.outcomeOf).flatMap (·.violations) ++
        Duplication.detect ((files.map engine.outcomeOf).filterMap (·.fingerprints))
          engine.settings
    suppressions := (files.map engine.outcomeOf).flatMap (·.suppressions) }

variable {files : List SourceFile} (complete : engine.WorksThrough files)

include apart complete in
/-- What is found on unknown names is what the comments of all models list. -/
theorem exists_mem_found_iff
    (knows :
      ∀ name, engine.settings.canonicalId? name = none ↔
        ∀ info ∈ engine.registry.catalog, ¬ info.IsDenotedBy name)
    {violation : Violation} :
    (violation ∈ (engine.found files).violations ∧ violation.ruleId = unknownSuppressionId) ↔
      ∃ file ∈ files, ∃ adapter model,
        engine.modelOf file = .ok (adapter, model) ∧
          ∃ comment name,
            Suppression.ListsUnknown model engine.registry.catalog comment name ∧
              Suppression.unknownName model comment name = violation := by
  constructor
  · rintro ⟨isFound, isUnknown⟩
    rcases List.mem_append.mp isFound with inFile | isDuplicate
    · rw [List.flatMap_map] at inFile
      rcases List.mem_flatMap.mp inFile with ⟨file, isFile, ofFile⟩
      have analyzed := complete.analyzeFile_eq isFile
      rcases (mem_violations_iff_of_unknown apart analyzed isUnknown).mp ofFile with
        ⟨adapter, model, obtained, named⟩
      exact ⟨file, isFile, adapter, model, obtained, (Suppression.mem_collect_iff knows).mp named⟩
    · have isOther := Duplication.ruleId_mem_of_mem_detect isDuplicate
      rw [isUnknown] at isOther
      exact absurd isOther (by decide)
  · rintro ⟨file, isFile, adapter, model, obtained, comment, name, listed, rfl⟩
    refine ⟨List.mem_append_left _ ?_, rfl⟩
    rw [List.flatMap_map]
    have named := (Suppression.mem_collect_iff knows).mpr ⟨comment, name, listed, rfl⟩
    have analyzed := complete.analyzeFile_eq isFile
    exact List.mem_flatMap.mpr
      ⟨file, isFile,
        (mem_violations_iff_of_unknown apart analyzed rfl).mpr ⟨adapter, model, obtained, named⟩⟩

variable
  (knows :
    ∀ name, engine.settings.canonicalId? name = none ↔
      ∀ info ∈ engine.registry.catalog, ¬ info.IsDenotedBy name)
  {range : Range}

include apart complete knows in
/-- A listed name is found, and nothing silences the finding. -/
theorem exists_unsilenced_of_listsUnknown {name : String}
    (listed : engine.ListsUnknown files range name) :
    ∃ diagnostic ∈ (engine.found files).unsilenced,
      diagnostic.ruleId = unknownSuppressionId ∧ range.same diagnostic.range = true ∧
        diagnostic.severity = .low ∧ diagnostic.message = unknownNameMessage name := by
  rcases listed with ⟨file, isFile, adapter, model, obtained, comment, listed, inRange⟩
  have isFound := (exists_mem_found_iff apart complete knows).mpr
    ⟨file, isFile, adapter, model, obtained, comment, name, listed, rfl⟩
  refine ⟨(Suppression.unknownName model comment name).toDiagnostic, ?_, rfl, inRange, rfl, rfl⟩
  apply (Findings.mem_unsilenced_iff _ _).mpr
  exact ⟨_, isFound.1, fun silenced => silenced.1 rfl, rfl⟩

include apart complete knows in
/-- Nothing else is found on unknown names. -/
theorem exists_listsUnknown_of_unsilenced {diagnostic : Diagnostic}
    (member : diagnostic ∈ (engine.found files).unsilenced)
    (isUnknown : diagnostic.ruleId = unknownSuppressionId)
    (inRange : range.same diagnostic.range = true) :
    ∃ name,
      engine.ListsUnknown files range name ∧ diagnostic.severity = .low ∧
        diagnostic.message = unknownNameMessage name := by
  rcases (Findings.mem_unsilenced_iff _ _).mp member with ⟨violation, isFound, _, rfl⟩
  rcases (exists_mem_found_iff apart complete knows).mp ⟨isFound, isUnknown⟩ with
    ⟨file, isFile, adapter, model, obtained, comment, name, listed, rfl⟩
  exact ⟨name, ⟨file, isFile, adapter, model, obtained, comment, listed, inRange⟩, rfl, rfl⟩

include apart complete knows in
/-- Of the messages on the names that are listed at a range the least is reported, and no other. -/
theorem exists_filter_found_eq {name : String}
    (listed : engine.ListsUnknown files range name) :
    ∃ diagnostic least,
      (engine.found files).finish.filter
          (fun reported =>
            reported.ruleId == unknownSuppressionId && range.same reported.range) =
        [diagnostic] ∧
        diagnostic.severity = .low ∧
        diagnostic.message = unknownNameMessage least ∧
        engine.ListsUnknown files range least ∧
        ∀ other,
          engine.ListsUnknown files range other →
            unknownNameMessage least ≤ unknownNameMessage other := by
  let IsMessage (message : String) : Prop :=
    ∃ name, engine.ListsUnknown files range name ∧ unknownNameMessage name = message
  have found (message : String) (isMessage : IsMessage message) :
      ∃ diagnostic ∈ (engine.found files).unsilenced,
        diagnostic.ruleId = unknownSuppressionId ∧ range.same diagnostic.range = true ∧
          diagnostic.severity = .low ∧ diagnostic.message = message := by
    rcases isMessage with ⟨name, listed, rfl⟩
    exact exists_unsilenced_of_listsUnknown apart complete knows listed
  have sound (diagnostic : Diagnostic) (member : diagnostic ∈ (engine.found files).unsilenced)
      (isUnknown : diagnostic.ruleId = unknownSuppressionId)
      (inRange : range.same diagnostic.range = true) :
      diagnostic.severity = .low ∧ IsMessage diagnostic.message := by
    rcases exists_listsUnknown_of_unsilenced apart complete knows member isUnknown inRange with
      ⟨name, listed, isLow, names⟩
    exact ⟨isLow, name, listed, names.symm⟩
  rcases Findings.exists_filter_finish_at_eq_of_messages found sound ⟨name, listed, rfl⟩ with
    ⟨diagnostic, single, isLow, ⟨least, leastListed, names⟩, isLeast⟩
  refine ⟨diagnostic, least, single, isLow, names.symm, leastListed, ?_⟩
  intro other otherListed
  rw [names]
  exact isLeast _ ⟨other, otherListed, rfl⟩

end Findings

/-- No rule of the library reports under the id of findings on unknown names. -/
theorem ruleId_ne_of_builtin {rule : Rule}
    (isRule : rule ∈ Registry.builtin.rules)
    {context : Rule.Context} {node : Node} {violation : Violation}
    (found : rule.Reports context node violation) :
    violation.ruleId ≠ unknownSuppressionId := by
  have own := Rule.reportsOwnId_of_mem_builtin (Registry.mem_builtin isRule)
  rw [own.ruleId_of_reports found]
  have listed : rule.info ∈ Registry.builtin.catalog :=
    List.mem_append_left _ (List.mem_map_of_mem isRule)
  intro isUnknown
  exact not_mem_reservedIds_of_mem_catalog listed (by simp [reservedIds, Rule.info, isUnknown])

/--
Unknown names are reported once for each range.  Where comments at a range list names that denote no
rule, the report of a completed run holds exactly one diagnostic on unknown names at this range, and
of the messages that name these names it carries the least.
-/
theorem analyze_reports_least_unknown_name
    (machine : Machine)
    (registry : Registry)
    (adapters : AdapterSet)
    (settings : Settings)
    (engine : Engine)
    (configured : configure machine registry adapters settings = .ok engine)
    (apart :
      ∀ rule ∈ registry.rules, ∀ context node violation,
        rule.Reports context node violation → violation.ruleId ≠ unknownSuppressionId)
    (token : Bool)
    (files : List SourceFile)
    (report : Report)
    (completed : (engine.analyze token files).1 = some (.ok report))
    (range : Range)
    (name : String)
    (listed : engine.ListsUnknown files range name) :
    ∃ diagnostic least,
      report.diagnostics.filter
          (fun reported =>
            reported.ruleId == unknownSuppressionId && range.same reported.range) =
        [diagnostic] ∧
        diagnostic.severity = .low ∧
        diagnostic.message = unknownNameMessage least ∧
        engine.ListsUnknown files range least ∧
        ∀ other,
          engine.ListsUnknown files range other →
            unknownNameMessage least ≤ unknownNameMessage other := by
  have knows := canonicalId?_eq_none_iff configured
  rcases of_configure_eq_ok configured with ⟨_, rfl, _, _⟩
  rcases analyze_eq_ok_iff.mp completed with ⟨_, _, complete, rfl⟩
  exact exists_filter_found_eq apart complete knows listed

/-! ## Two unknown names in one marker -/

/-- A module with a comment that lists two names of no rule. -/
def twoNamesFile : SourceFile :=
  { path := { text := "src/a.json" }
    contents :=
      "[null, 0, [[0, \"Module\", [1, 1, 2, 9], [], [], \"m\"], [1, \"Comment\", [1, 1, 1, 40], " ++
        "[], [], null, null, null, null, null, \"# suppress: NoSuchRule, NoSuchMetric\"]]]" }

/-- The range of its comment. -/
def twoNamesRange : Range :=
  { file := twoNamesFile.path
    span := { startLine := 1, startCol := 1, endLine := 1, endCol := 40 } }

/-- The comment. -/
def twoNamesComment : Node :=
  { id := { index := 1 }
    kind := .comment
    span := { startLine := 1, startCol := 1, endLine := 1, endCol := 40 }
    text := some "# suppress: NoSuchRule, NoSuchMetric" }

/-- The model of the file. -/
def twoNamesModel : Model :=
  .linked
    { path := twoNamesFile.path
      root := { index := 0 }
      lineCount := none
      nodes :=
        [{ id := { index := 0 }
           kind := .module
           span := { startLine := 1, startCol := 1, endLine := 2, endCol := 9 }
           name := some "m" },
          twoNamesComment] }

theorem readDocument_twoNames (explain : String → String) :
    Adapter.readDocument explain twoNamesFile.contents twoNamesFile.path =
      .parsed twoNamesModel := by
  cbv

theorem parse?_twoNames :
    Marker.parse? "# suppress: NoSuchRule, NoSuchMetric" =
      some ["NoSuchRule", "NoSuchMetric"] := by
  cbv

section TwoNames

variable {engine : Engine}
  (configured :
    configure {} Registry.builtin (AdapterSet.builtin Adapter.silent) {} = .ok engine)

include configured

theorem modelOf_twoNamesFile :
    engine.modelOf twoNamesFile = .ok (.modelDocument Adapter.silent, twoNamesModel) := by
  rcases of_configure_eq_ok configured with ⟨_, _, adapters, _⟩
  rw [modelOf_of_builtin adapters (by decide +kernel), readDocument_twoNames]
  rfl

/-- The file does not break down: the one comment in it is owned by nobody. -/
theorem worksThrough_twoNamesFile : engine.WorksThrough [twoNamesFile] := by
  rcases of_configure_eq_ok configured with ⟨_, rules, _, _⟩
  have isFile :
      Registry.File.ofModel (.modelDocument Adapter.silent) twoNamesModel = .ok _ := rfl
  have accepted : Model.ingest twoNamesModel.path twoNamesModel.root twoNamesModel.nodes none =
      .ok twoNamesModel := rfl
  intro file member
  rw [List.mem_singleton.mp member]
  refine exists_analyzeFile_eq_ok rules (modelOf_twoNamesFile configured) isFile ?_
  intro node _ _ context on endless
  have sameModel : context.model = twoNamesModel := (Registry.of_context?_eq_some on).1
  have wellFormed : context.model.IsWellFormed := sameModel ▸ .of_ingest accepted
  rcases (Rule.redundantComment_eq_endless_iff wellFormed).mp endless with ⟨owner, _, worded, _⟩
  have isOwner := Rule.Comments.commentOwner?_of_worded? worded
  rw [sameModel] at isOwner
  cases isOwner

/-- Both names are listed, and no other name is. -/
theorem listsUnknown_twoNames_iff {name : String} :
    engine.ListsUnknown [twoNamesFile] twoNamesRange name ↔
      name = "NoSuchRule" ∨ name = "NoSuchMetric" := by
  rcases of_configure_eq_ok configured with ⟨_, rules, _, _⟩
  have obtained := modelOf_twoNamesFile configured
  constructor
  · rintro ⟨file, isFile, adapter, model, isModel, comment, ⟨isComment, listed, _⟩, _⟩
    rw [List.mem_singleton.mp isFile, obtained] at isModel
    cases isModel
    have isOnly : comment = twoNamesComment := List.mem_singleton.mp isComment
    rcases listed with ⟨text, names, hasText, parsed, isListed, _⟩
    rw [isOnly] at hasText
    cases hasText
    rw [parse?_twoNames] at parsed
    cases parsed
    simpa using isListed
  · intro isName
    refine ⟨twoNamesFile, List.mem_cons_self, _, _, obtained, twoNamesComment, ?_, by decide⟩
    have listed : name ∈ ["NoSuchRule", "NoSuchMetric"] := by simpa using isName
    refine ⟨List.mem_singleton.mpr rfl, ⟨_, _, rfl, parse?_twoNames, listed, by decide⟩, ?_⟩
    have unknown : ∀ unknown ∈ ["NoSuchRule", "NoSuchMetric"],
        ∀ info ∈ Registry.builtin.catalog, ¬ info.IsDenotedBy unknown := by
      decide +kernel
    rw [rules]
    exact unknown name listed

theorem analyze_twoNamesFile_eq_ok :
    engine.analyze false [twoNamesFile] =
      (some (.ok (engine.reportOn 1 ([twoNamesFile].map engine.outcomeOf))), false) := by
  rcases of_configure_eq_ok configured with ⟨_, _, adapters, _⟩
  exact analyze_eq_ok (fun file _ => cancelsAt_eq_false_of_builtin adapters file)
    (poolFault?_eq_none configured) (worksThrough_twoNamesFile configured)

end TwoNames

/-- The report names the one whose message comes first. -/
theorem analyze_names_unknown_metric :
    ∃ engine report diagnostic,
      configure {} Registry.builtin (AdapterSet.builtin Adapter.silent) {} = .ok engine ∧
        engine.analyze false [twoNamesFile] = (some (.ok report), false) ∧
        report.diagnostics.filter
            (fun reported =>
              reported.ruleId == unknownSuppressionId && twoNamesRange.same reported.range) =
          [diagnostic] ∧
        diagnostic.message = "Suppression references unknown rule `NoSuchMetric`" := by
  rcases exists_configure_default with ⟨engine, configured⟩
  have completed := analyze_twoNamesFile_eq_ok configured
  have listed := (listsUnknown_twoNames_iff configured).mpr (Or.inr rfl)
  rcases analyze_reports_least_unknown_name _ _ _ _ engine configured
      (fun rule isRule _ _ _ => ruleId_ne_of_builtin isRule) false _ _ (by rw [completed]) _ _
      listed with
    ⟨diagnostic, least, single, _, names, leastListed, isLeast⟩
  refine ⟨engine, _, diagnostic, configured, completed, single, ?_⟩
  rcases (listsUnknown_twoNames_iff configured).mp leastListed with rfl | rfl
  · exact absurd (isLeast _ listed) (by decide)
  · exact names

/-- It does not name the other. -/
theorem analyze_leaves_out_unknown_rule :
    ∃ engine report,
      configure {} Registry.builtin (AdapterSet.builtin Adapter.silent) {} = .ok engine ∧
        engine.analyze false [twoNamesFile] = (some (.ok report), false) ∧
        engine.ListsUnknown [twoNamesFile] twoNamesRange "NoSuchRule" ∧
        ∀ diagnostic ∈ report.diagnostics,
          diagnostic.ruleId = unknownSuppressionId →
            twoNamesRange.same diagnostic.range = true →
              ¬ "NoSuchRule".toList <:+: diagnostic.message.toList := by
  rcases exists_configure_default with ⟨engine, configured⟩
  rcases of_configure_eq_ok configured with ⟨_, rules, _, _⟩
  have completed := analyze_twoNamesFile_eq_ok configured
  have twoNames {name : String} :
      engine.ListsUnknown [twoNamesFile] twoNamesRange name ↔
        name = "NoSuchRule" ∨ name = "NoSuchMetric" :=
    listsUnknown_twoNames_iff configured
  refine ⟨engine, _, configured, completed, twoNames.mpr (Or.inl rfl), ?_⟩
  have apart : ∀ rule ∈ engine.registry.rules, ∀ context node violation,
      rule.Reports context node violation → violation.ruleId ≠ unknownSuppressionId := by
    rw [rules]
    exact fun rule isRule _ _ _ => ruleId_ne_of_builtin isRule
  have metric := twoNames.mpr (Or.inr rfl)
  rcases exists_filter_found_eq apart (worksThrough_twoNamesFile configured)
      (canonicalId?_eq_none_iff configured) metric with
    ⟨reported, least, single, _, names, leastListed, isLeast⟩
  intro diagnostic member isUnknown inRange
  have isReported : diagnostic ∈ [reported] := by
    rw [← single, List.mem_filter, isUnknown, inRange]
    exact ⟨member, rfl⟩
  rw [List.mem_singleton.mp isReported, names]
  rcases twoNames.mp leastListed with rfl | rfl
  · exact absurd (isLeast _ metric) (by decide)
  · decide

end Engine

end StructuralLint
