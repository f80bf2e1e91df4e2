import Mathlib.Data.List.Perm.Subperm
import StructuralLint.Proofs.ExactDoubles
import StructuralLint.Proofs.Measures
import StructuralLint.Proofs.RunFindings

/-!
# Functions above a limit

Two rules measure functions, by their parameters and by how deep their control statements nest, and
report a function whose measure exceeds a configured limit.  The limit is a double, so this module
first shows that measures are small: an accepted model has no more nodes than there are ids.  The
comparison of doubles is then that of the measure with the exact value of the limit, and the report
of a run holds one diagnostic for a range exactly when some function at that range is above it.
-/

namespace StructuralLint

/-- The models that an adapter obtains were accepted. -/
def Adapter.YieldsAccepted (adapter : Adapter) : Prop :=
  ∀ contents path model,
    (adapter.attempt contents path).outcome = .parsed model →
      ∃ source root nodes lineCount, Model.ingest source root nodes lineCount = .ok model

/-- The model of an adapter that yields accepted ones is well formed. -/
theorem Adapter.YieldsAccepted.wellFormed_of_parse_eq_ok {adapter : Adapter}
    (accepts : adapter.YieldsAccepted)
    {contents : String} {path : SourcePath} {limit : Nat} {model : Model}
    (parsed : adapter.parse contents path limit = .ok model) :
    model.IsWellFormed := by
  simp only [Adapter.parse] at parsed
  split at parsed
  · cases parsed
  · have isParsed := Adapter.Outcome.toModel_eq_ok_iff.mp parsed
    rcases accepts contents path model isParsed with ⟨source, root, nodes, lineCount, accepted⟩
    exact Model.IsWellFormed.of_ingest accepted

theorem Adapter.modelDocument_yieldsAccepted (explain : String → String) :
    (Adapter.modelDocument explain).YieldsAccepted := by
  intro contents path model parsed
  simp only [Adapter.modelDocument, Adapter.readDocument] at parsed
  split at parsed
  · cases parsed
  · split at parsed
    next obtained accepted =>
      cases parsed
      exact ⟨_, _, _, _, accepted⟩
    next => cases parsed

namespace Model

/-! ## Measures are small -/

section Size

/-- There are no more ids than the machine has words. -/
theorem length_le_of_nodup_ids {ids : List NodeId}
    (distinct : ids.Nodup) :
    ids.length ≤ 2 ^ 32 := by
  have injective : Function.Injective fun id : NodeId => id.index.toNat := by
    rintro ⟨first⟩ ⟨second⟩ same
    exact congrArg NodeId.mk (UInt32.toNat_inj.mp same)
  have bounded : ids.map (fun id => id.index.toNat) ⊆ List.range (2 ^ 32) := by
    intro index isIndex
    rcases List.mem_map.mp isIndex with ⟨id, _, rfl⟩
    exact List.mem_range.mpr id.index.toNat_lt
  calc ids.length
    _ = (ids.map fun id => id.index.toNat).length := (List.length_map _).symm
    _ ≤ (List.range (2 ^ 32)).length := ((distinct.map injective).subperm bounded).length_le
    _ = 2 ^ 32 := List.length_range

variable {model : Model} (wellFormed : model.IsWellFormed)

include wellFormed

theorem IsWellFormed.length_nodes_le : model.nodes.length ≤ 2 ^ 32 := by
  have atMost := length_le_of_nodup_ids wellFormed.distinctIds
  rwa [List.length_map] at atMost

theorem IsWellFormed.length_parameters_le (function : NodeId) :
    (model.parameters function).length ≤ 2 ^ 32 := by
  refine (List.length_filter_le _ _).trans ?_
  rw [children]
  split
  next node isNode =>
    have member := (mem_of_node?_eq_some isNode).1
    have once := (List.nodup_flatMap.mp wellFormed.childrenOnce).1 node member
    exact (List.length_filterMap_le _ _).trans (length_le_of_nodup_ids once)
  next => exact Nat.zero_le _

end Size

end Model

theorem foldl_max_le {depths : List Nat} {start most : Nat}
    (startLe : start ≤ most)
    (allLe : ∀ deep ∈ depths, deep ≤ most) :
    depths.foldl max start ≤ most := by
  induction depths generalizing start with
  | nil => exact startLe
  | cons deep rest induction =>
      rcases List.forall_mem_cons.mp allLe with ⟨deepLe, restLe⟩
      exact induction (max_le startLe deepLe) restLe

/-- Each level of the walk adds one to the depth at most. -/
theorem Metric.nestingWithin_le (model : Model) (levels depth : Nat) (chained : Bool)
    (id : NodeId) :
    nestingWithin model levels depth chained id ≤ depth + levels := by
  induction levels generalizing depth chained id with
  | zero => exact Nat.zero_le _
  | succ levels induction =>
      rw [nestingWithin]
      split
      · exact Nat.zero_le _
      · split
        · exact Nat.zero_le _
        · refine foldl_max_le ?_ ?_
          · split <;> omega
          · intro deep isDeep
            rcases List.mem_map.mp isDeep with ⟨⟨child, index⟩, _, rfl⟩
            refine (induction _ _ _).trans ?_
            split <;> omega

theorem Model.IsWellFormed.nestingDepthOf_le {model : Model}
    (wellFormed : model.IsWellFormed)
    (function : NodeId) :
    Metric.nestingDepthOf model function ≤ 2 ^ 32 := by
  rw [Metric.nestingDepthOf]
  split
  next body _ =>
    calc Metric.nestingWithin model model.nodes.length 0 false body.id
      _ ≤ 0 + model.nodes.length := Metric.nestingWithin_le _ _ _ _ _
      _ ≤ 2 ^ 32 := by rw [Nat.zero_add]; exact wellFormed.length_nodes_le
  next => exact Nat.zero_le _

/-! ## Measures of functions -/

section Functions

variable {model : Model} {table : Symbols.Table} {metrics : Metrics} {function : Node}
  (distinct : (model.nodes.map Node.id).Nodup)
  (measured : Metrics.ofModel model table = .ok metrics)
  (isFunction : function ∈ model.nodesOfKind .function)

include distinct measured isFunction

theorem Metrics.count_paramCount :
    metrics.count function.id .paramCount = (model.parameters function.id).length := by
  rcases exists_lines_of_ofModel distinct measured isFunction with ⟨lines, _, values⟩
  rw [count, values]
  rfl

theorem Metrics.count_nestingDepth :
    metrics.count function.id .nestingDepth = Metric.nestingDepthOf model function.id := by
  rcases exists_lines_of_ofModel distinct measured isFunction with ⟨lines, _, values⟩
  rw [count, values]
  rfl

end Functions

/-! ## Limits -/

/--
For a threshold that a rule declares with an acceptable default, resolved settings hold a number
that is acceptable too: the configured one, or the default.
-/
theorem Settings.exists_threshold?_of_resolve {settings : Settings} {machine : Machine}
    {catalog : List RuleInfo} {resolved : ResolvedSettings}
    (distinct : (catalog.map fun info => RuleName.normalize info.id).Nodup)
    (numbers : ∀ info ∈ catalog, ∀ threshold ∈ info.thresholds, threshold.default.isNaN = false)
    (accepted : settings.resolve machine catalog = .ok resolved)
    {info : RuleInfo}
    (member : info ∈ catalog)
    {limit : Threshold}
    (declares : info.threshold? limit.name = some limit)
    (defaults : info.default? limit.name = some limit.default) :
    ∃ number,
      resolved.threshold? info.id limit.name = some number ∧
        (limit.Accepts number ∨ number = limit.default) := by
  rcases isValid_and_completedBy_of_resolve distinct numbers accepted with ⟨valid, completed⟩
  rcases completed.rules info member with ⟨own, isOwn, _, thresholds⟩
  rw [ResolvedSettings.threshold?, isOwn, Option.bind_some, thresholds, thresholdFor?, defaults]
  cases configured : (sectionFor? settings.rules info).bind (·.number? limit.name) with
  | none => exact ⟨limit.default, rfl, Or.inr rfl⟩
  | some number =>
      refine ⟨number, rfl, Or.inl ?_⟩
      rcases Option.bind_eq_some_iff.mp configured with ⟨given, isGiven, hasNumber⟩
      rcases Option.bind_eq_some_iff.mp hasNumber with ⟨value, isValue, isNumber⟩
      rcases exists_entry_of_sectionFor? isGiven with ⟨entry, isEntry, denoted, rfl⟩
      rcases valid.thresholdsTaken entry isEntry info member denoted _
          (mem_of_lastValue?_eq_some isValue) with
        ⟨threshold, taken, isThreshold, isTaken, accepts⟩
      rw [declares] at isThreshold
      rw [isNumber] at isTaken
      cases isThreshold
      cases isTaken
      exact accepts

namespace Rule

/-- A rule of the library that reports functions whose measure is above a limit. -/
structure LimitsFunctions (rule : Rule) (limit : Threshold) (metric : Metric)
    (measure : Model → NodeId → Nat) : Prop where
  isBuiltin : rule ∈ Registry.builtin.rules
  onFunctions : rule.kinds = [.function]
  declares : rule.info.threshold? limit.name = some limit
  defaults : rule.info.default? limit.name = some limit.default
  defaultFinite : limit.default.isFinite = true
  defaultNotNegative : ¬ limit.default < 0
  least : limit.least = 0
  compares :
    ∀ context function, ∃ message,
      rule.evaluate context function =
        .ok (aboveLimit context rule.id limit function (context.metrics.count function.id metric)
          message)
  measures :
    ∀ (model : Model) table metrics, Metrics.ofModel model table = .ok metrics →
      (model.nodes.map Node.id).Nodup → ∀ function ∈ model.nodesOfKind .function,
        metrics.count function.id metric = measure model function.id
  small :
    ∀ (model : Model) function,
      model.IsWellFormed → measure model function ≤ 2 ^ 32

theorem tooManyArguments_limitsFunctions :
    tooManyArguments.LimitsFunctions maxParams .paramCount fun model function =>
      (model.parameters function).length where
  isBuiltin := List.mem_of_getElem? (i := 2) rfl
  onFunctions := rfl
  declares := rfl
  defaults := rfl
  defaultFinite := by decide +kernel
  defaultNotNegative := by decide +kernel
  least := rfl
  compares := fun _ _ => ⟨_, rfl⟩
  measures := fun _ _ _ measured distinct _ isFunction =>
    Metrics.count_paramCount distinct measured isFunction
  small := fun _ function wellFormed => wellFormed.length_parameters_le function

theorem deepNesting_limitsFunctions :
    deepNesting.LimitsFunctions maxNestingDepth .nestingDepth Metric.nestingDepthOf where
  isBuiltin := List.mem_of_getElem? (i := 1) rfl
  onFunctions := rfl
  declares := rfl
  defaults := rfl
  defaultFinite := by decide +kernel
  defaultNotNegative := by decide +kernel
  least := rfl
  compares := fun _ _ => ⟨_, rfl⟩
  measures := fun _ _ _ measured distinct _ isFunction =>
    Metrics.count_nestingDepth distinct measured isFunction
  small := fun _ function wellFormed => wellFormed.nestingDepthOf_le function

theorem mem_aboveLimit_iff {context : Context} {ruleId : String} {limit : Threshold} {node : Node}
    {measure : Nat} {message : String → String → String} {violation : Violation} :
    violation ∈ aboveLimit context ruleId limit node measure message ↔
      ¬ Float.ofNat measure ≤ context.threshold limit ∧
        violation =
          context.violation ruleId
            (Severity.scaled (Float.ofNat measure) (context.threshold limit)) node
            (message (toString measure) (Decimal.plain (context.threshold limit))) := by
  rw [aboveLimit, List.mem_ite_nil_left, List.mem_singleton]

end Rule

namespace Engine

/-- Some function at a range has a measure above a number, in a file that a model is obtained of. -/
def HasFunctionAbove (engine : Engine) (files : List SourceFile)
    (measure : Model → NodeId → Nat) (number : ℚ) (range : Range) : Prop :=
  ∃ file ∈ files, ∃ adapter model,
    engine.modelOf file = .ok (adapter, model) ∧
      ∃ function ∈ model.nodesOfKind .function,
        range.same (model.range function) = true ∧ number < measure model function.id

/--
A report tells of functions above the number that a threshold of a rule has: at each range where
nothing silences the rule it holds one diagnostic of the rule if there is such a function, and none
otherwise.
-/
def ReportsFunctionsAbove (engine : Engine) (files : List SourceFile) (report : Report)
    (ruleId : String) (limit : Threshold) (measure : Model → NodeId → Nat) : Prop :=
  ∃ number,
    engine.settings.threshold? ruleId limit.name = some number ∧
      (limit.Accepts number ∨ number = limit.default) ∧
      ∀ range,
        ¬ Silenced (engine.found files).suppressions ruleId range →
          (engine.HasFunctionAbove files measure (Decimal.Binary.ofFloat number).value range →
            ∃ diagnostic,
              report.diagnostics.filter
                  (fun reported => reported.ruleId == ruleId && range.same reported.range) =
                [diagnostic]) ∧
          (¬ engine.HasFunctionAbove files measure (Decimal.Binary.ofFloat number).value range →
            report.diagnostics.filter
                (fun reported => reported.ruleId == ruleId && range.same reported.range) =
              [])

section Limits

variable {engine : Engine} {files : List SourceFile}
  (rules : engine.registry = Registry.builtin)
  (accepts : ∀ entry ∈ engine.adapters.entries, entry.2.YieldsAccepted)
  {rule : Rule} {limit : Threshold} {metric : Metric} {measure : Model → NodeId → Nat}
  (limits : rule.LimitsFunctions limit metric measure)
  (complete : engine.WorksThrough files)

include rules complete in
/-- Under the id of a rule of the library a run finds what this rule finds. -/
theorem mem_found_iff_of_builtin
    (isBuiltin : rule ∈ Registry.builtin.rules)
    {violation : Violation}
    (isRule : violation.ruleId = rule.id) :
    violation ∈ (engine.found files).violations ↔
      ∃ context node,
        engine.Inspects files rule context node ∧ rule.Reports context node violation := by
  have indexed : engine.registry.IsIndexed := by
    rw [rules]
    exact Registry.isIndexed_builtin
  have notOther : violation.ruleId ∉ otherIds := by
    rw [isRule]
    exact id_not_mem_otherIds_of_builtin isBuiltin
  rw [mem_found_iff_of_not_otherIds indexed complete notOther]
  constructor
  · rintro ⟨other, context, node, inspected, found⟩
    have isOther : other ∈ Registry.builtin.rules := rules ▸ inspected.registered
    have ownId := (Rule.reportsOwnId_of_mem_builtin (Registry.mem_builtin isOther))
    -- A rule reports under its own id, and no two rules of the library share one.
    have distinct : (Registry.builtin.rules.map Rule.id).Nodup := by decide +kernel
    have sameId : other.id = rule.id := by rw [← ownId.ruleId_of_reports found, isRule]
    rw [List.inj_on_of_nodup_map distinct isOther isBuiltin sameId] at inspected found
    exact ⟨context, node, inspected, found⟩
  · rintro ⟨context, node, inspected, found⟩
    exact ⟨rule, context, node, inspected, found⟩

include accepts in
theorem wellFormed_of_modelOf_eq_ok {file : SourceFile} {adapter : Adapter} {model : Model}
    (obtained : engine.modelOf file = .ok (adapter, model)) :
    model.IsWellFormed := by
  rw [modelOf] at obtained
  split at obtained
  next => cases obtained
  next chosen isChosen =>
    rcases AdapterSet.exists_entry_of_forPath?_eq_some isChosen with ⟨entry, isEntry, rfl⟩
    rcases bind_eq_ok_iff.mp obtained with ⟨parsedModel, parsed, equal⟩
    cases equal
    exact (accepts entry isEntry).wellFormed_of_parse_eq_ok parsed

include limits in
/-- At a function the rule reports the range of the function if its measure is above the number. -/
theorem exists_reports_iff {adapter : Adapter} {model : Model} {file : Registry.File}
    {context : Rule.Context} {number : Float}
    (isNumber : engine.settings.threshold? rule.id limit.name = some number)
    (finite : number.isFinite = true)
    (notNegative : ¬ number < 0)
    (wellFormed : model.IsWellFormed)
    (isFile : Registry.File.ofModel adapter model = .ok file)
    (on : Registry.context? engine.settings file rule = some context)
    {function : Node}
    (isFunction : function ∈ model.nodesOfKind .function)
    {range : Range} :
    (∃ violation, rule.Reports context function violation ∧ range.same violation.range = true) ↔
      range.same (model.range function) = true ∧
        (Decimal.Binary.ofFloat number).value < measure model function.id := by
  rcases Registry.of_context?_eq_some on with ⟨sameModel, sameMetrics, threshold⟩
  rcases Registry.File.ofModel_eq_ok_iff.mp isFile with ⟨metrics, measured, rfl⟩
  have sameRange : context.range function = model.range function := by
    rw [Rule.Context.range, sameModel]
  rcases limits.compares context function with ⟨message, evaluated⟩
  have small : measure model function.id < 2 ^ 53 :=
    (limits.small model function.id wellFormed).trans_lt (by decide)
  have counted : context.metrics.count function.id metric = measure model function.id := by
    rw [sameMetrics]
    exact limits.measures model _ metrics measured wellFormed.distinctIds function isFunction
  rw [counted] at evaluated
  simp only [Rule.Reports, Rule.outcome, evaluated, Except.ok.injEq, exists_eq_left',
    Rule.mem_aboveLimit_iff, threshold limit number isNumber,
    Decimal.ofNat_le_iff small finite notNegative, not_le]
  constructor
  · rintro ⟨_, ⟨above, rfl⟩, inRange⟩
    rw [← sameRange]
    exact ⟨inRange, above⟩
  · rintro ⟨inRange, above⟩
    rw [← sameRange] at inRange
    exact ⟨_, ⟨above, rfl⟩, inRange⟩

include rules accepts limits complete in
/--
A run finds something for the rule at a range exactly when some function there is above the number.
-/
theorem exists_mem_found_iff_hasFunctionAbove {number : Float}
    (isEnabled : engine.settings.isEnabled rule.id = true)
    (isNumber : engine.settings.threshold? rule.id limit.name = some number)
    (finite : number.isFinite = true)
    (notNegative : ¬ number < 0)
    (range : Range) :
    (∃ violation ∈ (engine.found files).violations,
        violation.ruleId = rule.id ∧ range.same violation.range = true) ↔
      engine.HasFunctionAbove files measure (Decimal.Binary.ofFloat number).value range := by
  constructor
  · rintro ⟨violation, isFound, isRule, inRange⟩
    rcases (mem_found_iff_of_builtin rules complete limits.isBuiltin isRule).mp isFound with
      ⟨context, function, ⟨_, looks, inFile⟩, reported⟩
    rcases inFile with ⟨source, isSource, adapter, model, file, obtained, isFile, member, on⟩
    have isFunction : function ∈ model.nodesOfKind .function := by
      rw [limits.onFunctions] at looks
      exact List.mem_filter.mpr ⟨member, beq_iff_eq.mpr (List.mem_singleton.mp looks)⟩
    have wellFormed := wellFormed_of_modelOf_eq_ok accepts obtained
    refine ⟨source, isSource, adapter, model, obtained, function, isFunction, ?_⟩
    exact (exists_reports_iff limits isNumber finite notNegative wellFormed isFile on
      isFunction).mp ⟨violation, reported, inRange⟩
  · rintro ⟨source, isSource, adapter, model, obtained, function, isFunction, above⟩
    have wellFormed := wellFormed_of_modelOf_eq_ok accepts obtained
    have analyzed := complete.analyzeFile_eq isSource
    rw [analyzeFile, obtained] at analyzed
    rcases analyzeModel_eq_ok_iff.mp analyzed with ⟨file, _, isFile, _, _⟩
    rcases Registry.isEnabled_iff_exists_context?.mp isEnabled with ⟨context, on⟩
    rcases (exists_reports_iff limits isNumber finite notNegative wellFormed isFile on
        isFunction).mpr above with
      ⟨violation, reported, inRange⟩
    have isBuiltin := limits.isBuiltin
    have ownId := Rule.reportsOwnId_of_mem_builtin (Registry.mem_builtin isBuiltin)
    have isRule := ownId.ruleId_of_reports reported
    rcases List.mem_filter.mp isFunction with ⟨member, isKind⟩
    refine ⟨violation, ?_, isRule, inRange⟩
    refine (mem_found_iff_of_builtin rules complete isBuiltin isRule).mpr
      ⟨context, function, ?_, reported⟩
    refine ⟨rules ▸ isBuiltin, ?_, source, isSource, adapter, model, file, obtained, isFile, member,
      on⟩
    rw [limits.onFunctions, beq_iff_eq.mp isKind]
    exact List.mem_singleton.mpr rfl

include rules accepts limits complete in
theorem reportsFunctionsAbove_found
    (isEnabled : engine.settings.isEnabled rule.id = true)
    (resolved :
      ∃ number,
        engine.settings.threshold? rule.id limit.name = some number ∧
          (limit.Accepts number ∨ number = limit.default))
    {fileCount : Nat} :
    engine.ReportsFunctionsAbove files
      (engine.reportOn fileCount (files.map engine.outcomeOf)) rule.id limit measure := by
  rcases resolved with ⟨number, isNumber, acceptable⟩
  have finite : number.isFinite = true := by
    rcases acceptable with accepts | rfl
    · exact accepts.finite
    · exact limits.defaultFinite
  have notNegative : ¬ number < 0 := by
    rcases acceptable with accepts | rfl
    · exact limits.least ▸ accepts.least
    · exact limits.defaultNotNegative
  refine ⟨number, isNumber, acceptable, ?_⟩
  intro range unsilenced
  have found :
      (∃ violation ∈ (engine.found files).violations,
          violation.ruleId = rule.id ∧ range.same violation.range = true) ↔
        engine.HasFunctionAbove files measure (Decimal.Binary.ofFloat number).value range :=
    exists_mem_found_iff_hasFunctionAbove rules accepts limits complete isEnabled isNumber finite
      notNegative range
  constructor
  · intro above
    rcases found.mpr above with ⟨violation, isFound, isRule, inRange⟩
    have kept : violation.toDiagnostic ∈ (engine.found files).unsilenced := by
      refine (Findings.mem_unsilenced_iff _ _).mpr ⟨violation, isFound, ?_, rfl⟩
      rw [isRule, ← Silenced.congr inRange]
      exact unsilenced
    rcases Findings.exists_filter_finish_at_eq kept isRule inRange with ⟨best, single, _⟩
    exact ⟨best, single⟩
  · intro noneAbove
    apply Findings.filter_finish_at_eq_nil
    intro diagnostic kept isRule inRange
    rcases (Findings.mem_unsilenced_iff _ _).mp kept with ⟨violation, isFound, _, rfl⟩
    exact noneAbove (found.mp ⟨violation, isFound, isRule, inRange⟩)

end Limits

/-- No two rules of the library have ids that one spelling denotes. -/
theorem normalizedIds_builtin :
    (Registry.builtin.catalog.map fun info => RuleName.normalize info.id).Nodup := by
  decide +kernel

/-- The defaults of the library are numbers. -/
theorem defaults_builtin :
    ∀ info ∈ Registry.builtin.catalog, ∀ threshold ∈ info.thresholds,
      threshold.default.isNaN = false := by
  decide +kernel

/--
Limits hold end to end.  In the report of a completed run with the rules of the library, whatever
the settings and whatever accepted models the adapters yield, there is exactly one diagnostic on too
many parameters at a range, if this rule is on and not silenced there, when some function at the
range has more parameters than the configured limit, and otherwise none; and likewise for the depth
of nested control statements.
-/
theorem analyze_reports_functions_above_limits
    (machine : Machine)
    (adapters : AdapterSet)
    (accepts : ∀ entry ∈ adapters.entries, entry.2.YieldsAccepted)
    (settings : Settings)
    (engine : Engine)
    (configured : configure machine Registry.builtin adapters settings = .ok engine)
    (token : Bool)
    (files : List SourceFile)
    (report : Report)
    (completed : (engine.analyze token files).1 = some (.ok report)) :
    (engine.settings.isEnabled "TooManyArguments" = true →
        engine.ReportsFunctionsAbove files report "TooManyArguments" Rule.maxParams
          fun model function => (model.parameters function).length) ∧
      (engine.settings.isEnabled "DeepNesting" = true →
        engine.ReportsFunctionsAbove files report "DeepNesting" Rule.maxNestingDepth
          Metric.nestingDepthOf) := by
  rcases of_configure_eq_ok configured with ⟨_, rules, rfl, accepted⟩
  rcases analyze_eq_ok_iff.mp completed with ⟨_, _, complete, rfl⟩
  have resolved {rule : Rule} {limit : Threshold} {metric : Metric}
      {measure : Model → NodeId → Nat} (limits : rule.LimitsFunctions limit metric measure) :
      ∃ number,
        engine.settings.threshold? rule.id limit.name = some number ∧
          (limit.Accepts number ∨ number = limit.default) :=
    Settings.exists_threshold?_of_resolve normalizedIds_builtin defaults_builtin accepted
      (List.mem_append_left _ (List.mem_map_of_mem limits.isBuiltin)) limits.declares
      limits.defaults
  constructor
  · intro isEnabled
    exact reportsFunctionsAbove_found rules accepts Rule.tooManyArguments_limitsFunctions complete
      isEnabled (resolved Rule.tooManyArguments_limitsFunctions)
  · intro isEnabled
    exact reportsFunctionsAbove_found rules accepts Rule.deepNesting_limitsFunctions complete
      isEnabled (resolved Rule.deepNesting_limitsFunctions)

/-! ## Four parameters and three -/

/-- A node with an id, a kind, a span, children and a name. -/
def namedNode (id : UInt32) (kind : NodeKind) (span : Span) (children : List UInt32)
    (name : String) : Node :=
  { id := { index := id }, kind, span, name := some name
    children := children.map NodeId.mk }

/-- A module with a function of four parameters and one of three. -/
def twoFunctionsModel : Model :=
  .linked
    { path := { text := "src/a.tree" }
      root := { index := 0 }
      lineCount := none
      nodes :=
        [namedNode 0 .module ⟨1, 1, 9, 9⟩ [1, 6] "m",
          namedNode 1 .function ⟨2, 1, 4, 9⟩ [2, 3, 4, 5] "wide",
          namedNode 2 .parameter ⟨2, 2, 2, 3⟩ [] "a",
          namedNode 3 .parameter ⟨2, 4, 2, 5⟩ [] "b",
          namedNode 4 .parameter ⟨2, 6, 2, 7⟩ [] "c",
          namedNode 5 .parameter ⟨2, 8, 2, 9⟩ [] "d",
          namedNode 6 .function ⟨5, 1, 7, 9⟩ [7, 8, 9] "narrow",
          namedNode 7 .parameter ⟨5, 2, 5, 3⟩ [] "a",
          namedNode 8 .parameter ⟨5, 4, 5, 5⟩ [] "b",
          namedNode 9 .parameter ⟨5, 6, 5, 7⟩ [] "c"] }

/-- An adapter that reads every file as this module. -/
def twoFunctionsAdapter : Adapter :=
  { name := "tree"
    extensions := ["tree"]
    attempt := fun _ _ => { outcome := .parsed twoFunctionsModel } }

theorem twoFunctionsAdapter_yieldsAccepted : twoFunctionsAdapter.YieldsAccepted := by
  rintro _ _ _ ⟨⟩
  exact ⟨twoFunctionsModel.path, twoFunctionsModel.root, twoFunctionsModel.nodes, none, by cbv⟩

/-- A file that it reads. -/
def twoFunctionsFile : SourceFile :=
  { path := twoFunctionsModel.path, contents := "" }

theorem forPath?_twoFunctions :
    (({} : AdapterSet).register twoFunctionsAdapter).forPath? twoFunctionsFile.path =
      some twoFunctionsAdapter := by
  cbv

theorem value_ofFloat_three : (Decimal.Binary.ofFloat 3).value = 3 := by
  have parts : Decimal.Binary.ofFloat 3 = ⟨3 * 2 ^ 51, -51⟩ := by decide +kernel
  rw [parts, Decimal.Binary.value]
  norm_num

/-- The settings of a run without a document: the rule is on, with its default. -/
theorem of_configure_twoFunctions {engine : Engine}
    (configured :
      configure {} Registry.builtin (({} : AdapterSet).register twoFunctionsAdapter) {} =
        .ok engine) :
    engine.settings.isEnabled "TooManyArguments" = true ∧
      engine.settings.threshold? "TooManyArguments" "maxParams" = some 3 := by
  rcases of_configure_eq_ok configured with ⟨_, _, _, accepted⟩
  have completed := (Settings.isValid_and_completedBy_of_resolve normalizedIds_builtin
    defaults_builtin accepted).2
  have isListed : Rule.tooManyArguments.info ∈ Registry.builtin.catalog :=
    List.mem_append_left _
      (List.mem_map_of_mem Rule.tooManyArguments_limitsFunctions.isBuiltin)
  rcases completed.rules _ isListed with ⟨own, isOwn, enabled, threshold⟩
  have isOwn : engine.settings.rule? "TooManyArguments" = some own := isOwn
  rw [ResolvedSettings.isEnabled, ResolvedSettings.threshold?, isOwn, Option.any_some,
    Option.bind_some, enabled, threshold]
  exact ⟨rfl, rfl⟩

/-- By default the function of four parameters is reported, and the one of three is not. -/
theorem analyze_reports_wide_function :
    ∃ engine report diagnostic,
      configure {} Registry.builtin (({} : AdapterSet).register twoFunctionsAdapter) {} =
          .ok engine ∧
        engine.analyze false [twoFunctionsFile] = (some (.ok report), false) ∧
        report.diagnostics.filter
            (fun reported =>
              reported.ruleId == "TooManyArguments" &&
                Range.same ⟨twoFunctionsFile.path, ⟨2, 1, 4, 9⟩⟩ reported.range) =
          [diagnostic] ∧
        report.diagnostics.filter
            (fun reported =>
              reported.ruleId == "TooManyArguments" &&
                Range.same ⟨twoFunctionsFile.path, ⟨5, 1, 7, 9⟩⟩ reported.range) =
          [] := by
  have exists_configure :
      ∃ engine,
        configure {} Registry.builtin (({} : AdapterSet).register twoFunctionsAdapter) {} =
          .ok engine :=
    ⟨_, rfl⟩
  rcases exists_configure with ⟨engine, configured⟩
  rcases of_configure_eq_ok configured with ⟨_, rules, adapters, _⟩
  have chosen : engine.adapters.forPath? twoFunctionsFile.path = some twoFunctionsAdapter := by
    rw [adapters]
    exact forPath?_twoFunctions
  have undisturbed : ∀ file ∈ [twoFunctionsFile], engine.cancelsAt file = false := by
    rw [List.forall_mem_singleton, cancelsAt, chosen]
    rfl
  have obtained :
      engine.modelOf twoFunctionsFile = .ok (twoFunctionsAdapter, twoFunctionsModel) := by
    rw [modelOf, chosen]
    simp only [Adapter.parse, twoFunctionsAdapter, Nat.not_lt_zero, if_false]
    rfl
  have isFile : Registry.File.ofModel twoFunctionsAdapter twoFunctionsModel = .ok _ := rfl
  have withoutComments : ∀ node ∈ twoFunctionsModel.nodes, node.kind ≠ .comment := by decide
  have complete : engine.WorksThrough [twoFunctionsFile] := by
    intro file member
    rw [List.mem_singleton.mp member]
    refine exists_analyzeFile_eq_ok rules obtained isFile ?_
    exact fun node member isComment => absurd isComment (withoutComments node member)
  have unmarked : (engine.found [twoFunctionsFile]).suppressions = [] := by
    have analyzed := complete.analyzeFile_eq (List.mem_singleton_self twoFunctionsFile)
    rw [analyzeFile, obtained] at analyzed
    rcases analyzeModel_eq_ok_iff.mp analyzed with ⟨_, _, _, _, isOutcome⟩
    simp only [found, List.map_singleton, List.flatMap_singleton, isOutcome]
    rfl
  have unsilenced (range : Range) :
      ¬ Silenced (engine.found [twoFunctionsFile]).suppressions "TooManyArguments" range := by
    rw [unmarked]
    exact not_silenced_nil _ _
  rcases of_configure_twoFunctions configured with ⟨isEnabled, isThree⟩
  have accepts :
      ∀ entry ∈ (({} : AdapterSet).register twoFunctionsAdapter).entries,
        entry.2.YieldsAccepted := by
    intro entry isEntry
    rcases AdapterSet.mem_entries_register isEntry with equal | earlier
    · exact equal ▸ twoFunctionsAdapter_yieldsAccepted
    · cases earlier
  have completed := analyze_eq_ok undisturbed (poolFault?_eq_none configured) complete
  rcases (analyze_reports_functions_above_limits _ _ accepts _ engine configured false
      [twoFunctionsFile] _ (by rw [completed])).1 isEnabled with
    ⟨number, isNumber, _, reports⟩
  have isThree : number = 3 := Option.some.inj (isNumber.symm.trans isThree)
  rw [isThree, value_ofFloat_three] at reports
  have wide :
      engine.HasFunctionAbove [twoFunctionsFile]
        (fun model function => (model.parameters function).length) 3
        ⟨twoFunctionsFile.path, ⟨2, 1, 4, 9⟩⟩ := by
    refine ⟨_, List.mem_singleton_self _, _, _, obtained,
      namedNode 1 .function ⟨2, 1, 4, 9⟩ [2, 3, 4, 5] "wide", List.mem_cons_self, by decide, ?_⟩
    show (3 : ℚ) < (4 : Nat)
    norm_num
  have narrow :
      ¬ engine.HasFunctionAbove [twoFunctionsFile]
        (fun model function => (model.parameters function).length) 3
        ⟨twoFunctionsFile.path, ⟨5, 1, 7, 9⟩⟩ := by
    rintro ⟨file, isFile, adapter, model, isModel, function, isFunction, inRange, above⟩
    rw [List.mem_singleton.mp isFile, obtained] at isModel
    cases isModel
    rcases List.mem_pair.mp isFunction with rfl | rfl
    · exact absurd inRange (by decide)
    · exact absurd above (lt_irrefl (3 : ℚ))
  rcases (reports _ (unsilenced _)).1 wide with ⟨diagnostic, single⟩
  exact ⟨engine, _, diagnostic, configured, completed, single, (reports _ (unsilenced _)).2 narrow⟩

end Engine

end StructuralLint
