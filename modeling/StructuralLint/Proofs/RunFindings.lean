import StructuralLint.Proofs.UnknownNames

/-!
# What rules contribute to a run

A run finds failures to obtain a model, unknown names in markers, copies, and what rules find at
nodes.  The first three have ids of their own.  So under the id of a rule on nodes, a run without a
breakdown finds exactly what the rules that are on report at the nodes that they look at.
-/

namespace StructuralLint.Engine

/-- A run lets a rule that is on look at a node, in the context of the file of the node. -/
structure Inspects (engine : Engine) (files : List SourceFile) (rule : Rule)
    (context : Rule.Context) (node : Node) : Prop where
  registered : rule ∈ engine.registry.rules
  looks : node.kind ∈ rule.kinds
  inFile :
    ∃ source ∈ files, ∃ adapter model file,
      engine.modelOf source = .ok (adapter, model) ∧
        Registry.File.ofModel adapter model = .ok file ∧
        node ∈ model.nodes ∧ Registry.context? engine.settings file rule = some context

/-- The ids under which something is found that no rule on nodes finds. -/
def otherIds : List String :=
  [parseErrorId, modelInvariantId, unknownSuppressionId, Duplication.duplicateCodeId,
    Duplication.similarStructureId, Duplication.duplicateConditionalId]

/-- The rules of the library have other ids. -/
theorem id_not_mem_otherIds_of_builtin {rule : Rule}
    (isRule : rule ∈ Registry.builtin.rules) :
    rule.id ∉ otherIds := by
  have apart : ∀ id ∈ Registry.builtin.rules.map Rule.id, id ∉ otherIds := by decide +kernel
  exact apart rule.id (List.mem_map_of_mem isRule)

section Findings

variable {engine : Engine} {violation : Violation}

/-- Failures and unknown names apart, a file contributes what the rules find in its model. -/
theorem mem_violations_iff_mem_evaluate {source : SourceFile} {outcome : FileOutcome}
    (analyzed : engine.analyzeFile source = .ok outcome)
    (notOwn : violation.ruleId ∉ [parseErrorId, modelInvariantId, unknownSuppressionId]) :
    violation ∈ outcome.violations ↔
      ∃ adapter model file violations,
        engine.modelOf source = .ok (adapter, model) ∧
          Registry.File.ofModel adapter model = .ok file ∧
          engine.registry.evaluate engine.settings file = .ok violations ∧
          violation ∈ violations := by
  rw [mem_violations_iff analyzed]
  constructor
  · rintro (⟨fault, _, rfl⟩ | ⟨adapter, model, obtained, byRule | unknown⟩)
    · cases fault <;> simp [failureFinding] at notOwn
    · rcases byRule with ⟨file, violations, isFile, evaluated, member⟩
      exact ⟨adapter, model, file, violations, obtained, isFile, evaluated, member⟩
    · rw [Suppression.ruleId_of_mem_collect unknown] at notOwn
      exact absurd notOwn (by decide)
  · rintro ⟨adapter, model, file, violations, obtained, isFile, evaluated, member⟩
    exact Or.inr ⟨adapter, model, obtained, Or.inl ⟨file, violations, isFile, evaluated, member⟩⟩

/-- Under the id of a rule on nodes a run finds what the rules find that are on. -/
theorem mem_found_iff_of_not_otherIds
    (indexed : engine.registry.IsIndexed)
    {files : List SourceFile}
    (complete : engine.WorksThrough files)
    (notOther : violation.ruleId ∉ otherIds) :
    violation ∈ (engine.found files).violations ↔
      ∃ rule context node,
        engine.Inspects files rule context node ∧ rule.Reports context node violation := by
  have notDuplicate :
      violation ∉
        Duplication.detect ((files.map engine.outcomeOf).filterMap (·.fingerprints))
          engine.settings := by
    intro isDuplicate
    have isOther := Duplication.ruleId_mem_of_mem_detect isDuplicate
    exact notOther (List.mem_append_right [parseErrorId, modelInvariantId, unknownSuppressionId]
      isOther)
  have notOwn : violation.ruleId ∉ [parseErrorId, modelInvariantId, unknownSuppressionId] :=
    fun isOwn => notOther (List.mem_append_left _ isOwn)
  simp only [found, List.mem_append, notDuplicate, or_false, List.flatMap_map, List.mem_flatMap]
  constructor
  · rintro ⟨source, isSource, member⟩
    have analyzed := complete.analyzeFile_eq isSource
    rcases (mem_violations_iff_mem_evaluate analyzed notOwn).mp member with
      ⟨adapter, model, file, violations, obtained, isFile, evaluated, member⟩
    rcases (Registry.mem_iff_of_evaluate_eq_ok indexed evaluated).mp member with
      ⟨node, isNode, rule, isRule, looks, context, on, reports⟩
    rw [Registry.File.model_of_ofModel_eq_ok isFile] at isNode
    refine ⟨rule, context, node, ⟨isRule, looks, ?_⟩, reports⟩
    exact ⟨source, isSource, adapter, model, file, obtained, isFile, isNode, on⟩
  · rintro ⟨rule, context, node, ⟨isRule, looks, inFile⟩, reports⟩
    rcases inFile with ⟨source, isSource, adapter, model, file, obtained, isFile, isNode, on⟩
    have analyzed := complete.analyzeFile_eq isSource
    refine ⟨source, isSource, (mem_violations_iff_mem_evaluate analyzed notOwn).mpr ?_⟩
    rw [analyzeFile, obtained] at analyzed
    rcases analyzeModel_eq_ok_iff.mp analyzed with ⟨other, violations, isOther, evaluated, _⟩
    cases isFile.symm.trans isOther
    refine ⟨adapter, model, file, violations, obtained, isFile, evaluated, ?_⟩
    refine (Registry.mem_iff_of_evaluate_eq_ok indexed evaluated).mpr ?_
    rw [Registry.File.model_of_ofModel_eq_ok isFile]
    exact ⟨node, isNode, rule, isRule, looks, context, on, reports⟩

end Findings

end StructuralLint.Engine
