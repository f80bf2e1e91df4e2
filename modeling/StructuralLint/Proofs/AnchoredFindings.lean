import StructuralLint.Proofs.Anchors
import StructuralLint.Proofs.Dispatch
import StructuralLint.Proofs.Measures
import StructuralLint.Proofs.SourceOrder

/-!
# Findings point into accepted models

What the rules of the library find stands at nodes of the model that they were given.  If ingestion
accepted the model, ids are distinct and all nodes but comments lie inside the root.  So the id of a
finding leads back to the one node at which it stands, and unless that is a comment, its range lies
inside the module.
-/

namespace StructuralLint

/--
A violation names a node by its id, stands at the span of that node and relates to spans of
nodes; unless the node is a comment, its span lies inside that of the root module.
-/
structure Violation.PointsInto (violation : Violation) (model : Model) : Prop where
  anchor :
    ∃ node,
      model.node? node.id = some node ∧ violation.node = some node.id ∧
        violation.range = { file := model.path, span := node.span } ∧
        (node.kind ≠ .comment →
          ∃ rootNode,
            model.node? model.root = some rootNode ∧ rootNode.kind = .module ∧
              rootNode.span.contains node.span = true)
  related :
    ∀ range ∈ violation.related,
      ∃ node ∈ model.nodes, range = { file := model.path, span := node.span }

section IsWellFormed

variable {model : Model} (wellFormed : model.IsWellFormed)

include wellFormed

/-- The root module contains every node but a comment. -/
theorem Model.IsWellFormed.exists_root_contains {node : Node}
    (member : node ∈ model.nodes)
    (notComment : node.kind ≠ .comment) :
    ∃ rootNode,
      model.node? model.root = some rootNode ∧ rootNode.kind = .module ∧
        rootNode.span.contains node.span = true := by
  rcases wellFormed.exists_node?_root with ⟨rootNode, found, isModule⟩
  rcases wellFormed.spansFollowTree.withinRoot with ⟨_, again, contains⟩
  cases found.symm.trans again
  have inside := contains node member (wellFormed.reachable node member notComment)
  exact ⟨rootNode, found, isModule, inside⟩

/-- In a well-formed model an anchored violation points to the node of its id. -/
theorem Violation.AnchoredIn.pointsInto {violation : Violation}
    (anchored : violation.AnchoredIn model) :
    violation.PointsInto model where
  anchor := by
    rcases anchored.anchor with ⟨node, member, isNode, isRange⟩
    have found : model.node? node.id = some node :=
      (Model.node?_eq_some_iff wellFormed.distinctIds).mpr ⟨member, rfl⟩
    exact ⟨node, found, isNode, isRange, wellFormed.exists_root_contains member⟩
  related := anchored.related

end IsWellFormed

namespace Registry

/--
All that the rules of the library find in an accepted model points into that model, whatever the
settings.
-/
theorem pointsInto_of_mem_evaluate_builtin
    (path : SourcePath)
    (root : NodeId)
    (nodes : List Node)
    (lineCount : Option UInt32)
    (file : File)
    (accepted : Model.ingest path root nodes lineCount = .ok file.model)
    (settings : ResolvedSettings)
    (violations : List Violation)
    (evaluated : Registry.builtin.evaluate settings file = .ok violations) :
    ∀ violation ∈ violations, violation.PointsInto file.model := by
  have wellFormed := Model.IsWellFormed.of_ingest accepted
  have allAnchored : ∀ rule ∈ Registry.builtin.rules, rule.IsAnchored := fun _ member =>
    Rule.isAnchored_of_mem_builtin (mem_builtin member)
  exact fun violation found =>
    (evaluate_anchoredIn allAnchored evaluated found).pointsInto wellFormed

/-- A module with a function that empties its argument and answers with it. -/
def drainingModule : Model :=
  let lines (startLine endLine : UInt32) : Span :=
    { startLine, startCol := 1, endLine, endCol := 30 }
  .linked
    { path := { text := "draining.ir.json" }
      root := { index := 0 }
      lineCount := some 9
      nodes :=
        [{ id := { index := 0 }, kind := .module, span := lines 1 9, children := [{ index := 1 }] },
          { id := { index := 1 }, kind := .function, span := lines 2 8, name := some "drain"
            children := [{ index := 2 }, { index := 3 }] },
          { id := { index := 2 }, kind := .parameter, span := lines 2 2, name := some "tank" },
          { id := { index := 3 }, kind := .statement, span := lines 3 8, statement := some .block
            children := [{ index := 4 }, { index := 8 }] },
          { id := { index := 4 }, kind := .statement, span := lines 4 5, statement := some .assign
            children := [{ index := 5 }, { index := 7 }] },
          { id := { index := 5 }, kind := .expression, span := lines 4 4, expression := some .member
            name := some "level", children := [{ index := 6 }] },
          { id := { index := 6 }, kind := .identifier, span := lines 4 4, name := some "tank" },
          { id := { index := 7 }, kind := .literal, span := lines 5 5, literal := some .null },
          { id := { index := 8 }, kind := .statement, span := lines 6 7, statement := some .return
            children := [{ index := 9 }] },
          { id := { index := 9 }, kind := .identifier, span := lines 7 7, name := some "tank" }] }

/--
With default settings the function is reported together with its `return`, and the finding
points into the module.
-/
theorem drainingModule_pointsInto :
    Model.ingest drainingModule.path drainingModule.root drainingModule.nodes
        drainingModule.lineCount = .ok drainingModule ∧
      ∃ settings file violations,
        Settings.resolve {} {} Registry.builtin.catalog = .ok settings ∧
          File.ofModel (.modelDocument Adapter.silent) drainingModule = .ok file ∧
          Registry.builtin.evaluate settings file = .ok violations ∧
          ∃ violation ∈ violations,
            violation.ruleId = "QueryAndMutate" ∧ violation.related.length = 1 ∧
              violation.PointsInto drainingModule := by
  have accepted :
      Model.ingest drainingModule.path drainingModule.root drainingModule.nodes
        drainingModule.lineCount = .ok drainingModule := rfl
  have exists_resolve :
      ∃ settings : ResolvedSettings,
        Settings.resolve {} {} Registry.builtin.catalog = .ok settings ∧
          settings.isEnabled "QueryAndMutate" = true :=
    ⟨_, rfl, by decide +kernel⟩
  rcases exists_resolve with ⟨settings, resolved, isEnabled⟩
  have measurable :
      ∃ metrics, Metrics.ofModel drainingModule (Symbols.resolve drainingModule) = .ok metrics :=
    Metrics.exists_ofModel_eq_ok_iff.mpr (by decide)
  rcases measurable with ⟨metrics, measured⟩
  let file : File :=
    { model := drainingModule
      symbols := Symbols.resolve drainingModule
      metrics
      looksLikeCode := (Adapter.modelDocument Adapter.silent).looksLikeCode }
  have isFile : File.ofModel (.modelDocument Adapter.silent) drainingModule = .ok file :=
    File.ofModel_eq_ok_iff.mpr ⟨metrics, measured, rfl⟩
  -- Only a comment could keep the rules from ending.
  have noComment : ∀ node ∈ drainingModule.nodes, node.kind ≠ .comment := by decide
  have evaluates : ∃ violations, Registry.builtin.evaluate settings file = .ok violations := by
    cases evaluated : Registry.builtin.evaluate settings file with
    | ok violations => exact ⟨violations, rfl⟩
    | error breakdown =>
        rcases exists_endless_comment_of_evaluate_eq_error evaluated with
          ⟨_, node, member, isComment, _⟩
        exact absurd isComment (noComment node member)
  rcases evaluates with ⟨violations, evaluated⟩
  have isRule : Rule.queryAndMutate ∈ Registry.builtin.rules :=
    List.mem_of_getElem? (i := 5) rfl
  rw [ResolvedSettings.isEnabled, Option.any_eq_true] at isEnabled
  rcases isEnabled with ⟨own, isOwn, enabled⟩
  let context : Rule.Context :=
    { model := file.model, symbols := file.symbols, metrics, settings := own
      looksLikeCode := file.looksLikeCode }
  have on : context? settings file Rule.queryAndMutate = some context := by
    rw [context?, show settings.rule? Rule.queryAndMutate.id = some own from isOwn]
    exact if_pos enabled
  have reported :
      ∃ violation,
        Rule.queryAndMutate.Reports context drainingModule.nodes[1] violation ∧
          violation.ruleId = "QueryAndMutate" ∧ violation.related.length = 1 :=
    ⟨_, ⟨_, rfl, List.mem_singleton.mpr rfl⟩, rfl, rfl⟩
  rcases reported with ⟨violation, reports, isReport, relates⟩
  have found : violation ∈ violations :=
    (mem_iff_of_evaluate_eq_ok isIndexed_builtin evaluated).mpr
      ⟨_, List.getElem_mem _, _, isRule, List.mem_singleton_self _, context, on, reports⟩
  exact ⟨accepted, settings, file, violations, resolved, isFile, evaluated, violation, found,
    isReport, relates,
    pointsInto_of_mem_evaluate_builtin _ _ _ _ file accepted settings violations evaluated
      violation found⟩

end Registry

end StructuralLint
