import StructuralLint.Metric
import StructuralLint.Proofs.Breakdowns
import StructuralLint.Proofs.Ingestion

/-!
# When a model can be measured

The lines of a span are counted in 32 bits, and line numbers have 32 bits too.  The span from line
zero to the last line that has a number touches one line more than 32 bits can count, and no other
span does.  So a model is measured unless one of its functions has that span; then all measures are
missing.
-/

namespace StructuralLint

namespace Span

/-- The number of lines from the first to the last, both included. -/
def numberOfLines (span : Span) : Nat :=
  span.endLine.toNat - span.startLine.toNat + 1

/-- The span runs from line zero to the last line that has a number. -/
def HasEveryLine (span : Span) : Prop :=
  span.startLine = 0 ∧ span.endLine.toNat + 1 = UInt32.size

instance (span : Span) : Decidable span.HasEveryLine :=
  inferInstanceAs (Decidable (_ ∧ _))

/-- More lines than 32 bits can count are only those that have a number, all of them. -/
theorem numberOfLines_lt_size_iff (span : Span) :
    span.numberOfLines < UInt32.size ↔ ¬ span.HasEveryLine := by
  have size : UInt32.size = 4294967296 := rfl
  have last := span.endLine.toNat_lt_size
  rw [HasEveryLine, numberOfLines, ← UInt32.toNat_inj, UInt32.toNat_zero]
  omega

/-- The lines between the first and the last, without the last. -/
theorem toNat_between (span : Span) :
    (if span.startLine ≤ span.endLine then span.endLine - span.startLine else 0).toNat + 1 =
      span.numberOfLines := by
  rw [numberOfLines]
  split
  next inOrder => rw [UInt32.toNat_sub_of_le _ _ inOrder]
  next inverted =>
    have before : span.endLine.toNat < span.startLine.toNat :=
      UInt32.lt_iff_toNat_lt.mp (UInt32.not_le.mp inverted)
    rw [Nat.sub_eq_zero_of_le (Nat.le_of_lt before), UInt32.toNat_zero]

/-- The count of lines, from the lines between the first and the last. -/
theorem exists_between (span : Span) :
    ∃ between : UInt32,
      between.toNat + 1 = span.numberOfLines ∧
        span.lineCount = if between < 4294967295 then .ok (between + 1) else .error .overflow :=
  ⟨_, span.toNat_between, rfl⟩

/-- Lines are counted exactly. -/
theorem toNat_of_lineCount_eq_ok {span : Span} {lines : UInt32}
    (counted : span.lineCount = .ok lines) :
    lines.toNat = span.numberOfLines := by
  rcases span.exists_between with ⟨between, number, isCount⟩
  rw [isCount] at counted
  split at counted
  next small =>
    have bounded : between.toNat < 4294967295 := UInt32.lt_iff_toNat_lt.mp small
    rw [← Except.ok.inj counted, ← number, UInt32.toNat_add, UInt32.toNat_one]
    exact Nat.mod_eq_of_lt (by omega)
  next => cases counted

/-- The count is missing where the lines are too many for it. -/
theorem lineCount_eq_error_iff {span : Span} {breakdown : Breakdown} :
    span.lineCount = .error breakdown ↔ breakdown = .overflow ∧ span.HasEveryLine := by
  rcases span.exists_between with ⟨between, number, isCount⟩
  have tooMany : ¬ between < 4294967295 ↔ span.HasEveryLine := by
    have limit : (4294967295 : UInt32).toNat + 1 = UInt32.size := rfl
    rw [← not_iff_not, not_not, ← numberOfLines_lt_size_iff, ← number, UInt32.lt_iff_toNat_lt]
    omega
  rw [isCount, ← tooMany]
  split
  next small => simp [small]
  next large => simp [large, eq_comm]

/-- Lines are counted unless the span has every line. -/
theorem exists_lineCount_eq_ok_iff (span : Span) :
    (∃ lines, span.lineCount = .ok lines) ↔ ¬ span.HasEveryLine := by
  cases counted : span.lineCount with
  | ok lines =>
      refine iff_of_true ⟨lines, rfl⟩ fun every => ?_
      rw [lineCount_eq_error_iff.mpr ⟨rfl, every⟩] at counted
      cases counted
  | error breakdown =>
      exact iff_of_false nofun (not_not_intro (lineCount_eq_error_iff.mp counted).2)

end Span

namespace Metrics

variable {model : Model} {table : Symbols.Table}

/-- Measures of a node are missing for a function with too many lines, and for nothing else. -/
theorem entryOf_eq_error_iff {node : Node} {breakdown : Breakdown} :
    entryOf model table node = .error breakdown ↔
      breakdown = .overflow ∧ node.kind = .function ∧ node.span.HasEveryLine := by
  have ofNode :
      Metric.ofNode model table node = .error breakdown ↔
        breakdown = .overflow ∧ node.kind = .function ∧ node.span.HasEveryLine := by
    cases isKind : node.kind
    case function =>
      rw [Metric.ofNode, isKind, Metric.ofFunction]
      cases counted : node.span.lineCount with
      | ok lines =>
          have notEvery := (Span.exists_lineCount_eq_ok_iff node.span).mp ⟨lines, counted⟩
          simp [notEvery, bind, Except.bind]
      | error other =>
          rcases Span.lineCount_eq_error_iff.mp counted with ⟨rfl, every⟩
          simp [every, bind, Except.bind, eq_comm]
    all_goals simp [Metric.ofNode, isKind]
  rw [← ofNode, entryOf]
  cases Metric.ofNode model table node with
  | ok values => simp [bind, Except.bind]
  | error other => simp [bind, Except.bind]

/-- A model is not measured when it has a function with too many lines, and only then. -/
theorem ofModel_eq_error_iff {breakdown : Breakdown} :
    ofModel model table = .error breakdown ↔
      breakdown = .overflow ∧
        ∃ function ∈ model.nodesOfKind .function, function.span.HasEveryLine := by
  rw [ofModel]
  cases gathered : gather (entryOf model table) model.nodes with
  | error other =>
      rcases exists_error_of_gather_eq_error gathered with ⟨node, member, isError⟩
      rcases entryOf_eq_error_iff.mp isError with ⟨rfl, isKind, every⟩
      have isFunction : node ∈ model.nodesOfKind .function :=
        List.mem_filter.mpr ⟨member, beq_iff_eq.mpr isKind⟩
      simp only [error_bind, Except.error.injEq, eq_comm (a := Breakdown.overflow), iff_self_and]
      exact fun _ => ⟨node, isFunction, every⟩
  | ok entries =>
      refine iff_of_false nofun ?_
      rintro ⟨_, function, isFunction, every⟩
      rcases List.mem_filter.mp isFunction with ⟨member, isKind⟩
      rcases (gather_eq_ok_iff.mp gathered).1 function member with ⟨part, isPart⟩
      rw [entryOf_eq_error_iff.mpr ⟨rfl, beq_iff_eq.mp isKind, every⟩] at isPart
      cases isPart

/-- A model is measured when none of its functions has too many lines, and only then. -/
theorem exists_ofModel_eq_ok_iff :
    (∃ metrics, ofModel model table = .ok metrics) ↔
      ∀ function ∈ model.nodesOfKind .function, ¬ function.span.HasEveryLine := by
  cases measured : ofModel model table with
  | ok metrics =>
      refine iff_of_true ⟨metrics, rfl⟩ fun function isFunction every => ?_
      rw [ofModel_eq_error_iff.mpr ⟨rfl, function, isFunction, every⟩] at measured
      cases measured
  | error breakdown =>
      rcases (ofModel_eq_error_iff.mp measured).2 with ⟨function, isFunction, every⟩
      exact iff_of_false nofun fun none => none function isFunction every

/-- Each node has one entry at most. -/
theorem sublist_keys_of_gather {nodes : List Node} {entries : List (NodeId × List (Metric × Nat))}
    (gathered : gather (entryOf model table) nodes = .ok entries) :
    (entries.map Prod.fst).Sublist (nodes.map Node.id) := by
  induction nodes generalizing entries with
  | nil =>
      cases gathered
      exact List.Sublist.slnil
  | cons node rest induction =>
      rcases gather_cons_eq_ok_iff.mp gathered with ⟨part, others, isPart, gatheredRest, rfl⟩
      have ofNode : (part.map Prod.fst).Sublist [node.id] := by
        rcases bind_eq_ok_iff.mp isPart with ⟨values, _, made⟩
        rw [← Except.ok.inj made]
        split
        · exact List.nil_sublist _
        · exact List.Sublist.refl _
      rw [List.map_append, List.map_cons, ← List.singleton_append]
      exact ofNode.append (induction gatheredRest)

/-- The measures of a function are those of a function of its lines. -/
theorem exists_lines_of_ofModel {metrics : Metrics}
    (distinct : (model.nodes.map Node.id).Nodup)
    (measured : ofModel model table = .ok metrics)
    {function : Node}
    (isFunction : function ∈ model.nodesOfKind .function) :
    ∃ lines,
      function.span.lineCount = .ok lines ∧
        ∀ metric,
          metrics.get? function.id metric =
            ((Metric.ofLines model table function lines).find? (·.1 == metric)).map Prod.snd := by
  rcases List.mem_filter.mp isFunction with ⟨member, isKind⟩
  rcases bind_eq_ok_iff.mp measured with ⟨entries, gathered, made⟩
  cases made
  rcases (gather_eq_ok_iff.mp gathered).1 function member with ⟨part, isPart⟩
  rcases bind_eq_ok_iff.mp isPart with ⟨values, isValues, made⟩
  rw [Metric.ofNode, beq_iff_eq.mp isKind] at isValues
  rcases bind_eq_ok_iff.mp isValues with ⟨lines, counted, listed⟩
  cases listed
  cases made
  refine ⟨lines, counted, fun metric => ?_⟩
  have isEntry : (function.id, Metric.ofLines model table function lines) ∈ entries :=
    (mem_iff_of_gather_eq_ok gathered).mpr ⟨function, member, _, isPart, List.mem_singleton_self _⟩
  have keys : (entries.map Prod.fst).Nodup := distinct.sublist (sublist_keys_of_gather gathered)
  have found : entries.find? (·.1 == function.id) =
      some (function.id, Metric.ofLines model table function lines) :=
    find?_eq_some_of_nodup_keys keys isEntry
  simp only [get?, found, Option.bind_eq_bind, Option.bind_some]
  cases (Metric.ofLines model table function lines).find? (·.1 == metric) <;> rfl

end Metrics

/-- Rules see something of a model when it is measured, and only then. -/
theorem Registry.File.exists_ofModel_eq_ok_iff {adapter : Adapter} {model : Model} :
    (∃ file, File.ofModel adapter model = .ok file) ↔
      ∀ function ∈ model.nodesOfKind .function, ¬ function.span.HasEveryLine := by
  rw [← Metrics.exists_ofModel_eq_ok_iff, File.ofModel]
  cases Metrics.ofModel model (Symbols.resolve model) with
  | error breakdown => exact iff_of_false nofun nofun
  | ok metrics => exact iff_of_true ⟨_, rfl⟩ ⟨metrics, rfl⟩

end StructuralLint
