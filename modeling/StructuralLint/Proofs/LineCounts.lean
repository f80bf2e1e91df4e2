import StructuralLint.Proofs.Measures

/-!
# Lines of a function

Ingestion asks only that a span ends no earlier than it starts and no later than the file, where the
file says how long it is.  So a function of an accepted model may run from line zero to the last
line that has a number, and then its lines are too many to count and the model has no measures at
all.

No other span of an accepted model is miscounted.  A file that declares its length excludes the one
exception, unless it declares the greatest length there is.
-/

namespace StructuralLint

/--
The lines of all functions are counted exactly, or the model has a function with every line and is
not measured.
-/
structure Model.CountsLines (model : Model) (measured : Except Breakdown Metrics) : Prop where
  inOrder :
    ∀ function ∈ model.nodesOfKind .function, function.span.startLine ≤ function.span.endLine
  /-- The last step of the count, the addition of one, leaves 32 bits only at that span. -/
  fits :
    ∀ function ∈ model.nodesOfKind .function,
      (function.span.endLine - function.span.startLine).toNat + 1 < UInt32.size ↔
        ¬ function.span.HasEveryLine
  exact :
    ∀ metrics, measured = .ok metrics →
      ∀ function ∈ model.nodesOfKind .function,
        metrics.get? function.id .lineCount =
          some (function.span.endLine.toNat - function.span.startLine.toNat + 1)
  complete :
    (∀ function ∈ model.nodesOfKind .function, ¬ function.span.HasEveryLine) →
      ∃ metrics, measured = .ok metrics
  overflows :
    ∀ function ∈ model.nodesOfKind .function,
      function.span.HasEveryLine → measured = .error .overflow
  /-- A declared length that is not the greatest excludes the span. -/
  declared :
    ∀ limit, model.lineCount = some limit → limit.toNat + 1 < UInt32.size →
      ∀ function ∈ model.nodesOfKind .function, ¬ function.span.HasEveryLine

namespace Model

section IsWellFormed

variable {model : Model} (wellFormed : model.IsWellFormed)

include wellFormed

theorem IsWellFormed.startLine_le_endLine {node : Node} (member : node ∈ model.nodes) :
    node.span.startLine ≤ node.span.endLine := by
  rcases (Position.le_iff _ _).mp (wellFormed.spansOrdered node member) with earlier | ⟨same, _⟩
  · exact UInt32.le_of_lt earlier
  · exact UInt32.le_of_eq same

theorem IsWellFormed.not_hasEveryLine_of_declared {limit : UInt32}
    (declared : model.lineCount = some limit)
    (notGreatest : limit.toNat + 1 < UInt32.size)
    {node : Node}
    (member : node ∈ model.nodes) :
    ¬ node.span.HasEveryLine := by
  rintro ⟨_, last⟩
  have bounded := UInt32.le_iff_toNat_le.mp (wellFormed.spansBounded limit declared node member)
  omega

theorem IsWellFormed.countsLines (table : Symbols.Table) :
    model.CountsLines (Metrics.ofModel model table) := by
  have member {function : Node} (isFunction : function ∈ model.nodesOfKind .function) :
      function ∈ model.nodes := (List.mem_filter.mp isFunction).1
  refine ⟨?_, ?_, ?_, ?_, ?_, ?_⟩
  · intro function isFunction
    exact wellFormed.startLine_le_endLine (member isFunction)
  · intro function isFunction
    rw [UInt32.toNat_sub_of_le _ _ (wellFormed.startLine_le_endLine (member isFunction))]
    exact function.span.numberOfLines_lt_size_iff
  · intro metrics measured function isFunction
    rcases Metrics.exists_lines_of_ofModel wellFormed.distinctIds measured isFunction with
      ⟨lines, counted, values⟩
    rw [values]
    exact congrArg some (Span.toNat_of_lineCount_eq_ok counted)
  · exact Metrics.exists_ofModel_eq_ok_iff.mpr
  · intro function isFunction every
    exact Metrics.ofModel_eq_error_iff.mpr ⟨rfl, function, isFunction, every⟩
  · intro limit declared notGreatest function isFunction
    exact wellFormed.not_hasEveryLine_of_declared declared notGreatest (member isFunction)

end IsWellFormed

/--
In every model that ingestion accepts, the line count of each function is the number of its lines,
unless the span of some function runs from line zero to the last line that has a number.  Then the
count leaves 32 bits and the model is not measured; no file that declares its length has such a
function, unless it declares the greatest length.
-/
theorem ingest_counts_lines_iff
    (path : SourcePath)
    (root : NodeId)
    (nodes : List Node)
    (lineCount : Option UInt32)
    (model : Model)
    (accepted : ingest path root nodes lineCount = .ok model) :
    ∀ table, model.CountsLines (Metrics.ofModel model table) :=
  (IsWellFormed.of_ingest accepted).countsLines

/-- A module with one function of the same span, in a file that may declare its length. -/
def oneFunctionModule (startLine endLine : UInt32) (lineCount : Option UInt32) : Model :=
  .linked
    { path := { text := "long.ir.json" }
      root := { index := 0 }
      lineCount
      nodes :=
        [{ id := { index := 0 }, kind := .module
           span := { startLine, startCol := 1, endLine, endCol := 1 }
           children := [{ index := 1 }] },
          { id := { index := 1 }, kind := .function
            span := { startLine, startCol := 1, endLine, endCol := 1 }, name := some "long" }] }

/-- The module ends one line before the last line that has a number. -/
def nearlyEveryLineModule : Model :=
  oneFunctionModule 0 4294967294 (some 4294967294)

/-- One line short of the greatest length the lines from zero on are counted exactly. -/
theorem oneFunctionModule_counts_lines :
    ingest nearlyEveryLineModule.path nearlyEveryLineModule.root nearlyEveryLineModule.nodes
        nearlyEveryLineModule.lineCount = .ok nearlyEveryLineModule ∧
      ∀ table, ∃ metrics,
        Metrics.ofModel nearlyEveryLineModule table = .ok metrics ∧
          metrics.get? { index := 1 } .lineCount = some 4294967295 := by
  have accepted :
      ingest nearlyEveryLineModule.path nearlyEveryLineModule.root nearlyEveryLineModule.nodes
        nearlyEveryLineModule.lineCount = .ok nearlyEveryLineModule := rfl
  refine ⟨accepted, fun table => ?_⟩
  have countsLines := ingest_counts_lines_iff _ _ _ _ _ accepted table
  rcases countsLines.complete (countsLines.declared _ rfl (by decide)) with ⟨metrics, measured⟩
  have isFunction :
      nearlyEveryLineModule.nodes[1] ∈ nearlyEveryLineModule.nodesOfKind .function :=
    List.mem_singleton_self _
  exact ⟨metrics, measured, countsLines.exact metrics measured _ isFunction⟩

/--
A function from line zero to the last line that has a number is accepted.  It has one line more than
32 bits can count, and the model is not measured.
-/
theorem exists_accepted_function_without_lines :
    ∃ model function,
      ingest model.path model.root model.nodes model.lineCount = .ok model ∧
        function ∈ model.nodesOfKind .function ∧
        function.span.endLine.toNat - function.span.startLine.toNat + 1 = 4294967296 ∧
        Metrics.ofModel model (Symbols.resolve model) = .error .overflow := by
  refine ⟨oneFunctionModule 0 4294967295 none,
    (oneFunctionModule 0 4294967295 none).nodes[1], rfl, List.mem_singleton_self _, rfl, ?_⟩
  exact Metrics.ofModel_eq_error_iff.mpr
    ⟨rfl, _, List.mem_singleton_self _, rfl, rfl⟩

end Model

end StructuralLint
