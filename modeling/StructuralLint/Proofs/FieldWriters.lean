import Mathlib.Data.List.Permutation
import StructuralLint.Proofs.AbstractionDistance
import StructuralLint.Proofs.Anchors

/-!
# The only writer of a field

A report on a hidden order says that only one method of the class sets some fields.  Writes are
collected from the methods of the class, and an access is booked to the innermost function around
it.  So the writer is the only method that contains a write directly.  A write in a function inside
another method is booked to that function, which is no method of the class, and is not seen.
-/

namespace StructuralLint.Rule.TemporalCoupling

open Model (IsInnermost)

/-! ## Methods, couplings and pairs -/

/-- No id is lost when methods are put in order. -/
theorem exists_mem_inIdOrder {methods : List Node} {method : Node} (member : method ∈ methods) :
    ∃ kept ∈ inIdOrder methods, kept.id = method.id := by
  have folded (ordered : List Node) (isOrdered : method ∈ ordered) :
      ∃ kept ∈ ordered.foldr
          (fun method rest => if rest.head?.any (·.id == method.id) then rest else method :: rest)
          [],
        kept.id = method.id := by
    induction ordered with
    | nil => cases isOrdered
    | cons first rest induction =>
        rw [List.foldr_cons]
        rcases List.mem_cons.mp isOrdered with rfl | later
        · split
          next repeated =>
            rcases Option.any_eq_true _ _ |>.mp repeated with ⟨kept, isHead, sameId⟩
            exact ⟨kept, List.mem_of_head? isHead, beq_iff_eq.mp sameId⟩
          next => exact ⟨method, List.mem_cons_self, rfl⟩
        · rcases induction later with ⟨kept, isKept, sameId⟩
          split
          · exact ⟨kept, isKept, sameId⟩
          · exact ⟨kept, List.mem_cons_of_mem _ isKept, sameId⟩
  exact folded _ (List.mem_mergeSort.mpr member)

theorem mem_relevantAccesses_iff {context : Context} {owner method : Node}
    {access : Symbols.FieldAccess} :
    (method, access) ∈ relevantAccesses context owner ↔
      method ∈ context.model.children owner.id ∧ method.kind = .function ∧
        access ∈ context.symbols.fieldAccesses ∧ access.function = some method.id ∧
          access.isCall = false ∧ access.field ∉ initializedFields context.model owner := by
  simp only [relevantAccesses, Symbols.Table.fieldAccessesIn, List.mem_flatMap, List.mem_map,
    List.mem_filter, beq_iff_eq, Bool.and_eq_true, Bool.not_eq_true', List.contains_eq_mem,
    decide_eq_false_iff_not, Prod.mk.injEq]
  constructor
  · rintro ⟨_, ⟨isChild, isFunction⟩, _, ⟨⟨isAccess, inMethod⟩, isUse, isUnset⟩, rfl, rfl⟩
    exact ⟨isChild, isFunction, isAccess, inMethod, isUse, isUnset⟩
  · rintro ⟨isChild, isFunction, isAccess, inMethod, isUse, isUnset⟩
    exact ⟨method, ⟨isChild, isFunction⟩, access, ⟨⟨isAccess, inMethod⟩, isUse, isUnset⟩, rfl, rfl⟩

/--
What couples two methods of a class by a field: one is the only method with a direct write of
the field, and the other always reads it.
-/
structure IsCoupling (context : Context) (owner writer reader : Node) (field : String) : Prop where
  differ : reader.id ≠ writer.id
  noConstructor : isConstructor context.model writer = false
  writes :
    ∃ access, (writer, access) ∈ relevantAccesses context owner ∧ access.field = field ∧
      access.isWrite = true
  reads :
    ∃ access, (reader, access) ∈ relevantAccesses context owner ∧ access.field = field ∧
      access.isWrite = false ∧ runsAlways context.model access.node reader.id = true
  only :
    ∀ method access, (method, access) ∈ relevantAccesses context owner → access.field = field →
      access.isWrite = true → method.id = writer.id

theorem isCoupling_of_mem_couplings {context : Context} {owner : Node} {coupling : Coupling}
    (member : coupling ∈ couplings context owner) :
    IsCoupling context owner coupling.writer coupling.reader coupling.field := by
  rcases List.mem_flatMap.mp member with ⟨field, _, inField⟩
  split at inField
  next writer onlyWriter =>
    rw [List.mem_ite_nil_left] at inField
    rcases inField with ⟨noConstructor, inField⟩
    rcases List.mem_map.mp inField with ⟨reader, isReader, rfl⟩
    rcases List.mem_filter.mp isReader with ⟨isReader, differ⟩
    have isWriter : writer ∈ writersOf (relevantAccesses context owner) field := by
      rw [onlyWriter]
      exact List.mem_singleton_self writer
    refine ⟨bne_iff_ne.mp differ, Bool.eq_false_iff.mpr noConstructor, ?_, ?_, ?_⟩
    · rcases List.mem_map.mp (inIdOrder_subset _ isWriter) with ⟨⟨_, access⟩, isAccess, rfl⟩
      simp only [List.mem_filter, Bool.and_eq_true, beq_iff_eq] at isAccess
      exact ⟨access, isAccess⟩
    · rcases List.mem_map.mp (inIdOrder_subset _ isReader) with ⟨⟨_, access⟩, isAccess, rfl⟩
      simp only [List.mem_filter, Bool.and_eq_true, beq_iff_eq, Bool.not_eq_true', and_assoc]
        at isAccess
      exact ⟨access, isAccess⟩
    · intro method access isAccess isField isWrite
      have isKept : (method, access) ∈ (relevantAccesses context owner).filter
          fun use => use.2.field == field && use.2.isWrite :=
        List.mem_filter.mpr ⟨isAccess, by simp [isField, isWrite]⟩
      rcases exists_mem_inIdOrder (List.mem_map_of_mem (f := Prod.fst) isKept) with
        ⟨kept, isWriter, sameId⟩
      have isOnly : kept ∈ writersOf (relevantAccesses context owner) field := isWriter
      rw [onlyWriter, List.mem_singleton] at isOnly
      rw [← sameId, isOnly]
  next => cases inField

/-- The fields of a pair are those of couplings of its methods. -/
def HasFields (couplings : List Coupling) (pair : Node × Node × List String) : Prop :=
  pair.2.2 ≠ [] ∧
    ∀ field ∈ pair.2.2, ∃ coupling ∈ couplings,
      coupling.writer.id = pair.1.id ∧ coupling.reader.id = pair.2.1.id ∧ coupling.field = field

theorem hasFields_of_mem_addCoupling {couplings : List Coupling} {coupling : Coupling}
    (isCoupling : coupling ∈ couplings) {rest : List (Node × Node × List String)}
    (earlier : ∀ pair ∈ rest, HasFields couplings pair)
    {pair : Node × Node × List String}
    (member : pair ∈ addCoupling coupling rest) :
    HasFields couplings pair := by
  have single : HasFields couplings (coupling.writer, coupling.reader, [coupling.field]) := by
    refine ⟨List.cons_ne_nil _ _, ?_⟩
    intro field isField
    rw [List.mem_singleton.mp isField]
    exact ⟨coupling, isCoupling, rfl, rfl, rfl⟩
  cases rest with
  | nil =>
      cases List.mem_singleton.mp member
      exact single
  | cons first others =>
      rw [addCoupling] at member
      split at member
      next sameMethods =>
        rcases Bool.and_eq_true_iff.mp sameMethods with ⟨sameWriter, sameReader⟩
        rcases List.mem_cons.mp member with rfl | later
        · refine ⟨List.cons_ne_nil _ _, ?_⟩
          intro field isField
          rcases List.mem_cons.mp isField with rfl | isEarlier
          · exact ⟨coupling, isCoupling, (beq_iff_eq.mp sameWriter).symm,
              (beq_iff_eq.mp sameReader).symm, rfl⟩
          · exact (earlier first List.mem_cons_self).2 field isEarlier
        · exact earlier pair (List.mem_cons_of_mem first later)
      next =>
        rcases List.mem_cons.mp member with rfl | later
        · exact single
        · exact earlier pair later

theorem hasFields_of_mem_pairs {couplings : List Coupling} {pair : Node × Node × List String}
    (member : pair ∈ pairs couplings) :
    HasFields couplings pair := by
  have folded (inOrder : List Coupling) (known : inOrder ⊆ couplings) :
      ∀ pair ∈ inOrder.foldr addCoupling [], HasFields couplings pair := by
    induction inOrder with
    | nil =>
        intro pair none
        cases none
    | cons coupling rest induction =>
        intro pair inFold
        exact hasFields_of_mem_addCoupling (known List.mem_cons_self)
          (induction (List.subset_of_cons_subset known)) inFold
  rw [pairs_eq_foldr] at member
  exact folded _ (fun coupling isSorted => List.mem_mergeSort.mp isSorted) pair member

/-! ## Accepted models -/

/-- The innermost function around a node is a method of a class. -/
def IsInMethod (model : Model) (owner : Node) (id : NodeId) : Prop :=
  ∃ method ∈ model.children owner.id, method.kind = .function ∧
    ∃ node, node.id = id ∧ IsInnermost model method.id node

/-- What is reported about two methods and the fields that couple them. -/
def report (context : Context) (writer reader : Node) (fields : List String) : Violation :=
  { context.violation "TemporalCoupling" .medium reader
      (quoted reader.nameText ++ " reads " ++ ", ".intercalate (fields.map quoted) ++
        " which only " ++ quoted writer.nameText ++
        " sets; make the order explicit, e.g. pass what " ++ quoted writer.nameText ++
        " produces") with
    related := [context.range writer] }

/-- A report names the only method of the class with direct writes of its fields. -/
structure NamesWriter (context : Context) (owner writer reader : Node) (fields : List String) :
    Prop where
  someField : fields ≠ []
  couples : ∀ field ∈ fields, IsCoupling context owner writer reader field
  notExplicit : isOrderExplicit context writer.id reader.id = false
  within :
    ∀ access ∈ context.symbols.fieldAccesses,
      access.field ∈ fields → access.isWrite = true → access.isCall = false →
        IsInMethod context.model owner access.node →
          context.model.isWithin access.node writer.id = true

section IsWellFormed

variable {model : Model} (wellFormed : model.IsWellFormed)

include wellFormed

/-- An access is booked to the innermost function around it. -/
theorem function_of_isInnermost {access : Symbols.FieldAccess}
    (isAccess : access ∈ (Symbols.resolve model).fieldAccesses)
    {method node : Node}
    (isFunction : method ∈ model.nodesOfKind .function)
    (isNode : node.id = access.node)
    (isInnermost : IsInnermost model method.id node) :
    access.function = some method.id ∧ model.isWithin access.node method.id = true := by
  rw [Symbols.fieldAccesses_resolve] at isAccess
  rcases List.mem_filterMap.mp isAccess with ⟨found, isFound, made⟩
  rcases Symbols.function_of_fieldAccess? made with ⟨foundAt, bookedTo⟩
  rcases Model.reachable_of_mem_descendantsWithin isFound with ⟨foundMember, hangs⟩
  have sameNode : found = node :=
    wellFormed.eq_of_id_eq foundMember isInnermost.member (foundAt.symm.trans isNode.symm)
  subst sameNode
  have notRoot : found.id ≠ model.root := by
    intro isRoot
    have below := isInnermost.below
    rw [isRoot] at below
    exact wellFormed.not_above_root method.id below
  constructor
  · have placed := (Symbols.resolve_places wellFormed isFound notRoot).2
    rw [(wellFormed.enclosing?_eq_some_iff isFunction foundMember hangs).mpr isInnermost] at placed
    rw [Symbols.enclosingFunction?_resolve] at placed
    exact bookedTo.trans placed
  · rw [foundAt, wellFormed.isWithin_iff hangs]
    exact isInnermost.below.to_reflTransGen

theorem namesWriter_of_mem_pairs {context : Context}
    (isModel : context.model = model)
    (isTable : context.symbols = Symbols.resolve model)
    {owner writer reader : Node} {fields : List String}
    (isPair : (writer, reader, fields) ∈ pairs (couplings context owner))
    (notExplicit : isOrderExplicit context writer.id reader.id = false) :
    NamesWriter context owner writer reader fields := by
  subst isModel
  rcases hasFields_of_mem_pairs isPair with ⟨someField, coupled⟩
  rcases exists_coupling_of_mem_pairs isPair with ⟨first, isFirst, rfl, rfl⟩
  rcases coupling_mem isFirst with ⟨writerMember, readerMember⟩
  have couples (field : String) (isField : field ∈ fields) :
      IsCoupling context owner first.writer first.reader field := by
    rcases coupled field isField with ⟨coupling, isCoupling, sameWriter, sameReader, rfl⟩
    rcases coupling_mem isCoupling with ⟨otherWriter, otherReader⟩
    rw [← wellFormed.eq_of_id_eq otherWriter writerMember sameWriter,
      ← wellFormed.eq_of_id_eq otherReader readerMember sameReader]
    exact isCoupling_of_mem_couplings isCoupling
  refine ⟨someField, couples, notExplicit, ?_⟩
  rintro access isAccess isField isWrite isUse ⟨method, isChild, isKind, node, isNode, isInnermost⟩
  have isFunction : method ∈ context.model.nodesOfKind .function :=
    List.mem_filter.mpr ⟨Model.mem_of_mem_children isChild, beq_iff_eq.mpr isKind⟩
  rw [isTable] at isAccess
  rcases function_of_isInnermost wellFormed isAccess isFunction isNode isInnermost with
    ⟨bookedTo, isWithin⟩
  rw [← isTable] at isAccess
  -- The field has no value of its own, since it couples the methods.
  have unset : access.field ∉ initializedFields context.model owner := by
    rcases (couples access.field isField).writes with ⟨other, isOther, sameField, _⟩
    rw [← sameField]
    exact (mem_relevantAccesses_iff.mp isOther).2.2.2.2.2
  have relevant : (method, access) ∈ relevantAccesses context owner :=
    mem_relevantAccesses_iff.mpr ⟨isChild, isKind, isAccess, bookedTo, isUse, unset⟩
  rw [← (couples access.field isField).only method access relevant rfl isWrite]
  exact isWithin

end IsWellFormed

/--
In every model that ingestion accepts, a report on a hidden order names two methods of the class
and fields that couple them.  No other method of the class writes one of the fields directly, so
every write whose innermost function is a method of the class lies inside the writer.
-/
theorem ingest_temporalCoupling_names_writer
    (path : SourcePath)
    (root : NodeId)
    (nodes : List Node)
    (lineCount : Option UInt32)
    (model : Model)
    (accepted : Model.ingest path root nodes lineCount = .ok model) :
    ∀ metrics settings looksLikeCode owner,
      let context : Context :=
        { model, symbols := Symbols.resolve model, metrics, settings, looksLikeCode }
      ∀ violation ∈ findings context owner,
        ∃ writer reader fields,
          violation = report context writer reader fields ∧
            NamesWriter context owner writer reader fields := by
  intro metrics settings looksLikeCode owner context violation found
  rw [findings, List.mem_ite_nil_left] at found
  rcases List.mem_filterMap.mp found.2 with ⟨⟨writer, reader, fields⟩, isPair, reported⟩
  simp only [Option.ite_none_left_eq_some, Option.some.injEq] at reported
  refine ⟨writer, reader, fields, reported.2.symm, ?_⟩
  exact namesWriter_of_mem_pairs (Model.IsWellFormed.of_ingest accepted) rfl rfl isPair
    (Bool.eq_false_iff.mpr reported.1)

/--
A class with a field that one method sets, another reads, and a function inside a third sets
again.
-/
def connectionModule : Model :=
  let lines (startLine endLine : UInt32) : Span :=
    { startLine, startCol := 1, endLine, endCol := 9 }
  let member (id line : UInt32) : List Node :=
    [{ id := { index := id }, kind := .expression, span := lines line line
       expression := some .member, name := some "socket", children := [{ index := id + 1 }] },
      { id := { index := id + 1 }, kind := .identifier, span := lines line line
        name := some "self" }]
  .linked
    { path := { text := "connection.ir.json" }
      root := { index := 0 }
      lineCount := some 10
      nodes :=
        [{ id := { index := 0 }, kind := .module, span := lines 1 10
           children := [{ index := 1 }] },
          { id := { index := 1 }, kind := .class, span := lines 1 10, name := some "Connection"
            children := [{ index := 2 }, { index := 6 }, { index := 11 }] },
          { id := { index := 2 }, kind := .function, span := lines 2 3, name := some "open"
            children := [{ index := 3 }] },
          { id := { index := 3 }, kind := .statement, span := lines 3 3, statement := some .assign
            children := [{ index := 4 }] }] ++ member 4 3 ++
        [{ id := { index := 6 }, kind := .function, span := lines 4 7, name := some "reset"
           children := [{ index := 7 }] },
          { id := { index := 7 }, kind := .function, span := lines 5 7, name := some "clear"
            children := [{ index := 8 }] },
          { id := { index := 8 }, kind := .statement, span := lines 6 7, statement := some .assign
            children := [{ index := 9 }] }] ++ member 9 7 ++
        [{ id := { index := 11 }, kind := .function, span := lines 8 10, name := some "send"
           children := [{ index := 12 }] }] ++ member 12 10 }

/-- The context of a rule with default thresholds in the class, for some measures of the module. -/
def connectionContext (metrics : Metrics) : Context :=
  { model := connectionModule
    symbols := Symbols.resolve connectionModule
    metrics
    settings := RuleSettings.ofInfo temporalCoupling.info
    looksLikeCode := fun _ => false }

theorem findings_connectionContext (metrics : Metrics) :
    findings (connectionContext metrics) connectionModule.nodes[1] =
      [report (connectionContext metrics) connectionModule.nodes[2] connectionModule.nodes[11]
        ["socket"]] := by
  cbv

theorem exists_ofModel_connectionModule :
    ∃ metrics,
      Metrics.ofModel connectionModule (Symbols.resolve connectionModule) = .ok metrics :=
  Metrics.exists_ofModel_eq_ok_iff.mpr (by decide)

/--
The report on the class names the method that sets the field, and it is the only one that does
so directly.
-/
theorem connectionModule_names_writer :
    Model.ingest connectionModule.path connectionModule.root connectionModule.nodes
        connectionModule.lineCount = .ok connectionModule ∧
      ∃ metrics,
        Metrics.ofModel connectionModule (Symbols.resolve connectionModule) = .ok metrics ∧
          ∃ violation ∈ findings (connectionContext metrics) connectionModule.nodes[1],
            ∃ writer reader fields,
              violation = report (connectionContext metrics) writer reader fields ∧
                NamesWriter (connectionContext metrics) connectionModule.nodes[1] writer reader
                  fields := by
  have accepted :
      Model.ingest connectionModule.path connectionModule.root connectionModule.nodes
        connectionModule.lineCount = .ok connectionModule := rfl
  rcases exists_ofModel_connectionModule with ⟨metrics, measured⟩
  have found :
      report (connectionContext metrics) connectionModule.nodes[2] connectionModule.nodes[11]
          ["socket"] ∈
        findings (connectionContext metrics) connectionModule.nodes[1] := by
    rw [findings_connectionContext]
    exact List.mem_singleton_self _
  exact ⟨accepted, metrics, measured, _, found,
    ingest_temporalCoupling_names_writer _ _ _ _ _ accepted _ _ _ _ _ found⟩

/--
The function inside the other method sets the field as well: the write lies in the class, which
has no class inside it, and not in the method that the report names as the only one.
-/
theorem connectionModule_hides_writer :
    Model.ingest connectionModule.path connectionModule.root connectionModule.nodes
        connectionModule.lineCount = .ok connectionModule ∧
      connectionModule.nodesOfKind .class = [connectionModule.nodes[1]] ∧
      ∃ metrics,
        Metrics.ofModel connectionModule (Symbols.resolve connectionModule) = .ok metrics ∧
          findings (connectionContext metrics) connectionModule.nodes[1] =
            [report (connectionContext metrics) connectionModule.nodes[2]
              connectionModule.nodes[11] ["socket"]] ∧
          ∃ access ∈ (connectionContext metrics).symbols.fieldAccesses,
            access.field = "socket" ∧ access.isWrite = true ∧ access.isCall = false ∧
              connectionModule.isWithin access.node connectionModule.nodes[1].id = true ∧
              connectionModule.isWithin access.node connectionModule.nodes[2].id = false := by
  have isAccess :
      { node := { index := 9 }, function := some { index := 7 }, field := "socket", symbol := none
        isCall := false, isWrite := true } ∈
          (Symbols.resolve connectionModule).fieldAccesses := by
    decide
  rcases exists_ofModel_connectionModule with ⟨metrics, measured⟩
  exact ⟨rfl, rfl, metrics, measured, findings_connectionContext metrics, _, isAccess, rfl, rfl,
    rfl, rfl, rfl⟩

end StructuralLint.Rule.TemporalCoupling
