import StructuralLint.Proofs.ResolvedTable
import StructuralLint.Proofs.Sorting

/-!
# References and resolutions

References are pushed in three places: where a name is declared again, where an identifier is
resolved to a symbol, and where a member access is.  In the end the list of a symbol is sorted by
where the nodes start, and repeated neighbours are dropped.  What nodes denote goes to a look-up
table of its own.  The main statement says that both agree, and that nothing is lost or counted
twice on the way, over the lists of all symbols together.

No node is both a declaration and an identifier or member access, so the two sources never meet.
-/

namespace StructuralLint.Symbols

open Std

/-! ## Written nodes -/

/--
A node is written: it is the target of an assignment, it is counted up or down, or it is the
object of an index expression that is written.
-/
inductive IsWritten (model : Model) : NodeId → Prop where
  | assigned {node : NodeId} {parent : Node}
      (member : parent ∈ model.nodes)
      (isAssign : parent.isStatement .assign = true)
      (isFirst : parent.children.head? = some node) :
      IsWritten model node
  | counted {node : NodeId} {parent : Node}
      (member : parent ∈ model.nodes)
      (isUnary : parent.isExpression .unary = true)
      (operator : parent.operator = some "++" ∨ parent.operator = some "--")
      (listed : node ∈ parent.children) :
      IsWritten model node
  | indexed {node : NodeId} {parent : Node}
      (member : parent ∈ model.nodes)
      (isIndex : parent.isExpression .index = true)
      (isFirst : parent.children.head? = some node)
      (written : IsWritten model parent.id) :
      IsWritten model node

section Written

variable {model : Model} (wellFormed : model.IsWellFormed)

include wellFormed

theorem childIndex?_eq_zero_iff {parent : Node} {child : NodeId}
    (member : parent ∈ model.nodes)
    (listed : child ∈ parent.children) :
    model.childIndex? child = some 0 ↔ parent.children.head? = some child := by
  rw [Model.childIndex?, wellFormed.parent?_of_mem_children member listed, Option.bind_eq_bind,
    Option.bind_some]
  cases parent.children with
  | nil => simp
  | cons first rest =>
      rw [List.idxOf?_cons, List.head?_cons, Option.some_inj]
      by_cases isFirst : first = child
      · simp [isFirst]
      · simp [isFirst]

/-- Whether a child is written depends on its parent alone, and on whether the parent is written. -/
theorem isWritten_child_iff {parent : Node} {child : NodeId}
    (member : parent ∈ model.nodes)
    (listed : child ∈ parent.children) :
    IsWritten model child ↔
      (parent.isStatement .assign = true ∧ parent.children.head? = some child) ∨
        (parent.isExpression .unary = true ∧
          (parent.operator = some "++" ∨ parent.operator = some "--")) ∨
        (parent.isExpression .index = true ∧ parent.children.head? = some child ∧
          IsWritten model parent.id) := by
  have isParent {other : Node} (otherMember : other ∈ model.nodes)
      (otherListed : child ∈ other.children) : other = parent :=
    Model.eq_of_mem_children wellFormed.childrenOnce otherMember member otherListed listed
  constructor
  · intro written
    cases written with
    | assigned otherMember isAssign isFirst =>
        cases isParent otherMember (List.mem_of_head? isFirst)
        exact Or.inl ⟨isAssign, isFirst⟩
    | counted otherMember isUnary operator otherListed =>
        cases isParent otherMember otherListed
        exact Or.inr (Or.inl ⟨isUnary, operator⟩)
    | indexed otherMember isIndex isFirst written =>
        cases isParent otherMember (List.mem_of_head? isFirst)
        exact Or.inr (Or.inr ⟨isIndex, isFirst, written⟩)
  · rintro (⟨isAssign, isFirst⟩ | ⟨isUnary, operator⟩ | ⟨isIndex, isFirst, written⟩)
    · exact .assigned member isAssign isFirst
    · exact .counted member isUnary operator listed
    · exact .indexed member isIndex isFirst written

theorem not_isWritten_root : ¬ IsWritten model model.root := by
  intro written
  cases written with
  | assigned member _ isFirst => exact wellFormed.rootUnlisted _ member (List.mem_of_head? isFirst)
  | counted member _ _ listed => exact wellFormed.rootUnlisted _ member listed
  | indexed member _ isFirst _ =>
      exact wellFormed.rootUnlisted _ member (List.mem_of_head? isFirst)

/--
The walk up from a node finds out whether it is written when it has more levels than the node
lies deep.
-/
theorem isWriteTargetWithin_iff {depth : Nat} {node : NodeId}
    (atDepth : Model.AtDepth model.nodes model.root depth node)
    {levels : Nat}
    (bound : depth < levels) :
    isWriteTargetWithin model levels node = true ↔ IsWritten model node := by
  induction atDepth generalizing levels with
  | root =>
      cases levels with
      | zero => exact absurd bound (Nat.not_lt_zero _)
      | succ levels =>
          rw [isWriteTargetWithin, wellFormed.parent?_root]
          simp [not_isWritten_root wellFormed]
  | child above listed induction =>
      cases levels with
      | zero => exact absurd bound (Nat.not_lt_zero _)
      | succ levels =>
          rcases listed with ⟨parent, member, rfl, childListed⟩
          have parentWritten := induction (Nat.lt_of_succ_lt_succ bound)
          have first := childIndex?_eq_zero_iff wellFormed member childListed
          rw [isWriteTargetWithin, wellFormed.parent?_of_mem_children member childListed,
            isWritten_child_iff wellFormed member childListed, ← first, ← parentWritten]
          by_cases isAssign : parent.isStatement .assign = true
          · have notExpression (kind : ExprKind) : parent.isExpression kind = false := by
              rw [Node.isStatement, Bool.and_eq_true, beq_iff_eq] at isAssign
              simp [Node.isExpression, isAssign.1]
            simp [isAssign, notExpression]
          · by_cases isUnary : parent.isExpression .unary = true
            · have notIndex : parent.isExpression .index = false := by
                rw [Node.isExpression, Bool.and_eq_true, beq_iff_eq, beq_iff_eq] at isUnary
                simp [Node.isExpression, isUnary.2]
              simp [isAssign, isUnary, notIndex]
            · simp [isAssign, isUnary, and_assoc]

theorem isWriteTarget_iff {node : Node}
    (member : node ∈ model.descendants model.root) :
    isWriteTarget model node.id = true ↔ IsWritten model node.id := by
  rcases (wellFormed.mem_descendants_iff.mp member).2.exists_atDepth with ⟨depth, atDepth⟩
  exact isWriteTargetWithin_iff wellFormed atDepth
    (atDepth.lt_length wellFormed.childrenOnce wellFormed.rootUnlisted wellFormed.root_mem_ids
      wellFormed.children_mem_ids)

end Written

/-! ## Two kinds of references -/

/-- A node that declares a name is no identifier and no member access. -/
theorem resolution?_eq_none_of_symbolKind? {model : Model} {scoping : Scoping} {node : Node}
    (declares : (symbolKind? node).isSome = true) :
    resolution? model scoping node = none := by
  rw [resolution?, Node.isExpression]
  rw [symbolKind?] at declares
  cases isKind : node.kind <;> simp_all

section References

variable {model : Model} (wellFormed : model.IsWellFormed)

include wellFormed

/-- No declaration refers to a symbol as an identifier or a member access does. -/
theorem declaredBy?_eq_none_of_referenced? {node : NodeId} {id : SymbolId}
    (referenced : (resolve model).referenced? node = some id) :
    (resolve model).declaredBy? node = none := by
  rcases (referenced?_resolve_eq_some_iff wellFormed).mp referenced with
    ⟨used, usedMember, isUsed, refers⟩
  rcases Option.bind_eq_some_iff.mp refers with ⟨resolution, isResolution, _⟩
  rw [Option.eq_none_iff_forall_ne_some]
  intro other declared
  rw [declaredBy?_resolve, declaredBy?_eq_some_iff wellFormed] at declared
  rcases declared with ⟨declaration, member, rfl, _⟩
  rcases exists_visit_of_declaration member with ⟨visit, isVisit, isDeclaration⟩
  rcases declaration?_eq_some_iff.mp isDeclaration with ⟨sameNode, _, hasKind, _⟩
  have same : used = visit.node :=
    wellFormed.eq_of_mem_descendants usedMember (mem_descendants_of_mem_visits wellFormed isVisit).1
      (by rw [isUsed, sameNode])
  rw [same, resolution?_eq_none_of_symbolKind? (by rw [hasKind]; rfl)] at isResolution
  cases isResolution

/-- Of the declarations of a symbol the first introduces it, and the others write it. -/
theorem exists_declarations {id : SymbolId} {symbol : Symbol}
    (isSymbol : (scoping model).symbol? id = some symbol) :
    ∃ first rest,
      (declarationsOf model).filter (·.key == symbol.key) = first :: rest ∧
        symbol.declaration = first.node.id ∧
          symbol.references = rest.map Declaration.rewrite := by
  rcases exists_first_declaration wellFormed isSymbol with ⟨first, isFirst, isRecord⟩
  have isHead := isFirst
  rw [← List.head?_filter] at isHead
  rcases List.head?_eq_some_iff.mp isHead with ⟨rest, split⟩
  refine ⟨first, rest, split, congrArg Symbol.declaration isRecord, ?_⟩
  rw [congrArg Symbol.references isRecord, rewrites, split, List.drop_one, List.tail_cons]

/-- The first pass pushes the declarations of a symbol after its first. -/
theorem mem_references_scoping_iff {id : SymbolId} {symbol : Symbol}
    (isSymbol : (scoping model).symbol? id = some symbol)
    {reference : Reference} :
    reference ∈ symbol.references ↔
      ((resolve model).declaredBy? reference.node = some id ∧
        reference.node ≠ symbol.declaration) ∧ reference.access = .write := by
  rcases exists_declarations wellFormed isSymbol with ⟨first, rest, split, isFirst, isRest⟩
  have once : ((first :: rest).map fun declaration => declaration.node.id).Nodup := by
    rw [← split]
    exact (nodup_node_declarationsOf wellFormed).sublist (List.filter_sublist.map _)
  have listed (declaration : Declaration) :
      declaration ∈ first :: rest ↔
        declaration ∈ declarationsOf model ∧ declaration.key = symbol.key := by
    rw [← split, List.mem_filter, beq_iff_eq]
  rw [declaredBy?_resolve, declaredBy?_eq_some_iff wellFormed, isFirst, isRest, List.mem_map]
  constructor
  · rintro ⟨declaration, later, rfl⟩
    rcases (listed declaration).mp (List.mem_cons_of_mem _ later) with ⟨member, sameKey⟩
    refine ⟨⟨⟨declaration, member, rfl, symbol, isSymbol, sameKey.symm⟩, ?_⟩, rfl⟩
    intro sameNode
    exact (List.nodup_cons.mp once).1 (List.mem_map.mpr ⟨declaration, later, sameNode⟩)
  · rintro ⟨⟨⟨declaration, member, isNode, same, isSame, sameKey⟩, notFirst⟩, isWrite⟩
    cases isSymbol.symm.trans isSame
    rcases List.mem_cons.mp ((listed declaration).mpr ⟨member, sameKey.symm⟩) with rfl | later
    · exact absurd isNode.symm notFirst
    · refine ⟨declaration, later, ?_⟩
      rw [Declaration.rewrite, isNode, ← isWrite]

/-- The second pass pushes the nodes that refer to a symbol. -/
theorem mem_uses_iff {id : SymbolId} {reference : Reference} :
    reference ∈ uses model (scoping model) (model.descendants model.root) id ↔
      (resolve model).referenced? reference.node = some id ∧
        reference.access = accessOf model reference.node := by
  rw [uses, List.mem_filterMap, referenced?_resolve_eq_some_iff wellFormed]
  constructor
  · rintro ⟨node, member, made⟩
    rcases Option.ite_none_right_eq_some.mp made with ⟨refers, isReference⟩
    cases isReference
    exact ⟨⟨node, member, rfl, refers⟩, rfl⟩
  · rintro ⟨⟨node, member, isNode, refers⟩, isAccess⟩
    refine ⟨node, member, ?_⟩
    rw [if_pos refers, isNode, ← isAccess]

theorem mem_references_iff {id : SymbolId} {symbol : Symbol}
    (isSymbol : (scoping model).symbol? id = some symbol)
    {reference : Reference} :
    reference ∈ (symbol.finish model id).references ↔
      (((resolve model).declaredBy? reference.node = some id ∧
        reference.node ≠ symbol.declaration) ∧ reference.access = .write) ∨
      ((resolve model).referenced? reference.node = some id ∧
        reference.access = accessOf model reference.node) := by
  rw [Symbol.finish, inSourceOrder, mem_firstOfRuns_iff, List.mem_mergeSort, List.mem_append,
    mem_references_scoping_iff wellFormed isSymbol, mem_uses_iff wellFormed]

omit wellFormed in
/-- References are sorted by where their nodes start. -/
theorem pairwise_start_inSourceOrder (references : List Reference) :
    (inSourceOrder model references).Pairwise
      fun first second => startOf model first.node ≤ startOf model second.node := by
  let place (first second : Reference) : Ordering :=
    (startOf model first.node).order (startOf model second.node)
  have isOrder : TransCmp place :=
    transCmp_on Position.order fun reference : Reference => startOf model reference.node
  have sorted := pairwise_sorted place references
  refine (sorted.sublist (firstOfRuns_sublist _ _ _)).imp ?_
  intro first second notAfter
  rw [← Position.order_isLE_iff]
  exact Ordering.ne_gt_iff_isLE.mp notAfter

theorem nodup_node_references {id : SymbolId} {symbol : Symbol}
    (isSymbol : (scoping model).symbol? id = some symbol) :
    ((symbol.finish model id).references.map Reference.node).Nodup := by
  have declaredOnce : (symbol.references.map Reference.node).Nodup := by
    rcases exists_declarations wellFormed isSymbol with ⟨first, rest, split, _, isRest⟩
    rw [isRest, List.map_map]
    have later : rest.Sublist (declarationsOf model) :=
      (List.sublist_cons_self first rest).trans (split ▸ List.filter_sublist)
    exact (nodup_node_declarationsOf wellFormed).sublist (later.map _)
  have usedOnce :
      ((uses model (scoping model) (model.descendants model.root) id).map
        Reference.node).Nodup := by
    have keeps (node : Node) (reference : Reference)
        (made :
          (if (resolution? model (scoping model) node).bind Resolution.symbol? = some id then
            some { node := node.id, access := accessOf model node.id : Reference }
          else none) = some reference) :
        reference.node = node.id := by
      cases (Option.ite_none_right_eq_some.mp made).2
      rfl
    exact nodup_keys_filterMap keeps wellFormed.nodup_descendants
  -- A declaration has no resolution, so nothing is pushed both as a declaration and as a use.
  have apart :
      ∀ declared ∈ symbol.references.map Reference.node,
        ∀ used ∈
          (uses model (scoping model) (model.descendants model.root) id).map Reference.node,
          declared ≠ used := by
    rintro _ isDeclared _ isUsed rfl
    rcases List.mem_map.mp isDeclared with ⟨declared, member, isNode⟩
    rcases List.mem_map.mp isUsed with ⟨used, usedMember, sameNode⟩
    have declaredBy := ((mem_references_scoping_iff wellFormed isSymbol).mp member).1.1
    have referenced := ((mem_uses_iff wellFormed).mp usedMember).1
    rw [isNode, ← sameNode, declaredBy?_eq_none_of_referenced? wellFormed referenced] at declaredBy
    cases declaredBy
  refine List.Nodup.sublist ((firstOfRuns_sublist _ _ _).map Reference.node) ?_
  rw [((List.mergeSort_perm _ _).map Reference.node).nodup_iff, List.map_append, List.nodup_append]
  exact ⟨declaredOnce, usedOnce, apart⟩

/-- A node is listed by the symbol that it refers to or declares again. -/
theorem mem_node_references_iff {id : SymbolId} {symbol : Symbol}
    (isSymbol : (scoping model).symbol? id = some symbol)
    {node : NodeId} :
    node ∈ (symbol.finish model id).references.map Reference.node ↔
      (resolve model).referenced? node = some id ∨
        ((resolve model).declaredBy? node = some id ∧ node ≠ symbol.declaration) := by
  rw [or_comm, List.mem_map]
  simp only [mem_references_iff wellFormed isSymbol]
  constructor
  · rintro ⟨reference, ⟨again, _⟩ | ⟨referenced, _⟩, rfl⟩
    · exact Or.inl again
    · exact Or.inr referenced
  · rintro (again | referenced)
    · exact ⟨⟨node, .write⟩, Or.inl ⟨again, rfl⟩, rfl⟩
    · exact ⟨⟨node, accessOf model node⟩, Or.inr ⟨referenced, rfl⟩, rfl⟩

/-- A reference writes its symbol when its node declares the symbol again or is written. -/
theorem access_eq_write_iff {id : SymbolId} {symbol : Symbol}
    (isSymbol : (scoping model).symbol? id = some symbol)
    {reference : Reference}
    (member : reference ∈ (symbol.finish model id).references) :
    reference.access = .write ↔
      ((resolve model).declaredBy? reference.node = some id ∧
        reference.node ≠ symbol.declaration) ∨ IsWritten model reference.node := by
  rcases (mem_references_iff wellFormed isSymbol).mp member with
    ⟨again, isWrite⟩ | ⟨referenced, isAccess⟩
  · exact iff_of_true isWrite (Or.inl again)
  · have undeclared := declaredBy?_eq_none_of_referenced? wellFormed referenced
    rcases (referenced?_resolve_eq_some_iff wellFormed).mp referenced with
      ⟨node, nodeMember, isNode, _⟩
    rw [isAccess, undeclared, ← isNode, ← isWriteTarget_iff wellFormed nodeMember, accessOf]
    cases isWriteTarget model node.id <;> simp

/-- No two symbols list the same node. -/
theorem eq_of_mem_node_references {first second : SymbolId} {firstSymbol secondSymbol : Symbol}
    (isFirst : (scoping model).symbol? first = some firstSymbol)
    (isSecond : (scoping model).symbol? second = some secondSymbol)
    {node : NodeId}
    (inFirst : node ∈ (firstSymbol.finish model first).references.map Reference.node)
    (inSecond : node ∈ (secondSymbol.finish model second).references.map Reference.node) :
    first = second := by
  rw [mem_node_references_iff wellFormed isFirst] at inFirst
  rw [mem_node_references_iff wellFormed isSecond] at inSecond
  rcases inFirst with firstReferenced | ⟨firstDeclared, _⟩
  · rcases inSecond with secondReferenced | ⟨secondDeclared, _⟩
    · rwa [firstReferenced, Option.some_inj] at secondReferenced
    · rw [declaredBy?_eq_none_of_referenced? wellFormed firstReferenced] at secondDeclared
      cases secondDeclared
  · rcases inSecond with secondReferenced | ⟨secondDeclared, _⟩
    · rw [declaredBy?_eq_none_of_referenced? wellFormed secondReferenced] at firstDeclared
      cases firstDeclared
    · rwa [firstDeclared, Option.some_inj] at secondDeclared

/-- No node refers to two symbols, or to one symbol twice. -/
theorem nodup_nodes_of_references :
    ((resolve model).symbols.flatMap fun symbol =>
      symbol.references.map Reference.node).Nodup := by
  rw [List.nodup_flatMap]
  constructor
  · intro symbol member
    rcases List.mem_iff_getElem?.mp member with ⟨id, found⟩
    rcases symbol?_resolve_eq_some_iff.mp found with ⟨declared, isDeclared, rfl⟩
    exact nodup_node_references wellFormed isDeclared
  · rw [List.pairwise_iff_getElem]
    intro first second firstBound secondBound before node inFirst inSecond
    rcases symbol?_resolve_eq_some_iff.mp (List.getElem?_eq_getElem firstBound) with
      ⟨firstDeclared, isFirst, firstRecord⟩
    rcases symbol?_resolve_eq_some_iff.mp (List.getElem?_eq_getElem secondBound) with
      ⟨secondDeclared, isSecond, secondRecord⟩
    rw [firstRecord] at inFirst
    rw [secondRecord] at inSecond
    exact Nat.ne_of_lt before
      (eq_of_mem_node_references wellFormed isFirst isSecond inFirst inSecond)

end References

/--
References and resolutions agree.

A symbol lists exactly the nodes that are resolved to it and the declarations after its first, in
the order in which they start.  Over the lists of all symbols no node occurs twice.  A reference
writes its symbol exactly when it declares the symbol again or is written.
-/
theorem resolve_references_agree {path : SourcePath} {root : NodeId} {nodes : List Node}
    {lineCount : Option UInt32} {model : Model}
    (accepted : Model.ingest path root nodes lineCount = .ok model) :
    (∀ id symbol,
      (resolve model).symbol? id = some symbol →
        (∀ node,
          node ∈ symbol.references.map Reference.node ↔
            ((resolve model).resolution? node = some (.inScope id) ∨
              (resolve model).resolution? node = some (.ownField (some id))) ∨
            ((resolve model).declaredBy? node = some id ∧ node ≠ symbol.declaration)) ∧
          (symbol.references.Pairwise fun first second =>
            startOf model first.node ≤ startOf model second.node) ∧
          ∀ reference ∈ symbol.references,
            reference.access = .write ↔
              ((resolve model).declaredBy? reference.node = some id ∧
                reference.node ≠ symbol.declaration) ∨
              IsWritten model reference.node) ∧
      ((resolve model).symbols.flatMap fun symbol =>
        symbol.references.map Reference.node).Nodup := by
  have wellFormed := Model.IsWellFormed.of_ingest accepted
  refine ⟨?_, nodup_nodes_of_references wellFormed⟩
  intro id symbol found
  rcases symbol?_resolve_eq_some_iff.mp found with ⟨declared, isDeclared, rfl⟩
  refine ⟨?_, pairwise_start_inSourceOrder _, fun _ => access_eq_write_iff wellFormed isDeclared⟩
  intro node
  rw [← referenced?_eq_some_iff]
  exact mem_node_references_iff wellFormed isDeclared

/-- A module that declares a variable twice, writes through it and reads it. -/
def countingModule : Model :=
  let line (number : UInt32) : Span :=
    { startLine := number, startCol := 1, endLine := number, endCol := 9 }
  let lines (startLine endLine : UInt32) : Span :=
    { startLine, startCol := 1, endLine, endCol := 9 }
  .linked
    { path := { text := "counting.ir.json" }
      root := { index := 0 }
      lineCount := some 7
      nodes :=
        [{ id := { index := 0 }, kind := .module, span := lines 1 7
           children := [{ index := 1 }, { index := 2 }, { index := 3 }, { index := 8 }] },
          { id := { index := 1 }, kind := .statement, span := line 1, name := some "counts"
            statement := some .varDecl },
          { id := { index := 2 }, kind := .statement, span := line 2, name := some "counts"
            statement := some .varDecl },
          { id := { index := 3 }, kind := .statement, span := lines 3 5, statement := some .assign
            children := [{ index := 4 }, { index := 7 }] },
          { id := { index := 4 }, kind := .expression, span := lines 3 4, expression := some .index
            children := [{ index := 5 }, { index := 6 }] },
          { id := { index := 5 }, kind := .identifier, span := line 3, name := some "counts" },
          { id := { index := 6 }, kind := .literal, span := line 4, literal := some (.str "a") },
          { id := { index := 7 }, kind := .literal, span := line 5, literal := some .null },
          { id := { index := 8 }, kind := .statement, span := lines 6 7, statement := some .return
            children := [{ index := 9 }] },
          { id := { index := 9 }, kind := .identifier, span := line 7, name := some "counts" }] }

/--
The second declaration and the assignment through an index write the variable, the returned name
reads it, and the first declaration is no reference.
-/
theorem countingModule_references :
    Model.ingest countingModule.path countingModule.root countingModule.nodes
        countingModule.lineCount = .ok countingModule ∧
      ∃ symbol,
        (resolve countingModule).symbol? 0 = some symbol ∧
          { index := 1 } ∉ symbol.references.map Reference.node ∧
          { node := { index := 2 }, access := .write } ∈ symbol.references ∧
          { node := { index := 5 }, access := .write } ∈ symbol.references ∧
          { node := { index := 9 }, access := .read } ∈ symbol.references := by
  have accepted :
      Model.ingest countingModule.path countingModule.root countingModule.nodes
        countingModule.lineCount = .ok countingModule := rfl
  have found : ∃ symbol,
      (resolve countingModule).symbol? 0 = some symbol ∧ symbol.declaration = { index := 1 } :=
    ⟨_, rfl, rfl⟩
  rcases found with ⟨symbol, found, isDeclaration⟩
  rcases (resolve_references_agree accepted).1 0 symbol found with ⟨listed, _, accesses⟩
  have declaredBy : (resolve countingModule).declaredBy? { index := 2 } = some 0 := by decide
  have assigned : (resolve countingModule).resolution? { index := 5 } = some (.inScope 0) := by
    decide
  have returned : (resolve countingModule).resolution? { index := 9 } = some (.inScope 0) := by
    decide
  have isWritten : IsWritten countingModule { index := 5 } := by
    have member (index : Nat) (bound : index < countingModule.nodes.length) :
        countingModule.nodes[index] ∈ countingModule.nodes := List.getElem_mem bound
    exact .indexed (member 4 (by decide)) rfl rfl (.assigned (member 3 (by decide)) rfl rfl)
  have notWritten : ¬ IsWritten countingModule { index := 9 } := by
    have wellFormed := Model.IsWellFormed.of_ingest accepted
    have member : countingModule.nodes[9] ∈ countingModule.descendants countingModule.root :=
      wellFormed.mem_descendants_of_not_comment (List.getElem_mem _) (by decide)
    have written_iff := isWriteTarget_iff wellFormed member
    intro written
    cases written_iff.mpr written
  refine ⟨accepted, symbol, found, ?_, ?_, ?_, ?_⟩
  · rw [listed, isDeclaration]
    decide
  · rcases List.mem_map.mp
      ((listed { index := 2 }).mpr (Or.inr ⟨declaredBy, by simp [isDeclaration]⟩))
      with ⟨⟨node, access⟩, member, rfl⟩
    have isWrite := (accesses _ member).mpr (Or.inl ⟨declaredBy, by simp [isDeclaration]⟩)
    rwa [← isWrite]
  · rcases List.mem_map.mp ((listed { index := 5 }).mpr (Or.inl (Or.inl assigned))) with
      ⟨⟨node, access⟩, member, rfl⟩
    have isWrite := (accesses _ member).mpr (Or.inr isWritten)
    rwa [← isWrite]
  · rcases List.mem_map.mp ((listed { index := 9 }).mpr (Or.inl (Or.inl returned))) with
      ⟨⟨node, access⟩, member, rfl⟩
    cases access with
    | read => exact member
    | write =>
        rcases (accesses _ member).mp rfl with ⟨again, _⟩ | written
        · exact absurd again (by decide)
        · exact absurd written notWritten

end StructuralLint.Symbols
