import StructuralLint.Adapter.ModelDocument
import StructuralLint.Proofs.Ingestion
import StructuralLint.Proofs.JsonText

/-!
# Model documents are read back

A document leaves out empty lists, absent values and false flags, and reading puts them back.  Each
record is written in segments, one for each field, and a segment has its name to itself; so what is
read for a name is what the segment holds.  A document of an accepted model is therefore read as the
same document, and ingestion of its nodes yields the model again.
-/

namespace StructuralLint.Model.Document

/-! ## Fields -/

section Fields

variable {α : Type} {name other : String} {write : α → Json}

/-- The value that a list is written as. -/
def presentList (write : α → Json) (values : List α) : Option Json :=
  if values.isEmpty then none else some (.array (values.map write))

/-- The value that a flag is written as. -/
def presentFlag (value : Bool) : Option Json :=
  if value then some (.bool true) else none

theorem filter_fieldOf (value : Option α) :
    (fieldOf other write value).filter (·.1 == name) =
      if other = name then fieldOf other write value else [] := by
  cases value with
  | none => simp [fieldOf]
  | some value => by_cases same : other = name <;> simp [fieldOf, same]

theorem filter_flagOf (value : Bool) :
    (flagOf other value).filter (·.1 == name) =
      if other = name then flagOf other value else [] := by
  cases value with
  | false => simp [flagOf]
  | true => by_cases same : other = name <;> simp [flagOf, same]

theorem filter_listOf (values : List α) :
    (listOf other write values).filter (·.1 == name) =
      if other = name then listOf other write values else [] := by
  cases values with
  | nil => simp [listOf]
  | cons value values => by_cases same : other = name <;> simp [listOf, same]

/-- What is read from the fields of one name. -/
def single? : List (String × Json) → Option (Option Json)
  | [] => some none
  | [(_, value)] => some (some value)
  | _ => none

theorem only?_eq_single? (name : String) (fields : List (String × Json)) :
    only? name fields = single? (fields.filter (·.1 == name)) :=
  rfl

theorem single?_singleton (value : Json) : single? [(name, value)] = some (some value) :=
  rfl

theorem single?_fieldOf (value : Option α) :
    single? (fieldOf name write value) = some (value.map write) := by
  cases value <;> rfl

theorem single?_flagOf (value : Bool) :
    single? (flagOf name value) = some (presentFlag value) := by
  cases value <;> rfl

theorem single?_listOf (values : List α) :
    single? (listOf name write values) = some (presentList write values) := by
  cases values <;> rfl

end Fields

/-! ## Values -/

section Values

variable {α : Type} {read? : Json → Option α} {write : α → Json}

theorem list?_map (reads : ∀ value, read? (write value) = some value) (values : List α) :
    list? read? (.array (values.map write)) = some values := by
  show (values.map write).mapM read? = some values
  induction values with
  | nil => rfl
  | cons value values induction =>
      rw [List.map_cons, List.mapM_cons, reads, induction]
      rfl

theorem default?_some (default : α) (value : Json) :
    default? default read? (some value) = read? value :=
  rfl

theorem default?_presentList (reads : ∀ value, read? (write value) = some value)
    (values : List α) :
    default? [] (list? read?) (presentList write values) = some values := by
  rw [presentList]
  split
  next empty => rw [default?, List.isEmpty_iff.mp empty]
  next => exact list?_map reads values

theorem optional?_map
    (reads : ∀ value, read? (write value) = some value)
    (notNull : ∀ value, write value ≠ .null)
    (value : Option α) :
    optional? read? (value.map write) = some value := by
  cases value with
  | none => rfl
  | some value =>
      rw [Option.map_some, optional?, reads]
      · rfl
      · exact notNull value

theorem default?_presentFlag (value : Bool) :
    default? false Json.bool? (presentFlag value) = some value := by
  cases value <;> rfl

end Values

theorem word?_ofWord (value : UInt32) : word? (ofWord value) = some value := by
  have small : Int.ofNat value.toNat < Int.ofNat UInt32.size :=
    Int.ofNat_lt.mpr value.toNat_lt_size
  rw [ofWord, word?, if_pos (by simpa using small)]
  exact congrArg some UInt32.ofNat_toNat

theorem id?_ofId (id : NodeId) : id? (ofId id) = some id := by
  rw [id?, ofId, word?_ofWord]
  rfl

theorem kind?_text (kind : NodeKind) :
    name? NodeKind.ofText? (.string kind.text) = some kind := by
  cases kind <;> rfl

theorem statement?_text (kind : StatementKind) :
    name? StatementKind.ofText? (.string kind.text) = some kind := by
  cases kind <;> rfl

theorem expression?_text (kind : ExprKind) :
    name? ExprKind.ofText? (.string kind.text) = some kind := by
  cases kind <;> rfl

theorem literal?_ofLiteral (literal : Literal) : literal? (ofLiteral literal) = some literal := by
  cases literal with
  | int value =>
      have bounds :
          Int64.minValue.toInt ≤ value.toInt ∧ value.toInt ≤ Int64.maxValue.toInt :=
        ⟨value.minValue_le_toInt, value.toInt_le⟩
      show literalValue? .int (some (.int value.toInt)) = _
      rw [literalValue?, if_pos (by simpa using bounds), value.ofInt_toInt]
  | _ => rfl

/-! ## Records -/

theorem record?_ofSpan (span : Span) :
    record? spanFieldNames false (ofSpan span) =
      some
        [some (ofWord span.startLine), some (ofWord span.startCol), some (ofWord span.endLine),
          some (ofWord span.endCol)] := by
  rfl

theorem record?_ofAttributes (attributes : Attributes) :
    record? attributesFieldNames false (ofAttributes attributes) =
      some
        [attributes.typeName.map .string, presentFlag attributes.byReference,
          presentFlag attributes.isOverride, presentFlag attributes.isEnum,
          presentList .string attributes.bases, attributes.returnType.map .string] := by
  simp [record?, ofAttributes, attributesFieldNames, only?_eq_single?, filter_fieldOf,
    filter_flagOf, filter_listOf, single?_fieldOf, single?_flagOf, single?_listOf]

theorem record?_ofNode (node : Node) :
    record? nodeFieldNames false (ofNode node) =
      some
        [some (ofId node.id), some (.string node.kind.text), some (ofSpan node.span),
          presentList ofId node.children, presentList ofId node.comments,
          node.name.map .string, node.literal.map ofLiteral,
          node.statement.map fun kind => .string kind.text,
          node.expression.map fun kind => .string kind.text,
          node.operator.map .string, node.text.map .string,
          some (ofAttributes node.attributes)] := by
  simp [record?, ofNode, nodeFieldNames, only?_eq_single?, filter_fieldOf, filter_listOf,
    single?_singleton, single?_fieldOf, single?_listOf]

theorem record?_encode (document : Document) :
    record? fieldNames true (encode document) =
      some
        [document.lineCount.map ofWord, some (ofId document.root),
          some (.array (document.nodes.map ofNode))] := by
  rcases document with ⟨_ | lineCount, root, nodes⟩ <;> rfl

theorem span?_ofSpan (span : Span) : span? (ofSpan span) = some span := by
  rw [span?, record?_ofSpan]
  simp -implicitDefEqProofs only [Option.bind_eq_bind, Option.bind_some, required?, word?_ofWord,
    Option.pure_def]

theorem attributes?_ofAttributes (attributes : Attributes) :
    attributes? (ofAttributes attributes) = some attributes := by
  have text (value : String) : Json.string? (.string value) = some value := rfl
  have notNull (value : String) : Json.string value ≠ .null := Json.noConfusion
  rw [attributes?, record?_ofAttributes]
  simp -implicitDefEqProofs only [Option.bind_eq_bind, Option.bind_some, optional?_map text notNull,
    default?_presentFlag, default?_presentList text, Option.pure_def]

theorem node?_ofNode (node : Node) : node? (ofNode node) = some node := by
  have text (value : String) : Json.string? (.string value) = some value := rfl
  have notNull (value : String) : Json.string value ≠ .null := Json.noConfusion
  have literal (value : Literal) : ofLiteral value ≠ .null := by
    cases value <;> exact Json.noConfusion
  have statement (kind : StatementKind) : Json.string kind.text ≠ .null := Json.noConfusion
  have expression (kind : ExprKind) : Json.string kind.text ≠ .null := Json.noConfusion
  rw [node?, record?_ofNode]
  simp -implicitDefEqProofs only [Option.bind_eq_bind, Option.bind_some, required?, id?_ofId,
    kind?_text, span?_ofSpan, default?_presentList id?_ofId, optional?_map text notNull,
    optional?_map literal?_ofLiteral literal, optional?_map statement?_text statement,
    optional?_map expression?_text expression, default?_some, attributes?_ofAttributes,
    Option.pure_def]

/-- A document is read as it was written. -/
theorem decode?_encode (document : Document) : decode? (encode document) = some document := by
  have word (value : UInt32) : ofWord value ≠ .null := Json.noConfusion
  rw [decode?, record?_encode]
  simp -implicitDefEqProofs only [Option.bind_eq_bind, Option.bind_some, required?, id?_ofId,
    optional?_map word?_ofWord word, list?_map node?_ofNode, Option.pure_def]

/-! ## Texts -/

section Readable

variable {α : Type} {name : String} {write : α → Json}

theorem isReadable_ofWord (value : UInt32) : (ofWord value).IsReadable := by
  apply Json.IsReadable.int
  · exact Int.le_trans (by decide) (Int.natCast_nonneg value.toNat)
  · exact Int.ofNat_lt.mpr (Nat.lt_trans value.toNat_lt (by decide))

theorem isReadable_fieldOf {value : Option α}
    (readable : ∀ present, value = some present → (write present).IsReadable) :
    ∀ field ∈ fieldOf name write value, field.2.IsReadable := by
  cases value with
  | none => simp [fieldOf]
  | some present => simpa [fieldOf] using readable present rfl

theorem isReadable_flagOf (value : Bool) :
    ∀ field ∈ flagOf name value, field.2.IsReadable := by
  cases value with
  | false => simp [flagOf]
  | true => simpa [flagOf] using Json.IsReadable.bool true

theorem isReadable_array {values : List α}
    (readable : ∀ value ∈ values, (write value).IsReadable) :
    (Json.array (values.map write)).IsReadable :=
  .array (List.forall_mem_map.mpr readable)

theorem isReadable_listOf {values : List α}
    (readable : ∀ value ∈ values, (write value).IsReadable) :
    ∀ field ∈ listOf name write values, field.2.IsReadable := by
  rw [listOf]
  split
  next => simp
  next =>
    rw [List.forall_mem_singleton]
    exact isReadable_array readable

end Readable

theorem isReadable_ofLiteral {literal : Literal}
    (readsBack :
      ∀ value, literal = .float value →
        Json.read? (Json.render (.float value)) = some (.float value)) :
    (ofLiteral literal).IsReadable := by
  cases literal <;> apply Json.IsReadable.object
  case int value =>
    have most := Int.lt_trans value.toInt_lt (show _ < Int.ofNat UInt64.size by decide)
    rw [List.forall_mem_cons, List.forall_mem_singleton]
    exact ⟨.string _, .int value.le_toInt most⟩
  case float value =>
    rw [List.forall_mem_cons, List.forall_mem_singleton]
    exact ⟨.string _, .float (readsBack value rfl)⟩
  case str text =>
    rw [List.forall_mem_cons, List.forall_mem_singleton]
    exact ⟨.string _, .string text⟩
  case bool value =>
    rw [List.forall_mem_cons, List.forall_mem_singleton]
    exact ⟨.string _, .bool value⟩
  case null =>
    rw [List.forall_mem_singleton]
    exact .string _

theorem isReadable_ofSpan (span : Span) : (ofSpan span).IsReadable := by
  apply Json.IsReadable.object
  simp only [List.forall_mem_cons]
  exact ⟨isReadable_ofWord _, isReadable_ofWord _, isReadable_ofWord _, isReadable_ofWord _,
    List.forall_mem_nil _⟩

theorem isReadable_ofAttributes (attributes : Attributes) :
    (ofAttributes attributes).IsReadable := by
  apply Json.IsReadable.object
  simp only [List.forall_mem_append, and_assoc]
  exact ⟨isReadable_fieldOf fun _ _ => .string _, isReadable_flagOf _, isReadable_flagOf _,
    isReadable_flagOf _, isReadable_listOf fun _ _ => .string _,
    isReadable_fieldOf fun _ _ => .string _⟩

theorem isReadable_ofNode {node : Node}
    (readsBack :
      ∀ value, node.literal = some (.float value) →
        Json.read? (Json.render (.float value)) = some (.float value)) :
    (ofNode node).IsReadable := by
  have literal (present : Literal) (isLiteral : node.literal = some present) :
      (ofLiteral present).IsReadable := by
    apply isReadable_ofLiteral
    rintro value rfl
    exact readsBack value isLiteral
  apply Json.IsReadable.object
  simp only [List.forall_mem_append, List.forall_mem_cons, and_assoc]
  exact ⟨isReadable_ofWord _, .string _, isReadable_ofSpan _, List.forall_mem_nil _,
    isReadable_listOf fun _ _ => isReadable_ofWord _,
    isReadable_listOf fun _ _ => isReadable_ofWord _, isReadable_fieldOf fun _ _ => .string _,
    isReadable_fieldOf literal, isReadable_fieldOf fun _ _ => .string _,
    isReadable_fieldOf fun _ _ => .string _, isReadable_fieldOf fun _ _ => .string _,
    isReadable_fieldOf fun _ _ => .string _, isReadable_ofAttributes _, List.forall_mem_nil _⟩

theorem isReadable_encode {document : Document}
    (readsBack :
      ∀ node ∈ document.nodes, ∀ value, node.literal = some (.float value) →
        Json.read? (Json.render (.float value)) = some (.float value)) :
    (encode document).IsReadable := by
  have nodes : (Json.array (document.nodes.map ofNode)).IsReadable :=
    isReadable_array fun node member => isReadable_ofNode (readsBack node member)
  apply Json.IsReadable.object
  simp only [List.forall_mem_append, List.forall_mem_cons]
  exact ⟨isReadable_fieldOf fun _ _ => isReadable_ofWord _, isReadable_ofWord _, nodes,
    List.forall_mem_nil _⟩

/--
Model documents are read back.  The text of the document of an accepted model is read, under the
path of the model, as the same model: nothing that is left out or written in another form is lost.
Of the doubles among the literals it is assumed that their numerals read back.
-/
theorem readDocument_render_ofModel
    (explain : String → String)
    (path : SourcePath)
    (root : NodeId)
    (nodes : List Node)
    (lineCount : Option UInt32)
    (model : Model)
    (accepted : ingest path root nodes lineCount = .ok model)
    (finite :
      ∀ node ∈ model.nodes, ∀ value, node.literal = some (.float value) → value.isFinite = true)
    (readsBack :
      ∀ node ∈ model.nodes, ∀ value, node.literal = some (.float value) →
        value.isFinite = true →
          Json.read? (Json.render (.float value)) = some (.float value)) :
    Adapter.readDocument explain (Json.render (encode (ofModel model))) model.path =
      .parsed model := by
  have readable : (encode (ofModel model)).IsReadable :=
    isReadable_encode fun node member value isFloat =>
      readsBack node member value isFloat (finite node member value isFloat)
  have isRead : read? (Json.render (encode (ofModel model))) = some (ofModel model) := by
    rw [read?, readable.read?_render, Option.bind_some, decode?_encode]
  have same := eq_linked_of_ingest accepted
  have again : (ofModel model).toModel model.path = .ok model := by
    rw [same] at accepted ⊢
    exact accepted
  rw [Adapter.readDocument, isRead]
  dsimp only
  rw [again]

/-- A module that returns one half, under a comment. -/
def halvingModule : Model :=
  let lines (startLine endLine : UInt32) : Span :=
    { startLine, startCol := 1, endLine, endCol := 12 }
  .linked
    { path := { text := "halving.ir.json" }
      root := { index := 0 }
      lineCount := some 2
      nodes :=
        [{ id := { index := 0 }, kind := .module, span := lines 1 2, children := [{ index := 2 }] },
          { id := { index := 1 }, kind := .comment, span := lines 1 1, text := some "# one half" },
          { id := { index := 2 }, kind := .statement, span := lines 2 2, statement := some .return
            children := [{ index := 3 }], comments := [{ index := 1 }] },
          { id := { index := 3 }, kind := .literal, span := lines 2 2
            literal := some (.float 0.5) }] }

/-- The only numeral of the module is finite and reads back, and so does the document. -/
theorem readDocument_render_halvingModule :
    ingest halvingModule.path halvingModule.root halvingModule.nodes halvingModule.lineCount =
        .ok halvingModule ∧
      Json.read? (Json.render (.float 0.5)) = some (.float 0.5) ∧
      Adapter.readDocument Adapter.silent (Json.render (encode (ofModel halvingModule)))
          halvingModule.path =
        .parsed halvingModule := by
  have accepted :
      ingest halvingModule.path halvingModule.root halvingModule.nodes halvingModule.lineCount =
        .ok halvingModule := rfl
  have isHalf :
      ∀ node ∈ halvingModule.nodes, ∀ value,
        node.literal = some (.float value) → value = 0.5 := by
    simp [halvingModule]
  have readsBack : Json.read? (Json.render (.float 0.5)) = some (.float 0.5) := by
    have text : Json.render (.float 0.5) = "0.5" := by decide +kernel
    rw [text]
    rfl
  refine ⟨accepted, readsBack, ?_⟩
  apply readDocument_render_ofModel Adapter.silent halvingModule.path halvingModule.root
    halvingModule.nodes halvingModule.lineCount halvingModule accepted
  case finite =>
    intro node member value isFloat
    rw [isHalf node member value isFloat]
    decide +kernel
  case readsBack =>
    intro node member value isFloat _
    rw [isHalf node member value isFloat]
    exact readsBack

end StructuralLint.Model.Document
