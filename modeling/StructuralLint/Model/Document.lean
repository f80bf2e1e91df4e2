import StructuralLint.Json.Reader
import StructuralLint.Model.Ingest

/-!
# Model documents

The written form of a model: a JSON value with the line count, the root and the nodes. A record is
written as an object; it is read from an object, or from an array that gives its fields in order. A
kind is read from its name, or from an object that maps the name to null. Empty lists, absent values
and false flags are not written.
-/

namespace StructuralLint.Model

/-- The content of a model document. -/
structure Document where
  lineCount : Option UInt32
  root : NodeId
  nodes : List Node

namespace Document

/-- Field names of a document, in order. -/
def fieldNames : List String := ["lineCount", "root", "nodes"]

/-- Field names of a node, in order. -/
def nodeFieldNames : List String :=
  ["id", "kind", "span", "children", "comments", "name", "literal", "statement", "expression",
    "operator", "text", "attrs"]

/-- Field names of a span, in order. -/
def spanFieldNames : List String := ["startLine", "startCol", "endLine", "endCol"]

/-- Field names of attributes, in order. -/
def attributesFieldNames : List String :=
  ["typeName", "byReference", "isOverride", "isEnum", "bases", "returnType"]

/-! ## Reading -/

/-- The value of a field that occurs once; `some none` when it does not occur. -/
def only? (name : String) (fields : List (String × Json)) : Option (Option Json) :=
  match fields.filter (·.1 == name) with
  | [] => some none
  | [(_, value)] => some (some value)
  | _ => none

/--
The values of the named fields, in their order. Fields of other names are refused when the
record is strict, and ignored else.
-/
def record? (names : List String) (strict : Bool) : Json → Option (List (Option Json))
  | .object fields =>
      if strict && fields.any (fun field => !names.contains field.1) then none
      else names.mapM fun name => only? name fields
  | .array items =>
      if names.length < items.length then none
      else some (items.map some ++ List.replicate (names.length - items.length) none)
  | _ => none

/-- A number of 32 bits. -/
def word? : Json → Option UInt32
  | .int value =>
      if 0 ≤ value && value < Int.ofNat UInt32.size then some value.toNat.toUInt32 else none
  | _ => none

/-- An id. -/
def id? (value : Json) : Option NodeId :=
  (word? value).map NodeId.mk

/-- A list whose items are read one by one. -/
def list? {α : Type} (item? : Json → Option α) : Json → Option (List α)
  | .array items => items.mapM item?
  | _ => none

/-- A name from a closed list, or an object that maps it to null. -/
def name? {α : Type} (ofText? : String → Option α) : Json → Option α
  | .string text => ofText? text
  | .object [(text, .null)] => ofText? text
  | _ => none

/-- A field that has to be present. -/
def required? {α : Type} (read? : Json → Option α) (value : Option Json) : Option α :=
  value.bind read?

/-- A field that has a value of its own where it is absent. -/
def default? {α : Type} (default : α) (read? : Json → Option α) : Option Json → Option α
  | none => some default
  | some value => read? value

/-- A field that may be absent or null. -/
def optional? {α : Type} (read? : Json → Option α) : Option Json → Option (Option α)
  | none => some none
  | some .null => some none
  | some value => (read? value).map some

/-- The types of literals by name. -/
inductive LiteralType where
  | int
  | float
  | str
  | bool
  | null
deriving DecidableEq, Repr

/-- The type with a name. -/
def LiteralType.ofText? : String → Option LiteralType
  | "int" => some int
  | "float" => some float
  | "str" => some str
  | "bool" => some bool
  | "null" => some null
  | _ => none

/-- The value of a literal of a type; a null literal needs none. -/
def literalValue? : LiteralType → Option Json → Option Literal
  | .int, some (.int value) =>
      if Int64.minValue.toInt ≤ value && value ≤ Int64.maxValue.toInt then
        some (.int (Int64.ofInt value))
      else none
  | .float, some (.int value) => some (.float (Float.ofInt value))
  | .float, some (.float value) => some (.float value)
  | .str, some (.string text) => some (.str text)
  | .bool, some (.bool value) => some (.bool value)
  | .null, none => some .null
  | .null, some .null => some .null
  | _, _ => none

/-- A literal: an object with type and value, or an array of the two. -/
def literal? : Json → Option Literal
  | .object fields => do
    let type ← required? (name? LiteralType.ofText?) (← only? "type" fields)
    literalValue? type (← only? "value" fields)
  | .array [type, value] => do
    literalValue? (← name? LiteralType.ofText? type) (some value)
  | _ => none

/-- A span. -/
def span? (value : Json) : Option Span := do
  match ← record? spanFieldNames false value with
  | [startLine, startCol, endLine, endCol] =>
      return {
        startLine := ← required? word? startLine
        startCol := ← required? word? startCol
        endLine := ← required? word? endLine
        endCol := ← required? word? endCol }
  | _ => none

/-- Attributes. -/
def attributes? (value : Json) : Option Attributes := do
  match ← record? attributesFieldNames false value with
  | [typeName, byReference, isOverride, isEnum, bases, returnType] =>
      return {
        typeName := ← optional? Json.string? typeName
        byReference := ← default? false Json.bool? byReference
        isOverride := ← default? false Json.bool? isOverride
        isEnum := ← default? false Json.bool? isEnum
        bases := ← default? [] (list? Json.string?) bases
        returnType := ← optional? Json.string? returnType }
  | _ => none

/-- A node. -/
def node? (value : Json) : Option Node := do
  match ← record? nodeFieldNames false value with
  | [id, kind, span, children, comments, name, literal, statement, expression, operator, text,
      attributes] =>
    return {
      id := ← required? id? id
      kind := ← required? (name? NodeKind.ofText?) kind
      span := ← required? span? span
      children := ← default? [] (list? id?) children
      comments := ← default? [] (list? id?) comments
      name := ← optional? Json.string? name
      literal := ← optional? literal? literal
      statement := ← optional? (name? StatementKind.ofText?) statement
      expression := ← optional? (name? ExprKind.ofText?) expression
      operator := ← optional? Json.string? operator
      text := ← optional? Json.string? text
      attributes := ← default? {} attributes? attributes }
  | _ => none

/-- A document. -/
def decode? (value : Json) : Option Document := do
  match ← record? fieldNames true value with
  | [lineCount, root, nodes] =>
      return {
        lineCount := ← optional? word? lineCount
        root := ← required? id? root
        nodes := ← required? (list? node?) nodes }
  | _ => none

/-! ## Writing -/

/-- A number of 32 bits. -/
def ofWord (value : UInt32) : Json :=
  .int (Int.ofNat value.toNat)

/-- An id. -/
def ofId (id : NodeId) : Json :=
  ofWord id.index

/-- A field, written when it has a value. -/
def fieldOf {α : Type} (name : String) (write : α → Json) (value : Option α) :
    List (String × Json) :=
  value.toList.map fun value => (name, write value)

/-- A flag, written when it is set. -/
def flagOf (name : String) (value : Bool) : List (String × Json) :=
  if value then [(name, .bool true)] else []

/-- A list, written when it is not empty. -/
def listOf {α : Type} (name : String) (write : α → Json) (values : List α) :
    List (String × Json) :=
  if values.isEmpty then [] else [(name, .array (values.map write))]

/-- A literal. -/
def ofLiteral (literal : Literal) : Json :=
  match literal with
  | .int value => .object [("type", .string "int"), ("value", .int value.toInt)]
  | .float value => .object [("type", .string "float"), ("value", .float value)]
  | .str text => .object [("type", .string "str"), ("value", .string text)]
  | .bool value => .object [("type", .string "bool"), ("value", .bool value)]
  | .null => .object [("type", .string "null")]

/-- A span. -/
def ofSpan (span : Span) : Json :=
  .object [("startLine", ofWord span.startLine), ("startCol", ofWord span.startCol),
    ("endLine", ofWord span.endLine), ("endCol", ofWord span.endCol)]

/-- Attributes. -/
def ofAttributes (attributes : Attributes) : Json :=
  .object
    (fieldOf "typeName" .string attributes.typeName ++
      flagOf "byReference" attributes.byReference ++
      flagOf "isOverride" attributes.isOverride ++
      flagOf "isEnum" attributes.isEnum ++
      listOf "bases" .string attributes.bases ++
      fieldOf "returnType" .string attributes.returnType)

/-- A node. -/
def ofNode (node : Node) : Json :=
  .object
    ([("id", ofId node.id), ("kind", .string node.kind.text), ("span", ofSpan node.span)] ++
      listOf "children" ofId node.children ++
      listOf "comments" ofId node.comments ++
      fieldOf "name" .string node.name ++
      fieldOf "literal" ofLiteral node.literal ++
      fieldOf "statement" (fun kind => .string kind.text) node.statement ++
      fieldOf "expression" (fun kind => .string kind.text) node.expression ++
      fieldOf "operator" .string node.operator ++
      fieldOf "text" .string node.text ++
      [("attrs", ofAttributes node.attributes)])

/-- A document. -/
def encode (document : Document) : Json :=
  .object
    (fieldOf "lineCount" ofWord document.lineCount ++
      [("root", ofId document.root), ("nodes", .array (document.nodes.map ofNode))])

/-- The document of a model. -/
def ofModel (model : Model) : Document :=
  { lineCount := model.lineCount, root := model.root, nodes := model.nodes }

/-- The document of a JSON text. -/
def read? (text : String) : Option Document :=
  (Json.read? text).bind decode?

/-- The model of a document. -/
def toModel (document : Document) (path : SourcePath) : Except Defect Model :=
  ingest path document.root document.nodes document.lineCount

end Document

end StructuralLint.Model
