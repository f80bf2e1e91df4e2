import StructuralLint.Rule.Basic

/-!
# Methods with a hidden order

A method that always reads a field which only one other method sets has to be called after that
method, and nothing says so. The pair is left alone when some call of the reader passes on what the
writer returned.
-/

namespace StructuralLint.Rule

namespace TemporalCoupling

/-- Operators that evaluate their second operand on a condition. -/
def conditionalOperators : List String := ["&&", "||", "and", "or", "??"]

/-- Whether what lies inside a node may be skipped. -/
def isConditional (node : Node) : Bool :=
  node.isControl || node.isStatement .case || node.isStatement .tryCatch ||
    node.isExpression .lambda ||
    (node.isExpression .binary && node.operator.any conditionalOperators.contains)

/-- Whether a function is among the nodes around a node, with nothing conditional before it. -/
def reachesAlways (function : NodeId) : List Node → Bool
  | [] => false
  | ancestor :: rest =>
      ancestor.id == function || (!isConditional ancestor && reachesAlways function rest)

/-- Whether a node runs whenever a function runs. -/
def runsAlways (model : Model) (node function : NodeId) : Bool :=
  reachesAlways function (model.ancestors node)

/-- Whether a subtree calls a function. -/
def callsInto (context : Context) (root target : NodeId) : Bool :=
  (context.model.descendants root).any fun node =>
    node.isExpression .call &&
      context.symbols.calls.any fun call =>
        call.node == node.id && call.callee == .resolved target

/-- Whether a variable is declared or assigned with the result of a function. -/
def holdsResultOf (context : Context) (symbol : Symbols.Symbol) (target : NodeId) : Bool :=
  symbol.kind == .variable &&
    (callsInto context symbol.declaration target ||
      symbol.writes.any fun reference =>
        match context.model.parent? reference.node with
        | some parent =>
            parent.isStatement .assign &&
              (context.model.child? parent.id 1).any fun value => callsInto context value.id target
        | none => false)

/-- Whether an argument carries the result of a function, directly or through a variable. -/
def carriesResultOf (context : Context) (argument : Node) (target : NodeId) : Bool :=
  callsInto context argument.id target ||
    (context.model.descendants argument.id).any fun node =>
      match context.symbols.resolution? node.id with
      | some (.inScope symbol) =>
          (context.symbols.symbol? symbol).any fun symbol => holdsResultOf context symbol target
      | _ => false

/-- Whether some call of the reader passes on what the writer returned. -/
def isOrderExplicit (context : Context) (writer reader : NodeId) : Bool :=
  (context.symbols.callersOf reader).any fun call =>
    ((context.model.children call.node).drop 1).any fun argument =>
      carriesResultOf context argument writer

/-- Fields of a class that are declared with a value. -/
def initializedFields (model : Model) (owner : Node) : List String :=
  ((model.children owner.id).filter fun member =>
    member.isStatement .varDecl && !member.children.isEmpty).map (·.nameText)

/--
The uses of fields in methods of a class that count: no calls, and no fields with a value of
their own; each with its method.
-/
def relevantAccesses (context : Context) (owner : Node) : List (Node × Symbols.FieldAccess) :=
  let initialized := initializedFields context.model owner
  ((context.model.children owner.id).filter (·.kind == .function)).flatMap fun method =>
    ((context.symbols.fieldAccessesIn method.id).filter fun access =>
      !access.isCall && !initialized.contains access.field).map fun access => (method, access)

/-- Methods in order of their ids, each once. -/
def inIdOrder (methods : List Node) : List Node :=
  let ordered := methods.mergeSort fun left right => left.id.index ≤ right.id.index
  ordered.foldr
    (fun method rest =>
      if rest.head?.any (·.id == method.id) then rest else method :: rest) []

/-- The methods that write a field. -/
def writersOf (accesses : List (Node × Symbols.FieldAccess)) (field : String) : List Node :=
  inIdOrder ((accesses.filter fun (_, access) => access.field == field && access.isWrite).map (·.1))

/-- The methods that always read a field. -/
def readersOf (context : Context) (accesses : List (Node × Symbols.FieldAccess))
    (field : String) : List Node :=
  inIdOrder ((accesses.filter fun (method, access) =>
    access.field == field && !access.isWrite &&
      runsAlways context.model access.node method.id).map (·.1))

/-- A writer, a reader and a field that couples them. -/
structure Coupling where
  writer : Node
  reader : Node
  field : String

/-- The couplings of a class, in order of fields. -/
def couplings (context : Context) (owner : Node) : List Coupling :=
  let accesses := relevantAccesses context owner
  let written := (accesses.filter (·.2.isWrite)).map (·.2.field)
  let fields := written.eraseDups.mergeSort fun left right => Text.order left right != .gt
  fields.flatMap fun field =>
    match writersOf accesses field with
    | [writer] =>
        if isConstructor context.model writer then []
        else
          ((readersOf context accesses field).filter (·.id != writer.id)).map fun reader =>
            { writer, reader, field }
    | _ => []

/-- Pairs of a writer and a reader in order of their ids, each with the fields that couple it. -/
def pairs (couplings : List Coupling) : List (Node × Node × List String) :=
  let inOrder := couplings.mergeSort fun left right =>
    left.writer.id.index < right.writer.id.index ||
      (left.writer.id == right.writer.id && left.reader.id.index ≤ right.reader.id.index)
  inOrder.foldr
    (fun coupling rest =>
      match rest with
      | (writer, reader, fields) :: others =>
          if writer.id == coupling.writer.id && reader.id == coupling.reader.id then
            (writer, reader, coupling.field :: fields) :: others
          else (coupling.writer, coupling.reader, [coupling.field]) :: rest
      | [] => [(coupling.writer, coupling.reader, [coupling.field])])
    []

/-- The hidden orders of a class. -/
def findings (context : Context) (owner : Node) : List Violation :=
  if (context.model.children owner.id).countP (·.kind == .function) < 2 then []
  else
    (pairs (couplings context owner)).filterMap fun (writer, reader, fields) =>
      if isOrderExplicit context writer.id reader.id then none
      else
        some { context.violation "TemporalCoupling" .medium reader
            (quoted reader.nameText ++ " reads " ++ ", ".intercalate (fields.map quoted) ++
              " which only " ++ quoted writer.nameText ++
              " sets; make the order explicit, e.g. pass what " ++ quoted writer.nameText ++
              " produces") with
          related := [context.range writer] }

end TemporalCoupling

/-- Methods that must be called in an order that nothing enforces. -/
def temporalCoupling : Rule where
  id := "TemporalCoupling"
  description := "Detects methods that must be called in an order nothing enforces"
  category := .structural
  kinds := [.class]
  evaluate context node := .ok (TemporalCoupling.findings context node)

end StructuralLint.Rule
