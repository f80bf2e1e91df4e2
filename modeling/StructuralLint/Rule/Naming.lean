import StructuralLint.Rule.Basic

/-!
# Names that say too little or too much

Declarations whose names are too short, and declarations whose names encode a type or a scope.
-/

namespace StructuralLint.Rule

/-- The kinds of nodes that can declare a name. -/
def namedKinds : List NodeKind := [.function, .class, .parameter, .statement]

/-- The name that a node declares. -/
def declaredName? (node : Node) : Option String := do
  guard ([NodeKind.function, .class, .parameter].contains node.kind || node.isStatement .varDecl ||
    node.isStatement .constDecl)
  let name ← node.name
  guard (name != "")
  return name

/--
Whether the scope of a declaration is so small that a short name is enough: parameters of
lambdas and variables of loops and handlers.
-/
def allowsShortName (model : Model) (node : Node) : Bool :=
  (model.parent? node.id).any fun parent =>
    match node.kind with
    | .parameter => parent.isExpression .lambda
    | .statement => parent.isStatement .forLoop || parent.isStatement .tryCatch
    | _ => false

/-- A name without underscores at its ends. -/
def bareName (name : String) : List Char :=
  ((name.toList.dropWhile (· == '_')).reverse.dropWhile (· == '_')).reverse

/-- The least number of characters of a name. -/
def minShortNameLength : Threshold := .count "minNameLength" 2

/-- Names that are too short. -/
def shortName : Rule where
  id := "ShortName"
  description := "Detects names too short to reveal intent"
  category := .naming
  severity := .low
  kinds := namedKinds
  thresholds := [minShortNameLength]
  evaluate context node :=
    .ok (match declaredName? node with
      | none => []
      | some name =>
          let bare := bareName name
          if bare.isEmpty || allowsShortName context.model node ||
              context.count minShortNameLength ≤ bare.length then []
          else
            [context.violation "ShortName" .low node
              ("Name " ++ quoted name ++
                " is too short to say what it holds; use a descriptive name")])

/-- Whether a text starts with a capital and a small letter of ASCII. -/
def startsCapitalized : List Char → Bool
  | first :: second :: _ => first.isUpper && second.isLower
  | _ => false

/-- Type names that are put before names of variables. -/
def typePrefixes : List String :=
  ["str", "sz", "psz", "lpsz", "lp", "dw", "arr", "obj", "bln", "b", "n", "f", "c"]

/-- Whether a name starts with a letter for its scope and an underscore. -/
def hasScopePrefix : List Char → Bool
  | scope :: '_' :: letter :: _ => ['m', 's', 'g'].contains scope && letter.isAlpha
  | _ => false

/-- Whether a name starts with a short type name. -/
def hasTypePrefix (name : List Char) : Bool :=
  typePrefixes.any fun start =>
    start.toList.isPrefixOf name && startsCapitalized (name.drop start.length)

/-- Whether the name of a class starts with a letter for what it is. -/
def hasClassPrefix : List Char → Bool
  | mark :: rest => (mark == 'I' || mark == 'C') && startsCapitalized rest
  | [] => false

/-- Names that encode a type or a scope. -/
def encodedName : Rule where
  id := "EncodedName"
  description := "Detects type or scope information encoded in names"
  category := .naming
  severity := .low
  kinds := namedKinds
  evaluate context node :=
    .ok (match declaredName? node with
      | none => []
      | some name =>
          let encodes :=
            if node.kind == .class then hasClassPrefix name.toList
            else hasScopePrefix name.toList || hasTypePrefix name.toList
          if encodes then
            [context.violation "EncodedName" .low node
              ("Name " ++ quoted name ++ " encodes its type or scope; drop the prefix")]
          else [])

end StructuralLint.Rule
