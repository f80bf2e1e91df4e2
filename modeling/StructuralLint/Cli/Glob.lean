import StructuralLint.Text.Char

/-!
# Patterns for paths

A pattern fits a whole path, byte by byte. A star stands for any bytes of a name and a question mark
for one, brackets for one byte of a set, and braces for one of several patterns. Two stars that take
the place of a name stand for any number of names. A backslash takes away the meaning of the
character after it, and a bracket that is never closed has none.
-/

namespace StructuralLint.Cli

/-- A piece of a pattern. -/
inductive GlobPiece where
  | byte (value : UInt8)
  /-- One byte other than a slash. -/
  | anyByte
  /-- Any number of bytes other than slashes. -/
  | anyBytes
  /-- One byte of a set, or one outside of it. -/
  | oneOf (negated : Bool) (ranges : List (UInt8 × UInt8))
  /-- Any number of names with a slash after each, at the start. -/
  | leading
  /-- A slash, and any number of names with a slash after each. -/
  | between
  /-- A slash and all that follows it. -/
  | trailing
  /-- One of several patterns; of none, nothing. -/
  | choice (branches : List (List GlobPiece))

namespace Glob

/-- The slash between names. -/
def slash : UInt8 := 47

/-! ## Fitting -/

/-- A list and what is left of it after each of its members. -/
def suffixes {α : Type} : List α → List (List α)
  | [] => [[]]
  | first :: rest => (first :: rest) :: suffixes rest

/-- A path, and what is left of it after each of its slashes. -/
def names (path : List UInt8) : List (List UInt8) :=
  let rec afterSlashes : List UInt8 → List (List UInt8)
    | [] => []
    | byte :: rest =>
        if byte == slash then rest :: afterSlashes rest else afterSlashes rest
  path :: afterSlashes path

/-- A path, and what is left of it after each byte of its first name. -/
def withinName : List UInt8 → List (List UInt8)
  | [] => [[]]
  | byte :: rest => (byte :: rest) :: if byte == slash then [] else withinName rest

/-- The rest of a path after one byte that is accepted. -/
def afterByte (accepts : UInt8 → Bool) : List UInt8 → List (List UInt8)
  | [] => []
  | byte :: rest => if accepts byte then [rest] else []

mutual

/-- The rests of a path that a piece at its start can leave. -/
def pieceRests (path : List UInt8) : GlobPiece → List (List UInt8)
  | .byte value => afterByte (· == value) path
  | .anyByte => afterByte (· != slash) path
  | .anyBytes => withinName path
  | .oneOf negated ranges =>
      let holds (byte : UInt8) : Bool := ranges.any fun (low, high) => low ≤ byte && byte ≤ high
      afterByte (fun byte => holds byte != negated) path
  | .leading => names path
  | .between => (afterByte (· == slash) path).flatMap names
  | .trailing => (afterByte (· == slash) path).flatMap suffixes
  | .choice [] => [path]
  | .choice (branch :: branches) => branchRests path branch ++ choiceRests path branches

/-- The rests of a path that pieces at its start can leave. -/
def branchRests (path : List UInt8) : List GlobPiece → List (List UInt8)
  | [] => [path]
  | piece :: pieces =>
      ((pieceRests path piece).flatMap fun rest => branchRests rest pieces).eraseDups

/-- The rests of a path that one of several patterns at its start can leave. -/
def choiceRests (path : List UInt8) : List (List GlobPiece) → List (List UInt8)
  | [] => []
  | branch :: branches => branchRests path branch ++ choiceRests path branches

end

/-- Whether a pattern fits a path. Two stars alone fit every path. -/
def fits (pieces : List GlobPiece) (path : List UInt8) : Bool :=
  match pieces with
  | [.leading] => true
  | _ => (branchRests path pieces).contains []

/-! ## Reading -/

/-- The bytes of a character. -/
def bytesOf (character : Char) : List UInt8 :=
  (String.singleton character).toUTF8.toList

/--
The bytes that a range of characters stands for: between two characters, those from the last
byte of the one to the first of the other, and all other bytes of both.
-/
def byteRanges (low high : Char) : List (UInt8 × UInt8) :=
  let single (bytes : List UInt8) := bytes.map fun byte => (byte, byte)
  if low == high then single (bytesOf low)
  else
    let ends := (bytesOf low).getLast?.bind fun last =>
      (bytesOf high).head?.map fun first => (last, first)
    single (bytesOf low).dropLast ++ ends.toList ++ single ((bytesOf high).drop 1)

/-- What stands after an opening bracket. -/
inductive SetOutcome where
  /-- The characters of a set, and the number of characters up to its closing bracket. -/
  | closed (ranges : List (Char × Char)) (length : Nat)
  | unclosed
  /-- A range ends before it starts. -/
  | disordered

/--
Reads a set from its first character on; `ranges` are those read, the last one first, and
`isRange` says that a range waits for its end. A closing bracket or a dash that comes first stands
for itself, and so does a dash that comes last.
-/
def readSet (isFirst isRange : Bool) (ranges : List (Char × Char)) (length : Nat) :
    List Char → SetOutcome
  | [] => .unclosed
  | character :: rest =>
      let next (isRange : Bool) (ranges : List (Char × Char)) : SetOutcome :=
        readSet false isRange ranges (length + 1) rest
      if character == ']' && !isFirst then
        .closed (if isRange then ('-', '-') :: ranges else ranges) (length + 1)
      else if isRange then
        match ranges with
        | (low, _) :: others =>
            if character < low then .disordered else next false ((low, character) :: others)
        | [] => .disordered
      else if character == '-' && !isFirst then next true ranges
      else next false ((character, character) :: ranges)

/-- A set after its opening bracket: whether it is negated, and what stands there. -/
def readMarkedSet (characters : List Char) : Bool × SetOutcome :=
  match characters with
  | mark :: rest =>
      if mark == '!' || mark == '^' then (true, readSet true false [] 1 rest)
      else (false, readSet true false [] 0 characters)
  | [] => (false, .unclosed)

/-- A pattern that is partly read. -/
structure Draft where
  /-- The pieces of the innermost branch, the last one first. -/
  pieces : List GlobPiece := []
  /--
  The braces that are open, innermost first: the branches before the current one and the pieces
  before the brace, each with the last one first.
  -/
  groups : List (List (List GlobPiece) × List GlobPiece) := []
  /-- Brackets have no meaning any more. -/
  plainBrackets : Bool := false

namespace Draft

/-- Adds a piece. -/
def push (draft : Draft) (piece : GlobPiece) : Draft :=
  { draft with pieces := piece :: draft.pieces }

/-- Adds a character that stands for itself. -/
def pushChar (draft : Draft) (character : Char) : Draft :=
  (bytesOf character).foldl (fun draft byte => draft.push (.byte byte)) draft

/-- Whether a branch stands for nothing at all. -/
def isBlank (branch : List GlobPiece) : Bool :=
  branch.all fun piece => piece matches .choice []

/-- Closes the innermost brace. Branches that stand for nothing do not count. -/
def close? (draft : Draft) : Option Draft :=
  match draft.groups with
  | [] => none
  | (branches, before) :: outer =>
      let complete := ((draft.pieces :: branches).reverse.map List.reverse).filter (!isBlank ·)
      some { draft with pieces := .choice complete :: before, groups := outer }

/-- Starts a further branch of the innermost brace; outside of braces a comma stands for itself. -/
def comma (draft : Draft) : Draft :=
  match draft.groups with
  | [] => draft.pushChar ','
  | (branches, before) :: outer =>
      { draft with pieces := [], groups := (draft.pieces :: branches, before) :: outer }

/--
Puts a piece for any number of names in the place of the slash before it; such a piece at the
start takes in a further one.
-/
def joinNames (draft : Draft) (piece : GlobPiece) : Draft :=
  match draft.pieces with
  | .leading :: _ => draft
  | .trailing :: _ => draft
  | _ :: before => { draft with pieces := piece :: before }
  | [] => draft

/--
Takes in two stars before the text `rest`; `previous` is the character before them. They stand
for names where they take the place of one. The number tells how many characters after the first
star were taken in.
-/
def stars (draft : Draft) (previous : Option Char) (rest : List Char) : Draft × Nat :=
  let plain := ((draft.push .anyBytes).push .anyBytes, 1)
  let isInner := !draft.groups.isEmpty
  if draft.pieces.isEmpty then
    match rest with
    | [] => (draft.push .leading, 1)
    | '/' :: _ => (draft.push .leading, 2)
    | _ => plain
  else if previous == some '/' ||
      (isInner && (previous == some ',' || previous == some '\x7b')) then
    match rest with
    | [] => (draft.joinNames .trailing, 1)
    | '/' :: _ => (draft.joinNames .between, 2)
    | character :: _ =>
        if isInner && (character == ',' || character == '\x7d') then (draft.joinNames .trailing, 1)
        else plain
  else plain

/--
Takes in a character before the text `rest`; the number tells how many characters of `rest` were
taken in with it.
-/
def step? (draft : Draft) (previous : Option Char) (character : Char) (rest : List Char) :
    Option (Draft × Nat) :=
  match character with
  | '?' => some (draft.push .anyByte, 0)
  | '*' =>
      match rest with
      | '*' :: more => some (draft.stars previous more)
      | _ => some (draft.push .anyBytes, 0)
  | '[' =>
      if draft.plainBrackets then some (draft.pushChar '[', 0)
      else
        match readMarkedSet rest with
        | (negated, .closed ranges length) =>
            let bytes := ranges.flatMap fun (low, high) => byteRanges low high
            some (draft.push (.oneOf negated bytes), length)
        | (_, .unclosed) => some ({ draft.pushChar '[' with plainBrackets := true }, 0)
        | (_, .disordered) => none
  | '\x7b' => some ({ draft with pieces := [], groups := ([], draft.pieces) :: draft.groups }, 0)
  | '\x7d' => draft.close?.map (·, 0)
  | ',' => some (draft.comma, 0)
  | '\\' =>
      match rest with
      | escaped :: _ => some (draft.pushChar escaped, 1)
      | [] => none
  | _ => some (draft.pushChar character, 0)

end Draft

/-- Reads on; the next `skip` characters were taken in already. -/
def readFrom? (skip : Nat) (previous : Option Char) (draft : Draft) :
    List Char → Option (List GlobPiece)
  | [] => if draft.groups.isEmpty then some draft.pieces.reverse else none
  | character :: rest =>
      match skip with
      | skip + 1 => readFrom? skip (some character) draft rest
      | 0 =>
          match draft.step? previous character rest with
          | some (draft, skip) => readFrom? skip (some character) draft rest
          | none => none

/-- The pieces of a pattern, unless it is malformed. -/
def read? (characters : List Char) : Option (List GlobPiece) :=
  readFrom? 0 none {} characters

end Glob

end StructuralLint.Cli
