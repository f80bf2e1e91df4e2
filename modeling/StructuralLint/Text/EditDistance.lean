/-!
# Edit distance

The least number of insertions, deletions and substitutions of single characters that turn one text
into another, computed row by row: the row of a prefix of the left text holds its distances to all
prefixes of the right text.
-/

namespace StructuralLint.Text.EditDistance

/--
The cells of a row after its first: `above` is the previous row from the cell up and to the
left, `left` the cell computed last.
-/
def cells (character : Char) : List Char → List Nat → Nat → List Nat
  | other :: rest, diagonal :: up :: above, left =>
      let substitution := diagonal + if character == other then 0 else 1
      let cell := min (min (up + 1) (left + 1)) substitution
      cell :: cells character rest (up :: above) cell
  | _, _, _ => []

/-- The row of a prefix that is one character longer than the prefix of `above`. -/
def nextRow (right : List Char) (above : List Nat) (character : Char) : List Nat :=
  match above with
  | [] => []
  | first :: _ => (first + 1) :: cells character right above (first + 1)

/-- The row of the empty prefix: a prefix is reached by inserting its characters. -/
def firstRow (right : List Char) : List Nat :=
  List.range (right.length + 1)

/-- The distance between two lists of characters: the last cell of the last row. -/
def ofChars (left right : List Char) : Nat :=
  ((left.foldl (nextRow right) (firstRow right)).getLast?).getD 0

end StructuralLint.Text.EditDistance

namespace StructuralLint.Text

/-- The edit distance between two texts. -/
def editDistance (left right : String) : Nat :=
  EditDistance.ofChars left.toList right.toList

end StructuralLint.Text
