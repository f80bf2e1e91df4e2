import Mathlib.Data.List.Basic
import StructuralLint.Text.EditDistance

/-!
# Rows of edit distances

The distance is computed row by row.  The row of a prefix of the left text holds its distances to
all prefixes of the right text, and each cell is the recurrence of the edit distance on the last
characters of both prefixes.  So prefixes are kept with their last characters first here.

The recurrence treats both texts alike, and the computed distance does not depend on their order.
-/

namespace StructuralLint.Text.EditDistance

/-- The edit distance between two prefixes, from their last characters to their first. -/
def recurrence : List Char → List Char → Nat
  | [], right => right.length
  | left, [] => left.length
  | character :: left, other :: right =>
      min (min (recurrence left (other :: right) + 1) (recurrence (character :: left) right + 1))
        (recurrence left right + if character == other then 0 else 1)
termination_by left right => left.length + right.length

theorem recurrence_nil_left (right : List Char) : recurrence [] right = right.length := by
  rw [recurrence]

theorem recurrence_nil_right (left : List Char) : recurrence left [] = left.length := by
  cases left with
  | nil => rw [recurrence]
  | cons character left =>
      rw [recurrence]
      exact fun noCharacter => List.cons_ne_nil character left noCharacter

theorem recurrence_cons (character other : Char) (left right : List Char) :
    recurrence (character :: left) (other :: right) =
      min (min (recurrence left (other :: right) + 1) (recurrence (character :: left) right + 1))
        (recurrence left right + if character == other then 0 else 1) := by
  rw [recurrence]

theorem recurrence_comm (left right : List Char) :
    recurrence left right = recurrence right left := by
  induction left, right using recurrence.induct with
  | case1 right => rw [recurrence_nil_left, recurrence_nil_right]
  | case2 left _ => rw [recurrence_nil_left, recurrence_nil_right]
  | case3 character left other right above before diagonal =>
      rw [recurrence_cons, recurrence_cons, above, before, diagonal, BEq.comm (a := character),
        Nat.min_comm (recurrence (other :: right) left + 1)]

/-! ## Rows -/

/-- The cells of the row of a prefix behind a prefix of the right text. -/
def cellsFrom (left : List Char) : List Char → List Char → List Nat
  | _, [] => []
  | seen, other :: rest => recurrence left (other :: seen) :: cellsFrom left (other :: seen) rest

/-- The row of a prefix. -/
def row (left right : List Char) : List Nat :=
  recurrence left [] :: cellsFrom left [] right

theorem cellsFrom_nil (seen rest : List Char) :
    cellsFrom [] seen rest = List.range' (seen.length + 1) rest.length := by
  induction rest generalizing seen with
  | nil => rfl
  | cons other rest induction =>
      rw [cellsFrom, induction, recurrence_nil_left, List.length_cons, List.length_cons,
        List.range'_succ]

theorem firstRow_eq (right : List Char) : firstRow right = row [] right := by
  rw [firstRow, row, cellsFrom_nil, recurrence_nil_left, List.range_eq_range', List.range'_succ]
  rfl

/-- The cells that are computed from the row above are those of the longer prefix. -/
theorem cells_eq (character : Char) (left seen rest : List Char) :
    cells character rest (recurrence left seen :: cellsFrom left seen rest)
        (recurrence (character :: left) seen) =
      cellsFrom (character :: left) seen rest := by
  induction rest generalizing seen with
  | nil => rfl
  | cons other rest induction =>
      rw [cellsFrom, cells, cellsFrom, ← recurrence_cons, induction]

theorem nextRow_row (character : Char) (left right : List Char) :
    nextRow right (row left right) character = row (character :: left) right := by
  have first : recurrence left [] + 1 = recurrence (character :: left) [] := by
    rw [recurrence_nil_right, recurrence_nil_right, List.length_cons]
  show (recurrence left [] + 1) :: cells character right (row left right) _ = _
  rw [first, row, cells_eq, row]

theorem foldl_nextRow (right left before : List Char) :
    left.foldl (nextRow right) (row before right) = row (left.reverse ++ before) right := by
  induction left generalizing before with
  | nil => rfl
  | cons character left induction =>
      rw [List.foldl_cons, nextRow_row, induction, List.reverse_cons, List.append_assoc]
      rfl

theorem getLast?_cellsFrom (left seen rest : List Char) :
    (recurrence left seen :: cellsFrom left seen rest).getLast? =
      some (recurrence left (rest.reverse ++ seen)) := by
  induction rest generalizing seen with
  | nil => rfl
  | cons other rest induction =>
      rw [cellsFrom, List.getLast?_cons_cons, induction, List.reverse_cons, List.append_assoc]
      rfl

/-- The last cell of the last row is the recurrence on the whole texts. -/
theorem ofChars_eq (left right : List Char) :
    ofChars left right = recurrence left.reverse right.reverse := by
  rw [ofChars, firstRow_eq, foldl_nextRow, row, getLast?_cellsFrom, List.append_nil,
    List.append_nil, Option.getD_some]

theorem ofChars_comm (left right : List Char) : ofChars left right = ofChars right left := by
  rw [ofChars_eq, ofChars_eq, recurrence_comm]

end EditDistance

/-- Which of two texts comes first does not matter. -/
theorem editDistance_comm (left right : String) :
    editDistance left right = editDistance right left :=
  EditDistance.ofChars_comm left.toList right.toList

end StructuralLint.Text
