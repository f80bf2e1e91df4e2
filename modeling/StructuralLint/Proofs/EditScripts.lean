import Mathlib.Order.Bounds.Basic
import Mathlib.Order.MinMax
import StructuralLint.Proofs.EditRows

/-!
# Edits of a text

An edit inserts, deletes or substitutes one character.  The edit distance between two texts is the
least number of edits that turn one into the other.

That so many edits are enough follows the recurrence of the distance: each of its alternatives is
one edit in front, or none, and then edits behind.  That fewer are not enough holds since one edit,
wherever it is made, changes the recurrence by at most one.  The recurrence reads texts from their
ends, so both facts are carried over to the texts themselves by reversing every edit.
-/

namespace StructuralLint.Text.EditDistance

/-- One edit of a text. -/
inductive Edit : List Char → List Char → Prop where
  | insertion (before after : List Char) (character : Char) :
      Edit (before ++ after) (before ++ character :: after)
  | deletion (before after : List Char) (character : Char) :
      Edit (before ++ character :: after) (before ++ after)
  | substitution (before after : List Char) (character other : Char) :
      Edit (before ++ character :: after) (before ++ other :: after)

/-- A number of edits, one after the other, that turn one text into another. -/
inductive Edits : Nat → List Char → List Char → Prop where
  | none (text : List Char) : Edits 0 text text
  | first {count : Nat} {left middle right : List Char} (edit : Edit left middle)
      (more : Edits count middle right) : Edits (count + 1) left right

theorem Edit.cons {left right : List Char} (edit : Edit left right) (character : Char) :
    Edit (character :: left) (character :: right) := by
  cases edit with
  | insertion before after inserted => exact .insertion (character :: before) after inserted
  | deletion before after deleted => exact .deletion (character :: before) after deleted
  | substitution before after old new => exact .substitution (character :: before) after old new

theorem Edit.reverse {left right : List Char} (edit : Edit left right) :
    Edit left.reverse right.reverse := by
  cases edit with
  | insertion before after character =>
      rw [List.reverse_append, List.reverse_append, List.reverse_cons, List.append_assoc]
      exact .insertion after.reverse before.reverse character
  | deletion before after character =>
      rw [List.reverse_append, List.reverse_append, List.reverse_cons, List.append_assoc]
      exact .deletion after.reverse before.reverse character
  | substitution before after character other =>
      rw [List.reverse_append, List.reverse_append, List.reverse_cons, List.reverse_cons,
        List.append_assoc, List.append_assoc]
      exact .substitution after.reverse before.reverse character other

namespace Edits

theorem cons {count : Nat} {left right : List Char} (edits : Edits count left right)
    (character : Char) : Edits count (character :: left) (character :: right) := by
  induction edits with
  | none text => exact .none (character :: text)
  | first edit _ induction => exact .first (edit.cons character) induction

theorem reverse {count : Nat} {left right : List Char} (edits : Edits count left right) :
    Edits count left.reverse right.reverse := by
  induction edits with
  | none text => exact .none text.reverse
  | first edit _ induction => exact .first edit.reverse induction

theorem reverse_iff {count : Nat} {left right : List Char} :
    Edits count left.reverse right.reverse ↔ Edits count left right := by
  constructor
  · intro edits
    simpa only [List.reverse_reverse] using edits.reverse
  · exact reverse

theorem trans {count further : Nat} {left middle right : List Char}
    (edits : Edits count left middle) (more : Edits further middle right) :
    Edits (count + further) left right := by
  induction edits with
  | none _ => simpa only [Nat.zero_add] using more
  | first edit _ induction =>
      rw [Nat.add_right_comm]
      exact .first edit (induction more)

theorem zero_iff {left right : List Char} : Edits 0 left right ↔ left = right := by
  constructor
  · rintro ⟨_⟩
    rfl
  · rintro rfl
    exact .none left

/-! ## Edits are enough -/

theorem delete {count : Nat} {left right : List Char} (edits : Edits count left right)
    (character : Char) : Edits (count + 1) (character :: left) right :=
  .first (.deletion [] left character) edits

theorem insert {count : Nat} {left right : List Char} (edits : Edits count left right)
    (character : Char) : Edits (count + 1) left (character :: right) :=
  .first (.insertion [] left character) (edits.cons character)

theorem substitute {count : Nat} {left right : List Char} (edits : Edits count left right)
    (character other : Char) :
    Edits (count + if character == other then 0 else 1) (character :: left) (other :: right) := by
  split
  · next same =>
      rw [beq_iff_eq.mp same]
      exact edits.cons other
  · exact .first (.substitution [] left character other) (edits.cons other)

theorem insertAll (right : List Char) : Edits right.length [] right := by
  induction right with
  | nil => exact .none []
  | cons character right induction => exact induction.insert character

theorem deleteAll (left : List Char) : Edits left.length left [] := by
  induction left with
  | nil => exact .none []
  | cons character left induction => exact induction.delete character

theorem fewer {count further : Nat} {left right : List Char} (edits : Edits count left right)
    (others : Edits further left right) : Edits (min count further) left right := by
  rcases min_choice count further with chosen | chosen
  · rw [chosen]
    exact edits
  · rw [chosen]
    exact others

/-- The recurrence counts edits that turn one text into the other. -/
theorem of_recurrence (left right : List Char) : Edits (recurrence left right) left right := by
  induction left, right using recurrence.induct with
  | case1 right =>
      rw [recurrence_nil_left]
      exact insertAll right
  | case2 left _ =>
      rw [recurrence_nil_right]
      exact deleteAll left
  | case3 character left other right deleted inserted substituted =>
      rw [recurrence_cons]
      exact ((deleted.delete character).fewer (inserted.insert other)).fewer
        (substituted.substitute character other)

end Edits

/-! ## Fewer edits are not enough -/

theorem recurrence_cons_le (character : Char) (left right : List Char) :
    recurrence (character :: left) right ≤ recurrence left right + 1 := by
  cases right with
  | nil =>
      rw [recurrence_nil_right, recurrence_nil_right]
      exact Nat.le_refl _
  | cons other right =>
      rw [recurrence_cons]
      omega

theorem recurrence_cons_le_right (other : Char) (left right : List Char) :
    recurrence left (other :: right) ≤ recurrence left right + 1 := by
  rw [recurrence_comm left, recurrence_comm left]
  exact recurrence_cons_le other right left

theorem recurrence_le_cons (character : Char) (left right : List Char) :
    recurrence left right ≤ recurrence (character :: left) right + 1 := by
  induction right with
  | nil =>
      rw [recurrence_nil_right, recurrence_nil_right, List.length_cons]
      omega
  | cons other right induction =>
      have longer := recurrence_cons_le_right other left right
      rw [recurrence_cons]
      omega

theorem recurrence_cons_le_cons (character other : Char) (left right : List Char) :
    recurrence (character :: left) right ≤ recurrence (other :: left) right + 1 := by
  induction right with
  | nil =>
      rw [recurrence_nil_right, recurrence_nil_right, List.length_cons, List.length_cons]
      exact Nat.le_succ _
  | cons third right induction =>
      rw [recurrence_cons, recurrence_cons]
      split <;> omega

/-- What is close stays close behind the same character. -/
theorem recurrence_cons_mono {left middle : List Char}
    (close : ∀ right, recurrence left right ≤ recurrence middle right + 1) (character : Char)
    (right : List Char) :
    recurrence (character :: left) right ≤ recurrence (character :: middle) right + 1 := by
  induction right with
  | nil =>
      have atEnd := close []
      rw [recurrence_nil_right, recurrence_nil_right] at atEnd ⊢
      exact Nat.succ_le_succ atEnd
  | cons other right induction =>
      have deleted := close (other :: right)
      have substituted := close right
      rw [recurrence_cons, recurrence_cons]
      omega

theorem recurrence_append_mono {left middle : List Char}
    (close : ∀ right, recurrence left right ≤ recurrence middle right + 1)
    (before right : List Char) :
    recurrence (before ++ left) right ≤ recurrence (before ++ middle) right + 1 := by
  induction before generalizing right with
  | nil => exact close right
  | cons character before induction => exact recurrence_cons_mono induction character right

/-- One edit changes the recurrence by at most one. -/
theorem Edit.recurrence_le {left middle : List Char} (edit : Edit left middle)
    (right : List Char) : recurrence left right ≤ recurrence middle right + 1 := by
  cases edit with
  | insertion before after character =>
      exact recurrence_append_mono (recurrence_le_cons character after) before right
  | deletion before after character =>
      exact recurrence_append_mono (recurrence_cons_le character after) before right
  | substitution before after character other =>
      exact recurrence_append_mono (recurrence_cons_le_cons character other after) before right

theorem recurrence_self (text : List Char) : recurrence text text = 0 := by
  induction text with
  | nil => rw [recurrence_nil_left, List.length_nil]
  | cons character text induction =>
      rw [recurrence_cons, induction, BEq.rfl, if_pos rfl]
      exact Nat.min_zero _

theorem Edits.recurrence_le {count : Nat} {left right : List Char}
    (edits : Edits count left right) : recurrence left right ≤ count := by
  induction edits with
  | none text => exact (recurrence_self text).le
  | first edit _ induction =>
      exact Nat.le_trans (edit.recurrence_le _) (Nat.succ_le_succ induction)

theorem isLeast_ofChars (left right : List Char) :
    IsLeast {count | Edits count left right} (ofChars left right) := by
  rw [ofChars_eq]
  constructor
  · exact Edits.reverse_iff.mp (Edits.of_recurrence left.reverse right.reverse)
  · intro count edits
    exact edits.reverse.recurrence_le

theorem ofChars_eq_zero_iff (left right : List Char) : ofChars left right = 0 ↔ left = right := by
  constructor
  · intro noEdit
    have edits : Edits (ofChars left right) left right := (isLeast_ofChars left right).1
    rw [noEdit] at edits
    exact Edits.zero_iff.mp edits
  · rintro rfl
    rw [ofChars_eq, recurrence_self]

theorem ofChars_triangle (left middle right : List Char) :
    ofChars left right ≤ ofChars left middle + ofChars middle right :=
  (isLeast_ofChars left right).2
    ((isLeast_ofChars left middle).1.trans (isLeast_ofChars middle right).1)

end EditDistance

open EditDistance in
/--
The distance between two texts is the least number of edits that turn one into the other.  So
it is zero exactly between equal texts, it is symmetric, and a detour is never shorter.
-/
theorem editDistance_isLeast_edits (left middle right : String) :
    IsLeast {count | Edits count left.toList right.toList} (editDistance left right) ∧
      (editDistance left right = 0 ↔ left = right) ∧
      editDistance left right = editDistance right left ∧
      editDistance left right ≤ editDistance left middle + editDistance middle right := by
  refine ⟨isLeast_ofChars _ _, ?_, editDistance_comm left right, ofChars_triangle _ _ _⟩
  exact (ofChars_eq_zero_iff _ _).trans String.toList_inj

/-- Two substitutions and an insertion. -/
example : editDistance "kitten" "sitting" = 3 := by
  decide

end StructuralLint.Text
