import Mathlib
import StructuralLint.Text.Char

/-!
# Letters, digits and blanks

The classes of characters are decided by short rules on ASCII, so what letters and digits of ASCII
are is read off these rules, for all of them at once.  Blanks reach beyond ASCII, but they are few:
none of them continues a word.

Text that begins and ends with other characters is what is left of it when blanks around it are
trimmed.
-/

namespace StructuralLint.Text

/-! ## Letters and digits of ASCII -/

theorem toNat_lt_of_isAlphanum {character : Char} (plain : character.isAlphanum = true) :
    character.toNat < 128 := by
  simp only [Char.isAlphanum, Char.isAlpha, Char.isUpper, Char.isLower, Char.isDigit,
    Bool.or_eq_true, Bool.and_eq_true, decide_eq_true_eq, UInt32.le_iff_toNat_le, ge_iff_le]
    at plain
  have lastCapital : 'Z'.val.toNat = 90 := rfl
  have lastSmall : 'z'.val.toNat = 122 := rfl
  have lastDigit : '9'.val.toNat = 57 := rfl
  show character.val.toNat < 128
  omega

/-- What holds of the letters and digits among the first 128 characters holds of all of them. -/
theorem of_isAlphanum (Holds : Char → Prop)
    (listed : ∀ point < 128, (Char.ofNat point).isAlphanum = true → Holds (Char.ofNat point))
    {character : Char} (plain : character.isAlphanum = true) : Holds character := by
  have same : Char.ofNat character.toNat = character := Char.ofNat_toNat character
  rw [← same] at plain ⊢
  exact listed character.toNat (toNat_lt_of_isAlphanum (same ▸ plain)) plain

theorem isBlank_eq_false {character : Char} (plain : character.isAlphanum = true) :
    isBlank character = false :=
  of_isAlphanum (fun character => isBlank character = false) (by decide) plain

theorem isWordChar_of_isAlphanum {character : Char} (plain : character.isAlphanum = true) :
    isWordChar character = true :=
  of_isAlphanum (fun character => isWordChar character = true) (by decide) plain

/-- Only letters have a small form other than themselves, and it is a letter. -/
theorem eq_of_toLower_eq {character small : Char} (lowered : character.toLower = small)
    (noLetter : small.isAlpha = false) : character = small := by
  by_cases isCapital : character.isUpper = true
  · have plain : character.isAlphanum = true := by
      rw [Char.isAlphanum, Char.isAlpha, isCapital, Bool.true_or, Bool.true_or]
    have isLetter : character.toLower.isAlpha = true :=
      of_isAlphanum (fun letter => letter.isUpper = true → letter.toLower.isAlpha = true)
        (by decide) plain isCapital
    rw [lowered, noLetter] at isLetter
    cases isLetter
  · rw [Char.isUpper, decide_eq_true_eq] at isCapital
    rwa [Char.toLower, dif_neg isCapital] at lowered

/-! ## Blanks -/

/-- The code points of the blanks. -/
def blankPoints : List Nat :=
  [9, 10, 11, 12, 13, 32, 0x85, 0xA0, 0x1680] ++ List.range' 0x2000 11 ++
    [0x2028, 0x2029, 0x202F, 0x205F, 0x3000]

theorem toNat_mem_blankPoints {character : Char} (blank : isBlank character = true) :
    character.toNat ∈ blankPoints := by
  simp only [isBlank, Bool.or_eq_true, Bool.and_eq_true, decide_eq_true_eq, beq_iff_eq] at blank
  simp only [blankPoints, List.mem_append, List.mem_cons, List.not_mem_nil, or_false,
    List.mem_range'_1]
  omega

/-- No blank continues a word. -/
theorem isWordChar_eq_false {character : Char} (blank : isBlank character = true) :
    isWordChar character = false := by
  have listed : ∀ point ∈ blankPoints, isWordChar (Char.ofNat point) = false := by
    decide +kernel
  rw [← Char.ofNat_toNat character]
  exact listed character.toNat (toNat_mem_blankPoints blank)

/-- A text of blanks, which may be empty. -/
def IsBlankText (text : String) : Prop :=
  ∀ character ∈ text.toList, isBlank character = true

instance (text : String) : Decidable (IsBlankText text) :=
  List.decidableBAll (fun character => isBlank character = true) text.toList

/-- Blanks are skipped up to the first other character. -/
theorem dropWhile_isBlank_append {blanks rest : List Char}
    (blank : ∀ character ∈ blanks, isBlank character = true)
    (solid : ∀ character ∈ rest.head?, isBlank character = false) :
    (blanks ++ rest).dropWhile isBlank = rest := by
  rw [List.dropWhile_append_of_pos blank]
  cases rest with
  | nil => rfl
  | cons character rest =>
      exact List.dropWhile_cons_of_neg (Bool.not_eq_true _ ▸ solid character rfl)

/-- Trimming takes away the blanks around a text without blanks, and no more. -/
theorem trimChars_append {before text after : List Char}
    (blankBefore : ∀ character ∈ before, isBlank character = true)
    (nonempty : text ≠ [])
    (solid : ∀ character ∈ text, isBlank character = false)
    (blankAfter : ∀ character ∈ after, isBlank character = true) :
    trimChars (before ++ text ++ after) = text := by
  have started : trimStart (before ++ text ++ after) = text ++ after := by
    rw [trimStart, List.append_assoc]
    refine dropWhile_isBlank_append blankBefore ?_
    rw [List.head?_append_of_ne_nil _ nonempty]
    exact fun character isFirst => solid character (List.mem_of_head? isFirst)
  have ended : (after.reverse ++ text.reverse).dropWhile isBlank = text.reverse := by
    refine dropWhile_isBlank_append ?_ ?_
    · exact fun character member => blankAfter character (List.mem_reverse.mp member)
    · intro character isFirst
      exact solid character (List.mem_reverse.mp (List.mem_of_head? isFirst))
  rw [trimChars, started, trimEnd, List.reverse_append, ended, List.reverse_reverse]

end StructuralLint.Text
