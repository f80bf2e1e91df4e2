import Mathlib.Data.List.TakeWhile
import StructuralLint.Json.Printer
import StructuralLint.Json.Reader

/-!
# Strings and numerals of JSON read back

Every character of a string is written so that one piece is read for it, and the pieces denote the
characters again.  The digits of an integer denote the number they were made from.  A numeral does
not see what stands behind it, as long as that does not go on with it.
-/

namespace StructuralLint.Json

open Printer Reader

/-! ## Strings -/

namespace Reader

/-- The piece that a character is read as: most control characters are written as units. -/
def pieceOf (character : Char) : Piece :=
  if character.toNat < 32 ∧ character.toNat ∉ [8, 9, 10, 12, 13] then .unit character.toNat
  else .char character

theorem hexUnit?_hexDigit :
    ∀ value < 32,
      hexUnit? '0' '0' (hexDigit (value / 16)) (hexDigit (value % 16)) = some value := by
  decide

theorem pieces?_unit {a b c d : Char} {unit : Nat} (isUnit : hexUnit? a b c d = some unit)
    (read : List Piece) (rest : List Char) :
    pieces? read ('\\' :: 'u' :: a :: b :: c :: d :: rest) = pieces? (.unit unit :: read) rest := by
  rw [pieces?, isUnit]

theorem pieces?_plain {character : Char}
    (printable : 32 ≤ character.toNat)
    (noQuote : character ≠ '"')
    (noBackslash : character ≠ '\\')
    (read : List Piece) (rest : List Char) :
    pieces? read (character :: rest) = pieces? (.char character :: read) rest := by
  rw [pieces?]
  · have notControl : ¬ character.toNat < 32 := by omega
    simp [notControl, noBackslash]
  · exact noQuote
  · intro a b c d rest isBackslash
    exact absurd isBackslash noBackslash
  · intro escape rest isBackslash
    exact absurd isBackslash noBackslash

/-- The characters that a character is written as are read as one piece. -/
theorem pieces?_escape (read : List Piece) (character : Char) (rest : List Char) :
    pieces? read (escape character ++ rest) = pieces? (pieceOf character :: read) rest := by
  rw [escape.eq_def]
  split
  · rfl
  · rfl
  · rfl
  · rfl
  · rfl
  next noQuote noBackslash noNewline noReturn noTab =>
    have isOf (code : Nat) (equal : character.toNat = code) : character = Char.ofNat code := by
      rw [← equal, Char.ofNat_toNat]
    by_cases back : character.toNat = 8
    · rw [isOf 8 back]
      rfl
    by_cases feed : character.toNat = 12
    · rw [isOf 12 feed]
      rfl
    by_cases control : character.toNat < 32
    · have isUnit : pieceOf character = .unit character.toNat := by
        rw [pieceOf, if_pos]
        have noTab : character.toNat ≠ 9 := fun equal => noTab (isOf 9 equal)
        have noNewline : character.toNat ≠ 10 := fun equal => noNewline (isOf 10 equal)
        have noReturn : character.toNat ≠ 13 := fun equal => noReturn (isOf 13 equal)
        simp [control, back, feed, noTab, noNewline, noReturn]
      rw [isUnit, ← pieces?_unit (hexUnit?_hexDigit _ control)]
      simp [back, feed, control]
    · have isChar : pieceOf character = .char character := by
        simp [pieceOf, control]
      rw [isChar, ← pieces?_plain (by omega) noQuote noBackslash]
      simp [back, feed, control]

theorem pieces?_flatMap_escape (read : List Piece) (characters rest : List Char) :
    pieces? read (characters.flatMap escape ++ '"' :: rest) =
      some (read.reverse ++ characters.map pieceOf, rest) := by
  induction characters generalizing read with
  | nil => simp [pieces?]
  | cons character others induction =>
      rw [List.flatMap_cons, List.append_assoc, pieces?_escape, induction]
      simp

theorem characters?_unit (read : List Char) {unit : Nat} (noSurrogate : unit < 0xD800)
    (rest : List Piece) :
    characters? read (.unit unit :: rest) = characters? (Char.ofNat unit :: read) rest := by
  rw [characters?.eq_def read (.unit unit :: rest)]
  simp [noSurrogate]

theorem characters?_pieces (read characters : List Char) :
    characters? read (characters.map pieceOf) = some (read.reverse ++ characters) := by
  induction characters generalizing read with
  | nil => simp [characters?]
  | cons character others induction =>
      rw [List.map_cons, pieceOf]
      split
      next control =>
        have noSurrogate : character.toNat < 0xD800 := by omega
        rw [characters?_unit _ noSurrogate, Char.ofNat_toNat, induction]
        simp
      next =>
        rw [characters?, induction]
        simp

/-- A text is read back from its string. -/
theorem string?_string (text : String) (rest : List Char) :
    string? (text.toList.flatMap escape ++ '"' :: rest) = some (some text, rest) := by
  rw [string?, pieces?_flatMap_escape]
  simp [characters?_pieces]

/-! ## Numerals -/

/-- What stands behind a numeral does not go on with it. -/
def EndsNumeral (rest : List Char) : Prop :=
  ∀ character ∈ rest.head?,
    character.isDigit = false ∧ character ≠ '.' ∧ character ≠ 'e' ∧ character ≠ 'E'

theorem fraction?_of_point (characters : List Char) :
    fraction? ('.' :: characters) =
      if (digits characters).1 = [] then none
      else some (some (digits characters).1, (digits characters).2) := by
  rw [fraction?]
  rcases digits characters with ⟨_ | _, _⟩ <;> rfl

theorem fraction?_of_no_point {characters : List Char} (noPoint : characters.head? ≠ some '.') :
    fraction? characters = some (none, characters) := by
  rw [fraction?]
  rintro rest rfl
  exact noPoint rfl

/-- The sign of an exponent, and what stands behind it. -/
def exponentSign : List Char → Bool × List Char
  | '-' :: rest => (true, rest)
  | '+' :: rest => (false, rest)
  | rest => (false, rest)

theorem exponentSign_append {characters : List Char} (some : characters ≠ []) (rest : List Char) :
    exponentSign (characters ++ rest) =
      ((exponentSign characters).1, (exponentSign characters).2 ++ rest) := by
  cases characters with
  | nil => exact absurd rfl some
  | cons character others =>
      rw [List.cons_append, exponentSign.eq_def, exponentSign.eq_def (character :: others)]
      split <;> simp_all

theorem exponent?_of_mark {mark : Char} (isMark : mark = 'e' ∨ mark = 'E')
    (characters : List Char) :
    exponent? (mark :: characters) =
      if (digits (exponentSign characters).2).1 = [] then none
      else
        some (some ((exponentSign characters).1, (digits (exponentSign characters).2).1),
          (digits (exponentSign characters).2).2) := by
  rcases isMark with rfl | rfl
  all_goals
    rw [exponentSign.eq_def]
    split
    next others =>
      simp only [exponent?]
      rcases digits others with ⟨_ | _, _⟩ <;> rfl
    next others =>
      simp only [exponent?]
      rcases digits others with ⟨_ | _, _⟩ <;> rfl
    next =>
      simp only [exponent?]
      rcases digits characters with ⟨_ | _, _⟩ <;> rfl

theorem exponent?_of_no_mark {characters : List Char}
    (noMark : ∀ mark ∈ characters.head?, mark ≠ 'e' ∧ mark ≠ 'E') :
    exponent? characters = some (none, characters) := by
  rw [exponent?.eq_def]
  split
  next => exact absurd rfl (noMark 'e' rfl).1
  next => exact absurd rfl (noMark 'E' rfl).2
  next => rfl

/-- The sign of a numeral, and what stands behind it. -/
def numeralSign : List Char → Bool × List Char
  | '-' :: rest => (true, rest)
  | rest => (false, rest)

theorem numeralSign_append {characters : List Char} (some : characters ≠ []) (rest : List Char) :
    numeralSign (characters ++ rest) =
      ((numeralSign characters).1, (numeralSign characters).2 ++ rest) := by
  cases characters with
  | nil => exact absurd rfl some
  | cons character others =>
      rw [List.cons_append, numeralSign.eq_def, numeralSign.eq_def (character :: others)]
      split <;> simp_all

/-- The parts that a numeral is read from. -/
theorem numeral?_eq_some_iff {characters after : List Char} {numeral : Numeral} :
    numeral? characters = some (numeral, after) ↔
      ∃ behindWhole behindFraction,
        (numeralSign characters).1 = numeral.negative ∧
          digits (numeralSign characters).2 = (numeral.whole, behindWhole) ∧
          numeral.whole ≠ [] ∧
          (numeral.whole.head? = some 0 → numeral.whole.length ≤ 1) ∧
          fraction? behindWhole = some (numeral.fraction, behindFraction) ∧
          exponent? behindFraction = some (numeral.exponent, after) := by
  have parts :
      numeral? characters =
        if (digits (numeralSign characters).2).1.isEmpty ||
            (digits (numeralSign characters).2).1.head? == some 0 &&
              1 < (digits (numeralSign characters).2).1.length then
          none
        else
          (fraction? (digits (numeralSign characters).2).2).bind fun fraction =>
            (exponent? fraction.2).bind fun exponent =>
              some
                ({ negative := (numeralSign characters).1
                   whole := (digits (numeralSign characters).2).1
                   fraction := fraction.1
                   exponent := exponent.1 },
                  exponent.2) := by
    rw [numeralSign.eq_def]
    split
    next others => rfl
    next =>
      simp only [numeral?]
      rfl
  rw [parts]
  rcases digits (numeralSign characters).2 with ⟨whole, behindWhole⟩
  simp only [Prod.mk.injEq]
  constructor
  · intro read
    rcases Option.ite_none_left_eq_some.mp read with ⟨wellFormed, read⟩
    rcases Option.bind_eq_some_iff.mp read with ⟨⟨fraction, behindFraction⟩, isFraction, read⟩
    rcases Option.bind_eq_some_iff.mp read with ⟨⟨exponent, rest⟩, isExponent, read⟩
    cases read
    have wellFormed : whole ≠ [] ∧ (whole.head? = some 0 → whole.length ≤ 1) := by
      simpa using wellFormed
    exact ⟨behindWhole, behindFraction, rfl, ⟨rfl, rfl⟩, wellFormed.1, wellFormed.2, isFraction,
      isExponent⟩
  · rintro ⟨_, behindFraction, sign, ⟨rfl, rfl⟩, some, noZero, isFraction, isExponent⟩
    rw [if_neg (by simpa using ⟨some, noZero⟩), isFraction, Option.bind_some, isExponent, sign]
    rfl

section Behind

variable {rest : List Char} (ends : EndsNumeral rest)

include ends

theorem digits_append (characters : List Char) :
    digits (characters ++ rest) = ((digits characters).1, (digits characters).2 ++ rest) := by
  have noDigits : rest.takeWhile Char.isDigit = [] ∧ rest.dropWhile Char.isDigit = rest := by
    cases rest with
    | nil => exact ⟨rfl, rfl⟩
    | cons character others => simp [(ends character rfl).1]
  induction characters with
  | nil => simp [digits, noDigits]
  | cons character others induction =>
      simp only [digits, Prod.mk.injEq] at induction ⊢
      cases isDigit : character.isDigit with
      | true => simpa [isDigit] using induction
      | false => simp [isDigit]

theorem fraction?_append {characters after : List Char} {fraction : Option (List Nat)}
    (read : fraction? characters = some (fraction, after)) :
    fraction? (characters ++ rest) = some (fraction, after ++ rest) := by
  by_cases point : characters.head? = some '.'
  · rcases List.head?_eq_some_iff.mp point with ⟨others, rfl⟩
    rw [fraction?_of_point] at read
    rw [List.cons_append, fraction?_of_point, digits_append ends]
    split at read
    next => cases read
    next someDigits =>
      cases read
      rw [if_neg someDigits]
  · rw [fraction?_of_no_point point] at read
    cases read
    apply fraction?_of_no_point
    cases characters with
    | nil =>
        intro isPoint
        exact (ends '.' isPoint).2.1 rfl
    | cons character others => exact point

theorem exponent?_append {characters after : List Char} {exponent : Option (Bool × List Nat)}
    (read : exponent? characters = some (exponent, after)) :
    exponent? (characters ++ rest) = some (exponent, after ++ rest) := by
  by_cases marked : characters.head? = some 'e' ∨ characters.head? = some 'E'
  · have split : ∃ mark others, characters = mark :: others ∧ (mark = 'e' ∨ mark = 'E') := by
      rcases marked with small | capital
      · rcases List.head?_eq_some_iff.mp small with ⟨others, rfl⟩
        exact ⟨_, _, rfl, Or.inl rfl⟩
      · rcases List.head?_eq_some_iff.mp capital with ⟨others, rfl⟩
        exact ⟨_, _, rfl, Or.inr rfl⟩
    rcases split with ⟨mark, others, rfl, isMark⟩
    rw [exponent?_of_mark isMark] at read
    rw [List.cons_append, exponent?_of_mark isMark]
    split at read
    next => cases read
    next someDigits =>
      have behind : others ≠ [] := by
        rintro rfl
        exact someDigits rfl
      cases read
      rw [exponentSign_append behind, digits_append ends, if_neg someDigits]
  · have noMark : ∀ mark ∈ characters.head?, mark ≠ 'e' ∧ mark ≠ 'E' := by
      rintro mark isHead
      constructor
      · rintro rfl
        exact marked (Or.inl isHead)
      · rintro rfl
        exact marked (Or.inr isHead)
    rw [exponent?_of_no_mark noMark] at read
    cases read
    apply exponent?_of_no_mark
    cases characters with
    | nil => exact fun mark isHead => (ends mark isHead).2.2
    | cons character others => exact noMark

/-- A numeral does not see what stands behind it. -/
theorem numeral?_append {characters after : List Char} {numeral : Numeral}
    (read : numeral? characters = some (numeral, after)) :
    numeral? (characters ++ rest) = some (numeral, after ++ rest) := by
  rcases numeral?_eq_some_iff.mp read with
    ⟨behindWhole, behindFraction, sign, isWhole, someDigit, noZero, isFraction, isExponent⟩
  have signs : characters ≠ [] := by
    rintro rfl
    exact someDigit (congrArg Prod.fst isWhole).symm
  have behindSign := numeralSign_append signs rest
  refine numeral?_eq_some_iff.mpr
    ⟨behindWhole ++ rest, behindFraction ++ rest, ?_, ?_, someDigit, noZero,
      fraction?_append ends isFraction, exponent?_append ends isExponent⟩
  · rw [behindSign]
    exact sign
  · rw [behindSign, digits_append ends, isWhole]

end Behind

/-- The digits of a number, as they are read. -/
def digitsOf (number : Nat) : List Nat :=
  (Nat.toDigits 10 number).map fun character => character.toNat - 48

theorem digits_toDigits (number : Nat) :
    digits (Nat.toDigits 10 number) = (digitsOf number, []) := by
  have areDigits : ∀ character ∈ Nat.toDigits 10 number, character.isDigit = true :=
    fun _ member => Nat.isDigit_of_mem_toDigits (by decide) (by decide) member
  rw [digits, List.takeWhile_eq_self_iff.mpr areDigits, List.dropWhile_eq_nil_iff.mpr areDigits]
  rfl

theorem ofDigits_digitsOf (number : Nat) : Numeral.ofDigits (digitsOf number) = number := by
  have readBack : Nat.ofDigitChars 10 (Nat.toDigits 10 number) 0 = number :=
    Nat.ofDigitChars_ten_toDigits
  simp only [Nat.ofDigitChars, Nat.mul_comm 10] at readBack
  rw [Numeral.ofDigits, digitsOf, List.foldl_map]
  exact readBack

theorem digitsOf_ne_nil (number : Nat) : digitsOf number ≠ [] := by
  simp [digitsOf, Nat.toDigits_ne_nil]

/-- A number of several digits does not start with a zero. -/
theorem length_digitsOf_of_head?_eq_zero {number : Nat}
    (zero : (digitsOf number).head? = some 0) :
    (digitsOf number).length ≤ 1 := by
  induction number using Nat.strongRecOn with
  | ind number induction =>
      by_cases small : number < 10
      · simp [digitsOf, Nat.toDigits_of_lt_base small]
      · have split :
            digitsOf number =
              digitsOf (number / 10) ++ [(Nat.digitChar (number % 10)).toNat - 48] := by
          rw [digitsOf, Nat.toDigits_eq_if (by decide), if_neg small, List.map_append]
          rfl
        rcases List.exists_cons_of_ne_nil (digitsOf_ne_nil (number / 10)) with
          ⟨first, others, isCons⟩
        rw [split, isCons] at zero
        cases zero
        -- The digits before the last are a zero alone, so there is nothing before the last.
        have short := induction (number / 10) (by omega) (by rw [isCons]; rfl)
        have alone : others = [] := by
          simpa [isCons] using short
        have nothing := ofDigits_digitsOf (number / 10)
        rw [isCons, alone] at nothing
        change 0 = number / 10 at nothing
        omega

/-- The numeral of an integer. -/
def numeralOf : Int → Numeral
  | .ofNat number =>
      { negative := false, whole := digitsOf number, fraction := none, exponent := none }
  | .negSucc number =>
      { negative := true, whole := digitsOf (number + 1), fraction := none, exponent := none }

theorem numeralSign_toDigits (number : Nat) :
    numeralSign (Nat.toDigits 10 number) = (false, Nat.toDigits 10 number) := by
  rw [numeralSign.eq_def]
  split
  next rest minus =>
    have member : '-' ∈ Nat.toDigits 10 number := by
      rw [minus]
      exact List.mem_cons_self
    have isDigit := Nat.isDigit_of_mem_toDigits (by decide) (by decide) member
    exact absurd isDigit (by decide)
  next => rfl

theorem numeral?_toString (value : Int) :
    numeral? (toString value).toList = some (numeralOf value, []) := by
  have read (negative : Bool) (number : Nat) (characters : List Char)
      (sign : numeralSign characters = (negative, Nat.toDigits 10 number)) :
      numeral? characters =
        some ({ negative, whole := digitsOf number, fraction := none, exponent := none }, []) := by
    apply numeral?_eq_some_iff.mpr
    refine ⟨[], [], ?_, ?_, digitsOf_ne_nil number, length_digitsOf_of_head?_eq_zero, rfl, rfl⟩
    · rw [sign]
    · rw [sign, digits_toDigits]
  cases value with
  | ofNat number =>
      apply read false number
      show numeralSign (toString number).toList = _
      rw [Nat.toString_eq_ofList_toDigits, String.toList_ofList]
      exact numeralSign_toDigits number
  | negSucc number =>
      apply read true (number + 1)
      show numeralSign ("-" ++ toString (number + 1)).toList = _
      rw [String.toList_append, Nat.toString_eq_ofList_toDigits, String.toList_ofList,
        String.toList_ofList]
      rfl

theorem value_numeralOf {value : Int} (least : -Int.ofNat (Nat.pow 2 63) ≤ value)
    (most : value < Int.ofNat UInt64.size) :
    (numeralOf value).value = .int value := by
  cases value with
  | ofNat number =>
      have fits : number < UInt64.size := Int.ofNat_lt.mp most
      simp [numeralOf, Numeral.value, ofDigits_digitsOf, fits]
  | negSucc number =>
      have fits : number + 1 ≤ Nat.pow 2 63 := by
        apply Int.ofNat_le.mp
        rw [Int.negSucc_eq] at least
        exact Int.neg_le_neg_iff.mp least
      simp [numeralOf, Numeral.value, ofDigits_digitsOf, fits, Int.negSucc_eq]

end Reader

end StructuralLint.Json
