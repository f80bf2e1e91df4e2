import StructuralLint.Proofs.AsciiText
import StructuralLint.Proofs.TextAtoms
import StructuralLint.Rule.Name

/-!
# Spellings of a list of words

The name of a rule is a list of words, and a spelling joins them by capitals, underscores or
hyphens.  All spellings of a list have one normal form, the words joined by hyphens, and lists with
the same normal form are equal.

Every spelling is an opening word with further words behind it, and each further word begins with a
mark of its own: its capital, or the sign before it.  In front of this mark stands the last
character of a word, a small letter or a digit, so exactly one hyphen is written for it.  Inside a
word there is no mark.
-/

namespace StructuralLint.RuleName

open scoped Duplication

/-! ## Words and spellings -/

/-- Small letters and digits of ASCII. -/
def IsPart (character : Char) : Prop :=
  character.isLower = true ∨ character.isDigit = true

instance (character : Char) : Decidable (IsPart character) :=
  inferInstanceAs (Decidable (character.isLower = true ∨ character.isDigit = true))

/-- A word: a small letter, and one or more small letters or digits behind it. -/
def IsWord (word : String) : Prop :=
  ∃ first rest,
    word.toList = first :: rest ∧ first.isLower = true ∧ rest ≠ [] ∧
      ∀ character ∈ rest, IsPart character

/-- A word with a capital. -/
def capitalize (word : String) : String :=
  match word.toList with
  | [] => ""
  | first :: rest => String.ofList (first.toUpper :: rest)

/-- The ways to join words. -/
inductive Spelling where
  /-- As in `TooManyArguments`. -/
  | pascal
  /-- As in `tooManyArguments`. -/
  | camel
  /-- As in `too_many_arguments`. -/
  | snake
  /-- As in `too-many-arguments`. -/
  | kebab

/-- Words in a spelling. -/
def Spelling.write : Spelling → List String → String
  | pascal, words => String.join (words.map capitalize)
  | camel, [] => ""
  | camel, first :: rest => first ++ String.join (rest.map capitalize)
  | snake, words => "_".intercalate words
  | kebab, words => "-".intercalate words

/-- A name spells a list of words in one of the spellings, with any blanks around it. -/
structure Spells (name : String) (words : List String) : Prop where
  nonempty : words ≠ []
  areWords : ∀ word ∈ words, IsWord word
  written :
    ∃ before spelling after,
      Text.IsBlankText before ∧ Text.IsBlankText after ∧
        name = before ++ Spelling.write spelling words ++ after

/-! ## Characters of a word -/

theorem isAlphanum_of_isPart {character : Char} (part : IsPart character) :
    character.isAlphanum = true := by
  rw [Char.isAlphanum, Char.isAlpha]
  rcases part with small | digit
  · simp [small]
  · simp [digit]

theorem IsPart.ne {character sign : Char} (part : IsPart character) (noPart : ¬ IsPart sign) :
    character ≠ sign :=
  fun same => noPart (same ▸ part)

/-- What holds of the parts of words among the first 128 characters holds of all of them. -/
theorem of_isPart (Holds : Char → Prop)
    (listed : ∀ point < 128, IsPart (Char.ofNat point) → Holds (Char.ofNat point))
    {character : Char} (part : IsPart character) : Holds character :=
  Text.of_isAlphanum (fun character => IsPart character → Holds character)
    (fun point isAscii _ => listed point isAscii) (isAlphanum_of_isPart part) part

theorem isCapital_eq_false {character : Char} (part : IsPart character) :
    Text.isCapital character = false :=
  of_isPart (fun character => Text.isCapital character = false) (by decide) part

theorem opensWord_of_isPart {character : Char} (part : IsPart character) (next : Option Char) :
    Text.opensWord (some character) next = true := by
  have smallOrDigit : (Text.isSmall character || character.isDigit) = true :=
    of_isPart (fun character => (Text.isSmall character || character.isDigit) = true) (by decide)
      part
  rw [Text.opensWord, Option.any_some, smallOrDigit, Bool.true_or]

theorem isCapital_toUpper {character : Char} (small : character.isLower = true) :
    Text.isCapital character.toUpper = true :=
  of_isPart (fun character => character.isLower = true → Text.isCapital character.toUpper = true)
    (by decide) (.inl small) small

theorem lowerChar_toUpper {character : Char} (small : character.isLower = true) :
    Text.lowerChar character.toUpper = [character] :=
  of_isPart
    (fun character => character.isLower = true → Text.lowerChar character.toUpper = [character])
    (by decide) (.inl small) small

theorem isBlank_toUpper {character : Char} (small : character.isLower = true) :
    Text.isBlank character.toUpper = false :=
  of_isPart (fun character => character.isLower = true → Text.isBlank character.toUpper = false)
    (by decide) (.inl small) small

theorem IsWord.isPart {word : String} (isWord : IsWord word) :
    ∀ character ∈ word.toList, IsPart character := by
  rcases isWord with ⟨first, rest, isSplit, small, _, parts⟩
  rw [isSplit]
  exact List.forall_mem_cons.mpr ⟨.inl small, parts⟩

theorem IsWord.toList_ne_nil {word : String} (isWord : IsWord word) : word.toList ≠ [] := by
  rcases isWord with ⟨first, rest, isSplit, _⟩
  rw [isSplit]
  exact List.cons_ne_nil first rest

theorem toList_capitalize {word : String} {first : Char} {rest : List Char}
    (isSplit : word.toList = first :: rest) :
    (capitalize word).toList = first.toUpper :: rest := by
  rw [capitalize, isSplit]
  exact String.toList_ofList

/-! ## Normal forms of written words -/

/-- Inside a word nothing is inserted. -/
theorem normalizeAfter_part {character : Char} (part : IsPart character) (previous : Option Char)
    (after : List Char) :
    normalizeAfter previous (character :: after) =
      character :: normalizeAfter (some character) after := by
  have noSign : (character == '_') = false := beq_eq_false_iff_ne.mpr (part.ne (by decide))
  rw [normalizeAfter, isCapital_eq_false part, noSign]
  rfl

theorem normalizeAfter_parts {characters : List Char} (nonempty : characters ≠ [])
    (parts : ∀ character ∈ characters, IsPart character) :
    ∃ last, IsPart last ∧
      ∀ previous after,
        normalizeAfter previous (characters ++ after) =
          characters ++ normalizeAfter (some last) after := by
  induction characters with
  | nil => exact absurd rfl nonempty
  | cons character rest induction =>
      rw [List.forall_mem_cons] at parts
      by_cases isLast : rest = []
      · subst isLast
        exact ⟨character, parts.1, fun previous after => normalizeAfter_part parts.1 previous after⟩
      · rcases induction isLast parts.2 with ⟨last, isPart, continues⟩
        refine ⟨last, isPart, fun previous after => ?_⟩
        rw [List.cons_append, normalizeAfter_part parts.1, continues]
        rfl

/-- Behind another word a capital is the mark of a new word, at the start of a name it is not. -/
theorem normalizeAfter_toUpper {character : Char} (small : character.isLower = true)
    (previous : Option Char) (after : List Char) :
    normalizeAfter previous (character.toUpper :: after) =
      if Text.opensWord previous after.head? then
        '-' :: character :: normalizeAfter (some character.toUpper) after
      else character :: normalizeAfter (some character.toUpper) after := by
  rw [normalizeAfter, isCapital_toUpper small, lowerChar_toUpper small]
  simp only [if_true]
  split <;> rfl

theorem normalizeAfter_sign {sign : Char} (isSign : sign = '_' ∨ sign = '-')
    (previous : Option Char) (after : List Char) :
    normalizeAfter previous (sign :: after) = '-' :: normalizeAfter (some sign) after := by
  rcases isSign with rfl | rfl <;> rfl

/-- What is written for a word at the start of a name becomes the word. -/
def Opens (written : List Char) (word : String) : Prop :=
  ∃ last, IsPart last ∧
    ∀ after, normalizeAfter none (written ++ after) =
      word.toList ++ normalizeAfter (some last) after

/-- What is written for a word behind another word becomes a hyphen and the word. -/
def Joins (written : List Char) (word : String) : Prop :=
  ∃ last, IsPart last ∧
    ∀ previous, IsPart previous → ∀ after,
      normalizeAfter (some previous) (written ++ after) =
        '-' :: word.toList ++ normalizeAfter (some last) after

theorem IsWord.opens {word : String} (isWord : IsWord word) : Opens word.toList word := by
  rcases normalizeAfter_parts isWord.toList_ne_nil isWord.isPart with ⟨last, isPart, continues⟩
  exact ⟨last, isPart, continues none⟩

theorem IsWord.opens_capitalize {word : String} (isWord : IsWord word) :
    Opens (capitalize word).toList word := by
  rcases isWord with ⟨first, rest, isSplit, small, nonempty, parts⟩
  rcases normalizeAfter_parts nonempty parts with ⟨last, isPart, continues⟩
  refine ⟨last, isPart, fun after => ?_⟩
  rw [toList_capitalize isSplit, List.cons_append, normalizeAfter_toUpper small, continues, isSplit]
  rfl

theorem IsWord.joins_capitalize {word : String} (isWord : IsWord word) :
    Joins (capitalize word).toList word := by
  rcases isWord with ⟨first, rest, isSplit, small, nonempty, parts⟩
  rcases normalizeAfter_parts nonempty parts with ⟨last, isPart, continues⟩
  refine ⟨last, isPart, fun previous isPrevious after => ?_⟩
  rw [toList_capitalize isSplit, List.cons_append, normalizeAfter_toUpper small,
    opensWord_of_isPart isPrevious, if_pos rfl, continues, isSplit]
  rfl

theorem IsWord.joins_sign {word : String} (isWord : IsWord word) {sign : Char}
    (isSign : sign = '_' ∨ sign = '-') : Joins (sign :: word.toList) word := by
  rcases normalizeAfter_parts isWord.toList_ne_nil isWord.isPart with ⟨last, isPart, continues⟩
  refine ⟨last, isPart, fun previous _ after => ?_⟩
  rw [List.cons_append, normalizeAfter_sign isSign, continues]
  rfl

theorem normalizeAfter_flatMap {written : String → List Char} {words : List String}
    (joins : ∀ word ∈ words, Joins (written word) word) {previous : Char}
    (isPart : IsPart previous) :
    normalizeAfter (some previous) (words.flatMap written) =
      words.flatMap fun word => '-' :: word.toList := by
  induction words generalizing previous with
  | nil => rfl
  | cons word rest induction =>
      rw [List.forall_mem_cons] at joins
      rcases joins.1 with ⟨last, isLast, continues⟩
      rw [List.flatMap_cons, List.flatMap_cons, continues previous isPart, induction joins.2 isLast]

/-! ## Normal forms of spellings -/

/-- What a spelling writes for the first word. -/
def Spelling.opening : Spelling → String → List Char
  | pascal, word => (capitalize word).toList
  | camel, word | snake, word | kebab, word => word.toList

/-- What a spelling writes for a word behind another. -/
def Spelling.joined : Spelling → String → List Char
  | pascal, word | camel, word => (capitalize word).toList
  | snake, word => '_' :: word.toList
  | kebab, word => '-' :: word.toList

theorem Spelling.toList_write (spelling : Spelling) (first : String) (rest : List String) :
    (spelling.write (first :: rest)).toList =
      spelling.opening first ++ rest.flatMap spelling.joined := by
  cases spelling with
  | pascal =>
      rw [write, String.toList_join, List.map_cons, List.flatMap_cons, List.flatMap_map]
      rfl
  | camel =>
      rw [write, String.toList_append, String.toList_join, List.flatMap_map]
      rfl
  | snake =>
      rw [write, String.toList_intercalate, List.map_cons]
      exact (Duplication.intercalate_cons '_' _ _).trans (by rw [List.flatMap_map]; rfl)
  | kebab =>
      rw [write, String.toList_intercalate, List.map_cons]
      exact (Duplication.intercalate_cons '-' _ _).trans (by rw [List.flatMap_map]; rfl)

theorem Spelling.opens_opening (spelling : Spelling) {word : String} (isWord : IsWord word) :
    Opens (spelling.opening word) word := by
  cases spelling with
  | pascal => exact isWord.opens_capitalize
  | camel => exact isWord.opens
  | snake => exact isWord.opens
  | kebab => exact isWord.opens

theorem Spelling.joins_joined (spelling : Spelling) {word : String} (isWord : IsWord word) :
    Joins (spelling.joined word) word := by
  cases spelling with
  | pascal => exact isWord.joins_capitalize
  | camel => exact isWord.joins_capitalize
  | snake => exact isWord.joins_sign (.inl rfl)
  | kebab => exact isWord.joins_sign (.inr rfl)

theorem normalizeAfter_write (spelling : Spelling) {words : List String} (nonempty : words ≠ [])
    (areWords : ∀ word ∈ words, IsWord word) :
    normalizeAfter none (spelling.write words).toList = ("-".intercalate words).toList := by
  cases words with
  | nil => exact absurd rfl nonempty
  | cons first rest =>
      rw [List.forall_mem_cons] at areWords
      rcases spelling.opens_opening areWords.1 with ⟨last, isPart, continues⟩
      have joins : ∀ word ∈ rest, Joins (spelling.joined word) word :=
        fun word member => spelling.joins_joined (areWords.2 word member)
      rw [spelling.toList_write, continues, normalizeAfter_flatMap joins isPart]
      exact (Spelling.kebab.toList_write first rest).symm

/-! ## Blanks around a name -/

theorem IsWord.isBlank_eq_false {word : String} (isWord : IsWord word) :
    ∀ character ∈ word.toList, Text.isBlank character = false :=
  fun character member =>
    Text.isBlank_eq_false (isAlphanum_of_isPart (isWord.isPart character member))

theorem IsWord.isBlank_capitalize {word : String} (isWord : IsWord word) :
    ∀ character ∈ (capitalize word).toList, Text.isBlank character = false := by
  have solid := isWord.isBlank_eq_false
  rcases isWord with ⟨first, rest, isSplit, small, _, _⟩
  rw [isSplit, List.forall_mem_cons] at solid
  rw [toList_capitalize isSplit]
  exact List.forall_mem_cons.mpr ⟨isBlank_toUpper small, solid.2⟩

theorem Spelling.isBlank_opening (spelling : Spelling) {word : String} (isWord : IsWord word) :
    ∀ character ∈ spelling.opening word, Text.isBlank character = false := by
  cases spelling with
  | pascal => exact isWord.isBlank_capitalize
  | camel => exact isWord.isBlank_eq_false
  | snake => exact isWord.isBlank_eq_false
  | kebab => exact isWord.isBlank_eq_false

theorem Spelling.isBlank_joined (spelling : Spelling) {word : String} (isWord : IsWord word) :
    ∀ character ∈ spelling.joined word, Text.isBlank character = false := by
  cases spelling with
  | pascal => exact isWord.isBlank_capitalize
  | camel => exact isWord.isBlank_capitalize
  | snake => exact List.forall_mem_cons.mpr ⟨rfl, isWord.isBlank_eq_false⟩
  | kebab => exact List.forall_mem_cons.mpr ⟨rfl, isWord.isBlank_eq_false⟩

theorem isBlank_write (spelling : Spelling) {words : List String}
    (areWords : ∀ word ∈ words, IsWord word) :
    ∀ character ∈ (spelling.write words).toList, Text.isBlank character = false := by
  cases words with
  | nil => cases spelling <;> exact fun _ none => nomatch none
  | cons first rest =>
      rw [List.forall_mem_cons] at areWords
      rw [spelling.toList_write, List.forall_mem_append]
      refine ⟨spelling.isBlank_opening areWords.1, fun character member => ?_⟩
      rcases List.mem_flatMap.mp member with ⟨word, isLater, member⟩
      exact spelling.isBlank_joined (areWords.2 word isLater) character member

theorem toList_write_ne_nil (spelling : Spelling) {words : List String} (nonempty : words ≠ [])
    (areWords : ∀ word ∈ words, IsWord word) : (spelling.write words).toList ≠ [] := by
  intro nothing
  have normal := normalizeAfter_write spelling nonempty areWords
  cases words with
  | nil => exact nonempty rfl
  | cons first rest =>
      have hyphenated :
          ("-".intercalate (first :: rest)).toList =
            first.toList ++ rest.flatMap Spelling.kebab.joined :=
        Spelling.kebab.toList_write first rest
      rw [nothing, hyphenated] at normal
      exact (areWords first List.mem_cons_self).toList_ne_nil
        (List.append_eq_nil_iff.mp normal.symm).1

/-- A name is normalized to the words that it spells, joined by hyphens. -/
theorem Spells.normalize_eq {name : String} {words : List String} (spells : Spells name words) :
    normalize name = "-".intercalate words := by
  rcases spells with ⟨nonempty, areWords, before, spelling, after, blankBefore, blankAfter, rfl⟩
  rw [normalize, String.toList_append, String.toList_append,
    Text.trimChars_append blankBefore (toList_write_ne_nil spelling nonempty areWords)
      (isBlank_write spelling areWords) blankAfter,
    normalizeAfter_write spelling nonempty areWords, String.ofList_toList]

/-! ## Words of a normal form -/

/-- The words can be read off their join, since no word holds a hyphen. -/
theorem splitOn_intercalate {words : List String} (nonempty : words ≠ [])
    (areWords : ∀ word ∈ words, IsWord word) :
    ("-".intercalate words).toList.splitOn '-' = words.map String.toList := by
  rw [String.toList_intercalate]
  refine List.splitOn_intercalate '-' ?_ (by simpa using nonempty)
  intro letters member
  rcases List.mem_map.mp member with ⟨word, isWord, rfl⟩
  exact fun isHyphen => ((areWords word isWord).isPart '-' isHyphen).ne (by decide) rfl

/--
All spellings of a list of words have one normal form, the words joined by hyphens, and only
these: two names are normalized alike exactly if they spell the same words.
-/
theorem normalize_eq_iff_of_spells {name other : String} {words others : List String}
    (spells : Spells name words) (spellsOther : Spells other others) :
    normalize name = "-".intercalate words ∧
      (normalize name = normalize other ↔ words = others) := by
  refine ⟨spells.normalize_eq, ?_⟩
  rw [spells.normalize_eq, spellsOther.normalize_eq]
  constructor
  · intro same
    have split := splitOn_intercalate spells.nonempty spells.areWords
    rw [same, splitOn_intercalate spellsOther.nonempty spellsOther.areWords] at split
    exact List.map_injective_iff.mpr (fun _ _ => String.toList_injective) split.symm
  · rintro rfl
    rfl

/-- Blanks and the way of joining do not matter, and a digit at the end of a word does. -/
theorem normalize_eq_iff_numberedWord :
    Spells "\t SimilarNames2\n" ["similar", "names2"] ∧
      Spells "similar_names" ["similar", "names"] ∧
      normalize "\t SimilarNames2\n" = "-".intercalate ["similar", "names2"] ∧
      (normalize "\t SimilarNames2\n" = normalize "similar_names" ↔
        ["similar", "names2"] = ["similar", "names"]) := by
  have similar : IsWord "similar" :=
    ⟨'s', "imilar".toList, by decide, rfl, by decide, by decide⟩
  have names : IsWord "names" :=
    ⟨'n', "ames".toList, by decide, rfl, by decide, by decide⟩
  have names2 : IsWord "names2" :=
    ⟨'n', "ames2".toList, by decide, rfl, by decide, by decide⟩
  have spells : Spells "\t SimilarNames2\n" ["similar", "names2"] :=
    { nonempty := List.cons_ne_nil _ _
      areWords := by simp [similar, names2]
      written := ⟨"\t ", .pascal, "\n", by decide, by decide, by decide⟩ }
  have spellsOther : Spells "similar_names" ["similar", "names"] :=
    { nonempty := List.cons_ne_nil _ _
      areWords := by simp [similar, names]
      written := ⟨"", .snake, "", by decide, by decide, by decide⟩ }
  exact ⟨spells, spellsOther, normalize_eq_iff_of_spells spells spellsOther⟩

end StructuralLint.RuleName
