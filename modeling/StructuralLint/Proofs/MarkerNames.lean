import StructuralLint.Proofs.AsciiText
import StructuralLint.Proofs.TextAtoms
import StructuralLint.Suppression.Marker

/-!
# Names of a written marker

A marker is read back as the names that were written, whatever stands before and after it.

The search stops at the first occurrence of the word that opens a marker.  The word ends with the
only colon in it, so two of its occurrences never overlap, and text in front of the word that holds
none of its occurrences cannot begin one either.  Behind the word, a name ends where a character
follows that continues no name: a blank or a comma inside the list, and what follows the list at its
end.
-/

namespace StructuralLint.Marker

open Text (isBlank isWordChar foldsTo afterFolded? IsBlankText)
open scoped Duplication

/-! ## What is written -/

/-- A name of letters, digits, underscores and hyphens of ASCII that begins with a letter. -/
def IsName (name : String) : Prop :=
  ∃ first rest,
    name.toList = first :: rest ∧ first.isAlpha = true ∧
      ∀ character ∈ rest, character.isAlphanum = true ∨ character = '_' ∨ character = '-'

/-- A text lists names: they are joined by commas, with blanks around each comma. -/
inductive Lists : List String → String → Prop where
  | last {name : String} (isName : IsName name) : Lists [name] name
  | more {name before after text : String} {names : List String} (isName : IsName name)
      (blankBefore : IsBlankText before) (blankAfter : IsBlankText after)
      (further : Lists names text) :
      Lists (name :: names) (name ++ before ++ "," ++ after ++ text)

/-- A text is a word of small letters in any case, third forms of letters included. -/
def Spells (small text : List Char) : Prop :=
  List.Forall₂ (fun letter character => foldsTo letter character = true) small text

/-- The word that opens a marker occurs in a text, in any case. -/
def HoldsWord (text : List Char) : Prop :=
  ∃ spelling, Spells word spelling ∧ spelling <:+: text

/-! ## The word -/

theorem spells_of_map_toLower {small text : List Char} (lowered : text.map Char.toLower = small) :
    Spells small text := by
  rw [Spells, ← lowered, List.forall₂_map_left_iff, List.forall₂_same]
  intro character _
  simp [foldsTo]

theorem afterFolded?_eq_some_iff {small characters rest : List Char} :
    afterFolded? small characters = some rest ↔
      ∃ spelling, Spells small spelling ∧ characters = spelling ++ rest := by
  induction small generalizing characters with
  | nil =>
      rw [afterFolded?, Option.some.injEq]
      constructor
      · rintro rfl
        exact ⟨[], .nil, rfl⟩
      · rintro ⟨_, ⟨⟩, rfl⟩
        rfl
  | cons letter small induction =>
      cases characters with
      | nil =>
          constructor
          · rintro ⟨⟩
          · rintro ⟨_, ⟨_, _⟩, impossible⟩
            cases impossible
      | cons character characters =>
          rw [afterFolded?, Option.ite_none_right_eq_some, induction]
          constructor
          · rintro ⟨folds, spelling, spells, rfl⟩
            exact ⟨character :: spelling, .cons folds spells, rfl⟩
          · rintro ⟨_, spelled, isSplit⟩
            rcases spelled with _ | ⟨folds, spells⟩
            cases isSplit
            exact ⟨folds, _, spells, rfl⟩

theorem holdsWord_iff {text : List Char} :
    HoldsWord text ↔ ∃ tail ∈ text.tails, (afterFolded? word tail).isSome := by
  constructor
  · rintro ⟨spelling, spells, before, after, rfl⟩
    refine ⟨spelling ++ after, ?_, ?_⟩
    · rw [List.mem_tails, List.append_assoc]
      exact List.suffix_append before _
    · exact Option.isSome_of_eq_some (afterFolded?_eq_some_iff.mpr ⟨spelling, spells, rfl⟩)
  · rintro ⟨tail, isTail, found⟩
    rw [List.mem_tails] at isTail
    rcases Option.isSome_iff_exists.mp found with ⟨rest, isRest⟩
    rcases afterFolded?_eq_some_iff.mp isRest with ⟨spelling, spells, rfl⟩
    exact ⟨spelling, spells,
      (List.prefix_append spelling rest).isInfix.trans isTail.isInfix⟩

instance (text : List Char) : Decidable (HoldsWord text) :=
  decidable_of_iff _ holdsWord_iff.symm

theorem eq_colon_of_foldsTo {character : Char} (folds : foldsTo ':' character = true) :
    character = ':' := by
  have lowered : character.toLower = ':' := by simpa [foldsTo] using folds
  exact Text.eq_of_toLower_eq lowered rfl

/-- Where a word of small letters ends with its only colon, so does every spelling of it. -/
theorem Spells.exists_letters {spelling : List Char} (small : List Char)
    (letters : ∀ letter ∈ small, foldsTo letter ':' = false)
    (spells : Spells (small ++ [':']) spelling) :
    ∃ written, spelling = written ++ [':'] ∧ ':' ∉ written ∧ written.length = small.length := by
  induction small generalizing spelling with
  | nil =>
      rcases spells with _ | ⟨folds, ⟨⟩⟩
      exact ⟨[], by rw [eq_colon_of_foldsTo folds]; rfl, List.not_mem_nil, rfl⟩
  | cons letter small induction =>
      rw [List.forall_mem_cons] at letters
      rcases spells with _ | @⟨_, character, _, _, folds, spells⟩
      rcases induction letters.2 spells with ⟨written, rfl, noColon, length⟩
      have isLetter : ':' ≠ character := by
        rintro rfl
        rw [letters.1] at folds
        cases folds
      exact ⟨character :: written, rfl, List.not_mem_cons_of_ne_of_not_mem isLetter noColon,
        congrArg Nat.succ length⟩

theorem exists_letters_of_spells_word {spelling : List Char} (spells : Spells word spelling) :
    ∃ written, spelling = written ++ [':'] ∧ ':' ∉ written ∧ written.length = 8 :=
  Spells.exists_letters "suppress".toList (by decide) spells

/-- Two texts that begin alike hold the same up to their first colon. -/
theorem eq_of_append_colon_eq {written others rest remaining : List Char} (noColon : ':' ∉ written)
    (noOtherColon : ':' ∉ others)
    (same : written ++ [':'] ++ rest = others ++ [':'] ++ remaining) : written = others := by
  have upTo : ∀ start after : List Char, ':' ∉ start →
      (start ++ [':'] ++ after).takeWhile (· != ':') = start := by
    intro start after absent
    rw [List.append_assoc, List.takeWhile_append_of_pos]
    · exact List.append_nil start
    · intro character member
      exact bne_iff_ne.mpr fun isColon => absent (isColon ▸ member)
  rw [← upTo written rest noColon, same, upTo others remaining noOtherColon]

/--
Text without the word begins no occurrence of the word either: an occurrence that reaches into
the spelling behind the text ends with the colon of that spelling, so it is longer than the word.
-/
theorem afterFolded?_eq_none {lead spelling rest : List Char} (unmarked : ¬ HoldsWord lead)
    (nonempty : lead ≠ []) (spells : Spells word spelling) :
    afterFolded? word (lead ++ (spelling ++ rest)) = none := by
  by_contra found
  rcases Option.ne_none_iff_exists'.mp found with ⟨remaining, isRemaining⟩
  rcases afterFolded?_eq_some_iff.mp isRemaining with ⟨occurrence, occurs, isSplit⟩
  rcases List.append_eq_append_iff.mp isSplit with
    ⟨overlap, isOccurrence, isRest⟩ | ⟨after, isLead, _⟩
  · -- The occurrence reaches up to the end of the text or into the spelling behind it.
    rcases List.eq_nil_or_concat overlap with rfl | ⟨start, last, rfl⟩
    · rw [List.append_nil] at isOccurrence
      exact unmarked ⟨occurrence, occurs, isOccurrence ▸ List.infix_refl _⟩
    · rcases exists_letters_of_spells_word spells with ⟨written, rfl, noColon, length⟩
      rcases exists_letters_of_spells_word occurs with ⟨others, rfl, noOtherColon, otherLength⟩
      rw [List.concat_eq_append, ← List.append_assoc] at isOccurrence
      rcases List.append_inj' isOccurrence rfl with ⟨rfl, isColon⟩
      rw [List.concat_eq_append, ← isColon] at isRest
      have noStartColon : ':' ∉ start :=
        fun member => noOtherColon (List.mem_append_right lead member)
      have sameLetters := eq_of_append_colon_eq noColon noStartColon isRest
      rw [List.length_append, ← sameLetters, length, Nat.add_eq_right] at otherLength
      exact nonempty (List.length_eq_zero_iff.mp otherLength)
  · -- The occurrence ends within the text.
    exact unmarked ⟨occurrence, occurs, isLead ▸ (List.prefix_append _ _).isInfix⟩

/-- The search passes over text without the word. -/
theorem find?_append {lead spelling rest : List Char} (unmarked : ¬ HoldsWord lead)
    (spells : Spells word spelling) (previous : Option Char) :
    find? previous (lead ++ (spelling ++ rest)) =
      find? (lead.getLast?.or previous) (spelling ++ rest) := by
  induction lead generalizing previous with
  | nil => rfl
  | cons character lead induction =>
      have missing :
          afterFolded? word (character :: (lead ++ (spelling ++ rest))) = none :=
        afterFolded?_eq_none unmarked (List.cons_ne_nil _ _) spells
      have unmarkedBehind : ¬ HoldsWord lead := fun ⟨occurrence, occurs, within⟩ =>
        unmarked ⟨occurrence, occurs, within.trans (List.suffix_cons _ _).isInfix⟩
      rw [List.cons_append, find?, missing]
      simp only [Option.bind_none, ite_self]
      rw [induction unmarkedBehind, List.getLast?_cons]
      cases lead.getLast? <;> rfl

/-- Behind a character that continues no word, the word opens a marker. -/
theorem find?_of_spells {spelling rest list : List Char} {previous : Option Char}
    (bounded : previous.any isWordChar = false)
    (spells : Spells word spelling) (listed : list? rest = some list) :
    find? previous (spelling ++ rest) = some list := by
  have opened : afterFolded? word (spelling ++ rest) = some rest :=
    afterFolded?_eq_some_iff.mpr ⟨spelling, spells, rfl⟩
  cases spelling with
  | nil => cases spells
  | cons character spelling =>
      rw [List.cons_append] at opened ⊢
      rw [find?, bounded, opened]
      simp only [Bool.false_eq_true, if_false, Option.bind_some, listed]

/-! ## Names -/

/-- The next character of a text, if there is one, continues no name. -/
def EndsName (text : List Char) : Prop :=
  ∀ character ∈ text.head?, continuesName character = false

theorem continuesName_eq_false_of_isBlank {character : Char} (blank : isBlank character = true) :
    continuesName character = false := by
  rw [continuesName, Text.isWordChar_eq_false blank, Bool.false_or, beq_eq_false_iff_ne]
  rintro rfl
  cases blank

/-- Blanks and the comma behind them end a name. -/
theorem endsName_blanks_comma {blanks : List Char}
    (blank : ∀ character ∈ blanks, isBlank character = true) (after : List Char) :
    EndsName (blanks ++ ',' :: after) := by
  cases blanks with
  | nil =>
      rintro _ ⟨⟩
      rfl
  | cons character blanks =>
      rintro _ ⟨⟩
      exact continuesName_eq_false_of_isBlank (blank character List.mem_cons_self)

theorem IsName.name?_append {name : String} (isName : IsName name) {after : List Char}
    (ends : EndsName after) : name? (name.toList ++ after) = some (name.toList, after) := by
  rcases isName with ⟨first, rest, isSplit, letter, continued⟩
  have starts : startsName first = true := by
    rw [startsName, letter]
    rfl
  have continues : ∀ character ∈ rest, continuesName character = true := by
    intro character member
    rw [continuesName]
    rcases continued character member with plain | rfl | rfl
    · rw [Text.isWordChar_of_isAlphanum plain, Bool.true_or]
    · rfl
    · rfl
  have taken : after.takeWhile continuesName = [] ∧ after.dropWhile continuesName = after := by
    cases after with
    | nil => exact ⟨rfl, rfl⟩
    | cons character after =>
        have stops : ¬ continuesName character = true := by
          rw [ends character rfl]
          exact Bool.false_ne_true
        exact ⟨List.takeWhile_cons_of_neg stops, List.dropWhile_cons_of_neg stops⟩
  rw [isSplit, List.cons_append, name?, if_pos starts, List.takeWhile_append_of_pos continues,
    List.dropWhile_append_of_pos continues, taken.1, taken.2, List.append_nil]

theorem furtherNames_of_some {characters joined rest : List Char}
    (found : nextName? characters = some (joined, rest)) :
    furtherNames characters = joined ++ furtherNames rest := by
  rw [furtherNames]
  split
  · next same =>
      rw [found] at same
      cases same
      rfl
  · next missing =>
      rw [found] at missing
      cases missing

theorem furtherNames_of_none {characters : List Char} (missing : nextName? characters = none) :
    furtherNames characters = [] := by
  rw [furtherNames]
  split
  · next found =>
      rw [missing] at found
      cases found
  · rfl

/-- A list begins with a letter. -/
theorem Lists.exists_letter {names : List String} {text : String} (lists : Lists names text) :
    ∃ letter rest, text.toList = letter :: rest ∧ letter.isAlpha = true := by
  cases lists with
  | last isName =>
      rcases isName with ⟨first, rest, isSplit, letter, _⟩
      exact ⟨first, rest, isSplit, letter⟩
  | more isName _ _ _ =>
      rcases isName with ⟨first, rest, isSplit, letter, _⟩
      simp only [String.toList_append, isSplit, List.cons_append]
      exact ⟨first, _, rfl, letter⟩

/-- Blanks in front of a list are skipped, and nothing of the list. -/
theorem Lists.isBlank_append {names : List String} {text : String} (lists : Lists names text)
    {blanks : List Char} (blank : ∀ character ∈ blanks, isBlank character = true)
    (after : List Char) :
    (blanks ++ (text.toList ++ after)).takeWhile isBlank = blanks ∧
      (blanks ++ (text.toList ++ after)).dropWhile isBlank = text.toList ++ after := by
  rcases lists.exists_letter with ⟨letter, rest, isSplit, isLetter⟩
  have isNoBlank : isBlank letter = false :=
    Text.isBlank_eq_false (by rw [Char.isAlphanum, isLetter, Bool.true_or])
  rw [List.takeWhile_append_of_pos blank, List.dropWhile_append_of_pos blank, isSplit]
  simp [isNoBlank]

/-- A comma with blanks on both sides leads on to the name behind it. -/
theorem Lists.nextName?_comma {names : List String} {text : String} (lists : Lists names text)
    {before after : String} (blankBefore : IsBlankText before) (blankAfter : IsBlankText after)
    {trail name rest : List Char}
    (isName : name? (text.toList ++ trail) = some (name, rest)) :
    nextName? (before.toList ++ ',' :: (after.toList ++ (text.toList ++ trail))) =
      some (before.toList ++ ',' :: (after.toList ++ name), rest) := by
  let further := after.toList ++ (text.toList ++ trail)
  have noBlank : isBlank ',' = false := rfl
  have blanks :
      (before.toList ++ ',' :: further).takeWhile isBlank = before.toList ∧
        (before.toList ++ ',' :: further).dropWhile isBlank = ',' :: further := by
    rw [List.takeWhile_append_of_pos blankBefore, List.dropWhile_append_of_pos blankBefore]
    simp [noBlank]
  rcases lists.isBlank_append blankAfter trail with ⟨taken, dropped⟩
  rw [nextName?, blanks.2]
  simp only [further, blanks.1, taken, dropped, isName, Option.map_some]

/-- The text of a list is read up to what follows it. -/
theorem Lists.exists_name?_append {names : List String} {text : String} (lists : Lists names text)
    {trail : List Char} (ends : EndsName trail) (finished : nextName? trail = none) :
    ∃ name rest,
      name? (text.toList ++ trail) = some (name, rest) ∧
        name ++ furtherNames rest = text.toList := by
  induction lists with
  | @last name isName =>
      refine ⟨_, _, isName.name?_append ends, ?_⟩
      rw [furtherNames_of_none finished, List.append_nil]
  | @more name before after text names isName blankBefore blankAfter further induction =>
      have layout :
          (name ++ before ++ "," ++ after ++ text).toList =
            name.toList ++ (before.toList ++ ',' :: (after.toList ++ text.toList)) := by
        simp
      rcases induction with ⟨next, rest, isNext, isText⟩
      have joined := further.nextName?_comma blankBefore blankAfter isNext
      rw [layout]
      simp only [List.append_assoc, List.cons_append]
      refine ⟨_, _, isName.name?_append (endsName_blanks_comma blankBefore _), ?_⟩
      rw [furtherNames_of_some joined, ← isText]
      simp

theorem Lists.list?_append {names : List String} {text : String} (lists : Lists names text)
    {gap : String} (blank : IsBlankText gap) {trail : List Char} (ends : EndsName trail)
    (finished : nextName? trail = none) :
    list? (gap.toList ++ (text.toList ++ trail)) = some text.toList := by
  rcases lists.exists_name?_append ends finished with ⟨name, rest, isName, isText⟩
  rw [list?, (lists.isBlank_append blank trail).2]
  rcases lists.exists_letter with ⟨letter, further, isSplit, isLetter⟩
  rw [isSplit] at isName ⊢
  split
  next star =>
    cases star
    cases isLetter
  next =>
    rw [isName, Option.map_some, ← isSplit]
    exact congrArg some isText

/-! ## Pieces -/

/-- A text without the separator is the first piece, up to the separator behind it. -/
theorem splitAt_append_cons {separator : Char} {piece : List Char} (absent : separator ∉ piece)
    (rest : List Char) :
    Text.splitAt separator (piece ++ separator :: rest) = piece :: Text.splitAt separator rest := by
  induction piece with
  | nil => rw [List.nil_append, Text.splitAt, if_pos (beq_self_eq_true separator)]
  | cons character piece induction =>
      rw [List.mem_cons, not_or] at absent
      rw [List.cons_append, Text.splitAt, if_neg (by simpa using Ne.symm absent.1),
        induction absent.2]

theorem splitAt_of_notMem {separator : Char} {piece : List Char} (absent : separator ∉ piece) :
    Text.splitAt separator piece = [piece] := by
  induction piece with
  | nil => rfl
  | cons character piece induction =>
      rw [List.mem_cons, not_or] at absent
      rw [Text.splitAt, if_neg (by simpa using Ne.symm absent.1), induction absent.2]

/-- A name holds neither blanks nor commas. -/
theorem IsName.of_mem {name : String} (isName : IsName name) {character : Char}
    (member : character ∈ name.toList) :
    isBlank character = false ∧ character ≠ ',' := by
  rcases isName with ⟨first, rest, isSplit, letter, continued⟩
  have plain : character.isAlphanum = true ∨ character = '_' ∨ character = '-' := by
    rw [isSplit] at member
    rcases List.mem_cons.mp member with rfl | later
    · exact Or.inl (by rw [Char.isAlphanum, letter, Bool.true_or])
    · exact continued character later
  rcases plain with plain | rfl | rfl
  · refine ⟨Text.isBlank_eq_false plain, ?_⟩
    rintro rfl
    cases plain
  · exact ⟨rfl, by decide⟩
  · exact ⟨rfl, by decide⟩

/-- A name and the blanks around it hold no comma. -/
theorem IsName.comma_notMem {name before after : String} (isName : IsName name)
    (blankBefore : IsBlankText before) (blankAfter : IsBlankText after) :
    ',' ∉ before.toList ++ name.toList ++ after.toList := by
  rw [List.mem_append, List.mem_append]
  rintro ((inBefore | inName) | inAfter)
  · exact absurd (blankBefore ',' inBefore) (by decide)
  · exact (isName.of_mem inName).2 rfl
  · exact absurd (blankAfter ',' inAfter) (by decide)

/-- A name with blanks around it is trimmed to the name, and kept. -/
theorem IsName.names_eq {name before after : String} (isName : IsName name)
    (blankBefore : IsBlankText before) (blankAfter : IsBlankText after)
    (pieces : List (List Char)) :
    (((before.toList ++ name.toList ++ after.toList) :: pieces).map fun piece =>
        Text.trim (String.ofList piece)).filter (· != "") =
      name :: (pieces.map fun piece => Text.trim (String.ofList piece)).filter (· != "") := by
  have nonempty : name.toList ≠ [] := by
    rcases isName with ⟨first, rest, isSplit, _⟩
    rw [isSplit]
    exact List.cons_ne_nil first rest
  have trimmed :
      Text.trim (String.ofList (before.toList ++ name.toList ++ after.toList)) = name := by
    rw [Text.trim, String.toList_ofList, Text.trimChars_append blankBefore nonempty
      (fun _ member => (isName.of_mem member).1) blankAfter, String.ofList_toList]
  have kept : (name != "") = true := by
    rw [bne_iff_ne]
    rintro rfl
    exact nonempty rfl
  rw [List.map_cons, trimmed]
  exact List.filter_cons_of_pos kept

/-- The names of the text of a list are those that it lists, also behind blanks. -/
theorem Lists.names_append {names : List String} {text : String} (lists : Lists names text)
    {gap : String} (blank : IsBlankText gap) :
    Marker.names (gap.toList ++ text.toList) = names := by
  have noBlanks : IsBlankText "" := by decide
  induction lists generalizing gap with
  | @last name isName =>
      have absent := isName.comma_notMem blank noBlanks
      have trimmed := isName.names_eq blank noBlanks []
      simp only [String.toList_empty, List.append_nil] at absent trimmed
      rw [Marker.names, splitAt_of_notMem absent]
      exact trimmed
  | @more name before after text names isName blankBefore blankAfter further induction =>
      have layout :
          gap.toList ++ (name ++ before ++ "," ++ after ++ text).toList =
            gap.toList ++ name.toList ++ before.toList ++
              ',' :: (after.toList ++ text.toList) := by
        simp
      rw [layout, Marker.names, splitAt_append_cons (isName.comma_notMem blank blankBefore),
        isName.names_eq blank blankBefore]
      exact congrArg (name :: ·) (induction blankAfter)

/-! ## Markers -/

/--
What follows a list ends its last name, and the first character that is no blank joins no
further name.
-/
structure EndsList (text : String) : Prop where
  ends : ∀ character ∈ text.toList.head?, isWordChar character = false ∧ character ≠ '-'
  noComma : ∀ character ∈ (text.toList.dropWhile isBlank).head?, character ≠ ','

theorem EndsList.endsName {trail : String} (ended : EndsList trail) : EndsName trail.toList := by
  intro character isFirst
  rcases ended.ends character isFirst with ⟨noWordChar, noHyphen⟩
  rw [continuesName, noWordChar, Bool.false_or, beq_eq_false_iff_ne]
  exact noHyphen

theorem EndsList.nextName?_eq_none {trail : String} (ended : EndsList trail) :
    nextName? trail.toList = none := by
  rw [nextName?]
  split
  · next isComma => exact absurd rfl (ended.noComma ',' (by rw [isComma]; rfl))
  · rfl

/-- A marker is read as the names that it lists. -/
theorem parse?_eq_some_names {lead spelling gap listed trail : String} {names : List String}
    (unmarked : ¬ HoldsWord lead.toList)
    (bounded : ∀ character ∈ lead.toList.getLast?, isWordChar character = false)
    (spelled : spelling.toList.map Char.toLower = word)
    (blank : IsBlankText gap)
    (lists : Lists names listed)
    (ended : EndsList trail) :
    parse? (lead ++ spelling ++ gap ++ listed ++ trail) = some names := by
  have layout :
      (lead ++ spelling ++ gap ++ listed ++ trail).toList =
        lead.toList ++ (spelling.toList ++ (gap.toList ++ (listed.toList ++ trail.toList))) := by
    simp
  have boundary : (lead.toList.getLast?.or none).any isWordChar = false := by
    rw [Option.or_none]
    cases isLast : lead.toList.getLast? with
    | none => rfl
    | some character => exact bounded character isLast
  have read := lists.list?_append blank ended.endsName ended.nextName?_eq_none
  have spells := spells_of_map_toLower spelled
  rw [parse?, layout, find?_append unmarked spells, find?_of_spells boundary spells read,
    Option.map_some]
  exact congrArg some (@Lists.names_append names listed lists "" (by decide))

/-- A marker in mixed case with prose on both sides, and blanks in front of its comma. -/
theorem parse?_eq_some_names_mixedCase :
    ¬ HoldsWord "# do not suppress all: ".toList ∧
      Lists ["magic-literal", "ShortName"] "magic-literal \t,ShortName" ∧
      EndsList " because, legacy" ∧
      parse? "# do not suppress all: SupPress:magic-literal \t,ShortName because, legacy" =
        some ["magic-literal", "ShortName"] := by
  have unmarked : ¬ HoldsWord "# do not suppress all: ".toList := by decide
  have magicLiteral : IsName "magic-literal" :=
    ⟨'m', "agic-literal".toList, by decide, rfl, by decide⟩
  have shortName : IsName "ShortName" := ⟨'S', "hortName".toList, by decide, rfl, by decide⟩
  have lists : Lists ["magic-literal", "ShortName"] "magic-literal \t,ShortName" := by
    have joined :
        "magic-literal \t,ShortName" = "magic-literal" ++ " \t" ++ "," ++ "" ++ "ShortName" := by
      decide
    rw [joined]
    exact .more magicLiteral (by decide) (by decide) (.last shortName)
  have ended : EndsList " because, legacy" :=
    { ends := by
        rintro _ ⟨⟩
        decide
      noComma := by
        rintro _ ⟨⟩
        decide }
  have bounded :
      ∀ character ∈ "# do not suppress all: ".toList.getLast?, isWordChar character = false := by
    rintro _ ⟨⟩
    decide
  have read :
      parse? ("# do not suppress all: " ++ "SupPress:" ++ "" ++ "magic-literal \t,ShortName" ++
        " because, legacy") = some ["magic-literal", "ShortName"] :=
    parse?_eq_some_names unmarked bounded (by decide) (by decide) lists ended
  exact ⟨unmarked, lists, ended, read⟩

end StructuralLint.Marker
