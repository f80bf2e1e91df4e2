import Mathlib.Data.List.Induction
import StructuralLint.Text.Words

/-!
# Letters of words

Splitting an identifier into words loses none of its letters and numbers: written one after the
other, the words are the small forms of all of them.  This holds of every part of the recursion,
since what is added to the word that is being read is never taken from it again.

The recursion carries the character before the remaining ones along.  A walk over the positions of
the identifier looks it up instead, at the position before a capital, and breaks off where there is
none.  It looks behind only while a word is being read, and a word is being read only after some
character: so the walk never breaks off, and it ends with the words of the recursion.
-/

namespace StructuralLint.Text

/-! ## Letters are kept -/

/--
The small forms of the letters and numbers of a text, in order.  All other characters are signs
that only end words.
-/
def smallForms (characters : List Char) : List Char :=
  (characters.filter isAlphanumeric).flatMap lowerChar

theorem smallForms_cons_of_sign {character : Char} (sign : (!isAlphanumeric character) = true)
    (rest : List Char) : smallForms (character :: rest) = smallForms rest := by
  rw [Bool.not_eq_true'] at sign
  rw [smallForms, List.filter_cons_of_neg (by rw [sign]; decide), smallForms]

theorem smallForms_cons {character : Char} (noSign : ¬(!isAlphanumeric character) = true)
    (rest : List Char) :
    smallForms (character :: rest) = lowerChar character ++ smallForms rest := by
  rw [Bool.not_eq_true', Bool.not_eq_false] at noSign
  rw [smallForms, List.filter_cons_of_pos noSign, List.flatMap_cons, smallForms]

/--
The words that are still read hold the letters of the word that is being read, and then the
small forms of the remaining letters and numbers.
-/
theorem flatten_wordsAfter (previous : Option Char) (current rest : List Char) :
    (wordsAfter previous current rest).flatten = current ++ smallForms rest := by
  induction previous, current, rest using wordsAfter.induct with
  | case1 previous current noWord =>
      rw [wordsAfter, if_pos noWord, List.isEmpty_iff.mp noWord]
      rfl
  | case2 previous current word =>
      rw [wordsAfter, if_neg word, List.flatten_singleton]
      exact (List.append_nil current).symm
  | case3 previous current character rest sign noWord induction =>
      rw [wordsAfter, if_pos sign, if_pos noWord, induction, List.isEmpty_iff.mp noWord,
        smallForms_cons_of_sign sign]
  | case4 previous current character rest sign word induction =>
      rw [wordsAfter, if_pos sign, if_neg word, List.flatten_cons, induction, List.nil_append,
        smallForms_cons_of_sign sign]
  | case5 previous current character rest noSign opens induction =>
      rw [wordsAfter, if_neg noSign, if_pos opens, List.flatten_cons, induction,
        smallForms_cons noSign]
  | case6 previous current character rest noSign continues induction =>
      rw [wordsAfter, if_neg noSign, if_neg continues, induction, List.append_assoc,
        smallForms_cons noSign]

/-- A word ends only when something of it was read. -/
theorem nil_notMem_wordsAfter (previous : Option Char) (current rest : List Char) :
    [] ∉ wordsAfter previous current rest := by
  induction previous, current, rest using wordsAfter.induct with
  | case1 previous current noWord =>
      rw [wordsAfter, if_pos noWord]
      exact List.not_mem_nil
  | case2 previous current word =>
      rw [wordsAfter, if_neg word, List.mem_singleton]
      rintro rfl
      exact word rfl
  | case3 previous current character rest sign noWord induction =>
      rwa [wordsAfter, if_pos sign, if_pos noWord]
  | case4 previous current character rest sign word induction =>
      rw [wordsAfter, if_pos sign, if_neg word, List.mem_cons]
      rintro (rfl | later)
      · exact word rfl
      · exact induction later
  | case5 previous current character rest noSign opens induction =>
      rw [wordsAfter, if_neg noSign, if_pos opens, List.mem_cons]
      rintro (rfl | later)
      · rw [List.isEmpty_nil, Bool.not_true, Bool.and_false, Bool.false_and] at opens
        cases opens
      · exact induction later
  | case6 previous current character rest noSign continues induction =>
      rwa [wordsAfter, if_neg noSign, if_neg continues]

/-! ## The walk over positions -/

/-- The character before a position of a text; there is none before the first position. -/
def behind? (characters : List Char) : Nat → Option Char
  | 0 => none
  | position + 1 => characters[position]?

theorem behind?_length (before after : List Char) :
    behind? (before ++ after) before.length = before.getLast? := by
  cases before using List.reverseRecOn with
  | nil => rfl
  | append_singleton before last =>
      rw [List.length_append, List.length_singleton, behind?, List.append_assoc,
        List.getElem?_append_right (Nat.le_refl _), Nat.sub_self, List.getLast?_concat]
      rfl

theorem getElem?_length_add_one (before rest : List Char) (character : Char) :
    (before ++ character :: rest)[before.length + 1]? = rest.head? := by
  have behindBefore : before.length ≤ before.length + 1 := Nat.le_succ _
  rw [List.getElem?_append_right behindBefore, Nat.add_sub_cancel_left, List.getElem?_cons_succ,
    List.head?_eq_getElem?]

/-- The words that have ended, and the characters of the word that is being read. -/
structure WordWalk where
  ended : List (List Char) := []
  current : List Char := []

namespace WordWalk

/-- The walk after the word that is being read, if any, has ended. -/
def flush (walk : WordWalk) : WordWalk :=
  if walk.current.isEmpty then walk
  else { ended := walk.ended ++ [walk.current], current := [] }

/-- The walk after a letter or number was added to the word that is being read. -/
def read (walk : WordWalk) (character : Char) : WordWalk :=
  { walk with current := walk.current ++ lowerChar character }

/--
The walk after the character at a position of a text.  At a capital it looks behind while a word
is being read, and it breaks off where no character stands before the position.
-/
def step? (characters : List Char) (walk : WordWalk) (position : Nat) (character : Char) :
    Option WordWalk :=
  if !isAlphanumeric character then some walk.flush
  else if isCapital character && !walk.current.isEmpty then
    (behind? characters position).map fun previous =>
      if opensWord (some previous) characters[position + 1]? then walk.flush.read character
      else walk.read character
  else some (walk.read character)

/-- The walk over some characters of a text with their positions. -/
def steps? (characters : List Char) (walk : WordWalk) (placed : List (Char × Nat)) :
    Option WordWalk :=
  placed.foldlM (fun walk (character, position) => walk.step? characters position character) walk

theorem steps?_cons (characters : List Char) (walk : WordWalk) (character : Char) (position : Nat)
    (placed : List (Char × Nat)) :
    walk.steps? characters ((character, position) :: placed) =
      (walk.step? characters position character).bind fun next => next.steps? characters placed :=
  rfl

/-- One step between two known neighbours. -/
def next (walk : WordWalk) (previous following : Option Char) (character : Char) : WordWalk :=
  if !isAlphanumeric character then walk.flush
  else if isCapital character && !walk.current.isEmpty && opensWord previous following then
    walk.flush.read character
  else walk.read character

/-- The words that the walk has found when it has read the remaining characters. -/
def found (walk : WordWalk) (previous : Option Char) (rest : List Char) : List (List Char) :=
  walk.ended ++ wordsAfter previous walk.current rest

theorem flush_of_isEmpty {walk : WordWalk} (noWord : walk.current.isEmpty = true) :
    walk.flush = walk := by
  rw [flush, if_pos noWord]

theorem flush_of_not_isEmpty {walk : WordWalk} (word : ¬walk.current.isEmpty = true) :
    walk.flush = { ended := walk.ended ++ [walk.current], current := [] } := by
  rw [flush, if_neg word]

theorem found_nil (walk : WordWalk) (previous : Option Char) :
    walk.found previous [] = walk.flush.ended := by
  by_cases noWord : walk.current.isEmpty = true
  · rw [found, wordsAfter, if_pos noWord, List.append_nil, flush_of_isEmpty noWord]
  · rw [found, wordsAfter, if_neg noWord, flush_of_not_isEmpty noWord]

/-- A step changes nothing about the words that are found. -/
theorem found_cons (walk : WordWalk) (previous : Option Char) (character : Char)
    (rest : List Char) :
    walk.found previous (character :: rest) =
      (walk.next previous rest.head? character).found (some character) rest := by
  rw [found, wordsAfter, next]
  split
  · by_cases noWord : walk.current.isEmpty = true
    · rw [if_pos noWord, flush_of_isEmpty noWord, found, List.isEmpty_iff.mp noWord]
    · rw [if_neg noWord, flush_of_not_isEmpty noWord, found, List.append_assoc]
      rfl
  · split
    · next opens =>
        simp only [Bool.and_eq_true, Bool.not_eq_true', ← Bool.not_eq_true] at opens
        rw [flush_of_not_isEmpty opens.1.2, found, read, List.append_assoc, List.nil_append]
        rfl
    · rfl

/-- A word is read only after some character, so the step finds what it looks behind at. -/
theorem step?_eq_some {walk : WordWalk} {before : List Char}
    (after : walk.current ≠ [] → before ≠ []) (character : Char) (rest : List Char) :
    walk.step? (before ++ character :: rest) before.length character =
      some (walk.next before.getLast? rest.head? character) := by
  rw [step?, next, behind?_length, getElem?_length_add_one]
  split
  · rfl
  · split
    · next looksBehind =>
        have word : walk.current ≠ [] := by
          intro noWord
          rw [noWord, List.isEmpty_nil, Bool.not_true, Bool.and_false] at looksBehind
          cases looksBehind
        rw [List.getLast?_eq_some_getLast (after word), looksBehind, Bool.true_and, Option.map_some]
    · next goesOn =>
        rw [Bool.not_eq_true] at goesOn
        rw [goesOn, Bool.false_and]
        rfl

/-- Where a word is read before any character, the walk does break off. -/
example : WordWalk.step? ['A'] { current := ['a'] } 0 'A' = none := by
  rfl

/-- The walk over the rest of a text never breaks off and ends with the words of the recursion. -/
theorem exists_steps?_eq_some (walk : WordWalk) (before rest : List Char)
    (after : walk.current ≠ [] → before ≠ []) :
    ∃ last, walk.steps? (before ++ rest) (rest.zipIdx before.length) = some last ∧
      last.flush.ended = walk.found before.getLast? rest := by
  -- A step moves a character from the rest to what was read before, so behind it the condition
  -- holds whether or not a word is being read.
  induction rest generalizing walk before with
  | nil => exact ⟨walk, rfl, (found_nil walk _).symm⟩
  | cons character rest induction =>
      rcases induction (walk.next before.getLast? rest.head? character) (before ++ [character])
        fun _ => List.concat_ne_nil _ _ with ⟨last, isLast, found⟩
      refine ⟨last, ?_, ?_⟩
      · rw [List.length_append, List.length_singleton, ← List.append_cons] at isLast
        rw [List.zipIdx_cons, steps?_cons, step?_eq_some after]
        exact isLast
      · rw [found, List.getLast?_concat, found_cons]

end WordWalk

/-- The words of an identifier by the walk over its positions, unless it breaks off. -/
def words? (name : String) : Option (List String) :=
  (WordWalk.steps? name.toList {} name.toList.zipIdx).map fun last =>
    last.flush.ended.map String.ofList

theorem words?_eq_some (name : String) : words? name = some (words name) := by
  rcases WordWalk.exists_steps?_eq_some {} [] name.toList (fun word => word) with
    ⟨last, isLast, found⟩
  rw [List.nil_append, List.length_nil] at isLast
  rw [words?, isLast, Option.map_some, found]
  rfl

theorem toList_join_map_ofList (words : List (List Char)) :
    (String.join (words.map String.ofList)).toList = words.flatten := by
  simp only [String.toList_join, List.flatMap_map, String.toList_ofList, List.flatMap_id']

theorem join_words (name : String) :
    String.join (words name) = String.ofList (smallForms name.toList) := by
  rw [← String.toList_inj, words, toList_join_map_ofList, flatten_wordsAfter, String.toList_ofList,
    List.nil_append]

theorem empty_notMem_words (name : String) : "" ∉ words name := by
  intro isWord
  rcases List.mem_map.mp isWord with ⟨word, member, empty⟩
  rw [← String.toList_inj, String.toList_ofList] at empty
  rw [empty] at member
  exact nil_notMem_wordsAfter none [] name.toList member

/--
Whatever an identifier holds, the walk over its positions never looks behind its first character
and ends with its words.  None of them is empty, and written one after the other they are the small
forms of its letters and numbers.
-/
theorem words_keep_letters (name : String) :
    words? name = some (words name) ∧ "" ∉ words name ∧
      String.join (words name) = String.ofList (smallForms name.toList) :=
  ⟨words?_eq_some name, empty_notMem_words name, join_words name⟩

/-- A run of capitals is one word, up to its last capital before a small letter. -/
example : words "parseHTTPRequest_2" = ["parse", "http", "request", "2"] := by
  decide

end StructuralLint.Text
