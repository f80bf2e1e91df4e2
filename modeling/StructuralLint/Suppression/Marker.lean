import StructuralLint.Text.Char

/-!
# Suppression markers

A comment silences rules by the word `suppress:` in any case, followed by a star or by names
separated by commas. The word starts at a word boundary, blanks may stand after the colon and around
the commas, and the list ends with the last name that a comma joins to it.
-/

namespace StructuralLint.Marker

/-- The word that opens a marker. -/
def word : List Char := "suppress:".toList

/--
Characters that start a name: the letters of ASCII and the two letters beyond it that fold to
one.
-/
def startsName (character : Char) : Bool :=
  character.isAlpha || character.toNat == 0x17F || character.toNat == 0x212A

/-- Characters that continue a name. -/
def continuesName (character : Char) : Bool :=
  Text.isWordChar character || character == '-'

/-- A name at the start of the text, and the rest. -/
def name? : List Char → Option (List Char × List Char)
  | [] => none
  | first :: more =>
      if startsName first then
        some (first :: more.takeWhile continuesName, more.dropWhile continuesName)
      else none

/-- The text of a comma and the name behind it, with blanks around the comma, and the rest. -/
def nextName? (characters : List Char) : Option (List Char × List Char) :=
  match characters.dropWhile Text.isBlank with
  | ',' :: rest =>
      (name? (rest.dropWhile Text.isBlank)).map fun (name, after) =>
        (characters.takeWhile Text.isBlank ++ ',' :: (rest.takeWhile Text.isBlank ++ name), after)
  | _ => none

theorem length_lt_of_name? {characters name rest : List Char}
    (found : name? characters = some (name, rest)) : rest.length < characters.length := by
  cases characters with
  | nil => simp [name?] at found
  | cons first more =>
      simp only [name?, Option.ite_none_right_eq_some, Option.some.injEq, Prod.mk.injEq] at found
      have shorter : (more.dropWhile continuesName).length ≤ more.length :=
        (List.dropWhile_suffix _).length_le
      simp only [List.length_cons, ← found.2.2]
      omega

theorem length_lt_of_nextName? {characters joined rest : List Char}
    (found : nextName? characters = some (joined, rest)) : rest.length < characters.length := by
  have spaced : (characters.dropWhile Text.isBlank).length ≤ characters.length :=
    (List.dropWhile_suffix _).length_le
  unfold nextName? at found
  split at found
  · next tail comma =>
    rcases Option.map_eq_some_iff.mp found with ⟨⟨name, after⟩, isName, equal⟩
    cases equal
    have trimmed : (tail.dropWhile Text.isBlank).length ≤ tail.length :=
      (List.dropWhile_suffix _).length_le
    have named := length_lt_of_name? isName
    simp only [comma, List.length_cons] at spaced
    omega
  · simp at found

/-- The text of the names that commas join to a list. -/
def furtherNames (characters : List Char) : List Char :=
  match _ : nextName? characters with
  | some (joined, rest) => joined ++ furtherNames rest
  | none => []
termination_by characters.length
decreasing_by exact length_lt_of_nextName? ‹_›

/-- The text of the list after the word that opens a marker. -/
def list? (characters : List Char) : Option (List Char) :=
  match characters.dropWhile Text.isBlank with
  | '*' :: _ => some ['*']
  | trimmed => (name? trimmed).map fun (name, rest) => name ++ furtherNames rest

/--
The text of the list of the first marker in the text; `previous` is the character before it.
-/
def find? (previous : Option Char) : List Char → Option (List Char)
  | [] => none
  | character :: rest =>
      let here :=
        if previous.any Text.isWordChar then none
        else (Text.afterFolded? word (character :: rest)).bind list?
      match here with
      | some list => some list
      | none => find? (some character) rest

/-- The names of a list: the pieces between its commas without blanks around them. -/
def names (list : List Char) : List String :=
  ((Text.splitAt ',' list).map fun piece => Text.trim (String.ofList piece)).filter (· != "")

/--
The names of the marker in a comment, or nothing if it carries none.  A star is a name of its own.
-/
def parse? (comment : String) : Option (List String) :=
  (find? none comment.toList).map names

end StructuralLint.Marker
