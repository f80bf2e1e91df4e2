import StructuralLint.Text.Char

/-!
# Words of an identifier

A name such as `parseHTTPRequest` or `parse_http_request` is read as the small words `parse`, `http`
and `request`. A word ends at every character that is neither a letter nor a number, before a
capital that follows a small letter or a digit, and before the last capital of a run that is
followed by a small letter.
-/

namespace StructuralLint.Text

/-- Whether a capital between these neighbours opens a new word. -/
def opensWord (previous next : Option Char) : Bool :=
  previous.any (fun character => isSmall character || character.isDigit) ||
    (previous.any isCapital && next.any isSmall)

/--
The words of the remaining characters, where `current` is the word that is being read and
`previous` the character before them.
-/
def wordsAfter (previous : Option Char) (current : List Char) : List Char → List (List Char)
  | [] => if current.isEmpty then [] else [current]
  | character :: rest =>
      if !isAlphanumeric character then
        if current.isEmpty then wordsAfter (some character) [] rest
        else current :: wordsAfter (some character) [] rest
      else if isCapital character && !current.isEmpty && opensWord previous rest.head? then
        current :: wordsAfter (some character) (lowerChar character) rest
      else wordsAfter (some character) (current ++ lowerChar character) rest

/-- The small words of an identifier, from left to right. -/
def words (name : String) : List String :=
  (wordsAfter none [] name.toList).map String.ofList

end StructuralLint.Text
