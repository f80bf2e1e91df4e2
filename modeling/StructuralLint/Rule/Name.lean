import StructuralLint.Text.Words

/-!
# Spellings of rule names

A rule may be named in any of the usual spellings: `TooManyArguments`, `tooManyArguments`,
`too_many_arguments` and `too-many-arguments` denote one rule. They are compared by their form in
small letters with hyphens.
-/

namespace StructuralLint.RuleName

/-- The normal form of the remaining characters; `previous` is the character before them. -/
def normalizeAfter (previous : Option Char) : List Char → List Char
  | [] => []
  | character :: rest =>
      let here :=
        if Text.isCapital character then
          if Text.opensWord previous rest.head? then '-' :: Text.lowerChar character
          else Text.lowerChar character
        else if character == '_' then ['-']
        else [character]
      here ++ normalizeAfter (some character) rest

/-- The form of a name that all its spellings share. -/
def normalize (name : String) : String :=
  String.ofList (normalizeAfter none (Text.trimChars name.toList))

end StructuralLint.RuleName
