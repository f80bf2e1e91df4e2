import StructuralLint.Cli.Disk
import StructuralLint.Cli.Ignore

/-!
# The ignore list of the user

A list that counts in every repository. The user's settings of the version control name its file,
those in the home directory before those in the directory of settings; if neither does, it lies at a
fixed place in the directory of settings.
-/

namespace StructuralLint.Cli

namespace ExcludesSetting

/-- Blanks and line breaks of ASCII. -/
def isSpace (character : Char) : Bool :=
  (9 ≤ character.toNat && character.toNat ≤ 13) || character == ' '

/-- The name of the setting, in small letters. -/
def name : List Char := "excludesfile".toList

/-- Whether nothing but blanks stands up to the end of the line. -/
def endsLine (characters : List Char) : Bool :=
  (characters.takeWhile isSpace).contains '\n' || characters.all isSpace

/-- Whether nothing but blanks and perhaps a quote stand up to the end of the line. -/
def closes (characters : List Char) : Bool :=
  endsLine characters ||
    match characters.dropWhile isSpace with
    | '"' :: rest => endsLine rest
    | _ => false

/-- The shortest word that only the end of the line follows. -/
def word? (characters : List Char) : Option (List Char) :=
  let word := characters.takeWhile (!isSpace ·)
  (List.range word.length).findSome? fun length =>
    if closes (characters.drop (length + 1)) then some (characters.take (length + 1)) else none

/-- The value of the setting if the text starts with it; the value may be quoted. -/
def value? (characters : List Char) : Option (List Char) :=
  let rest := characters.dropWhile isSpace
  if (rest.take name.length).map Char.toLower != name then none
  else
    match (rest.drop name.length).dropWhile isSpace with
    | '=' :: value =>
        match value.dropWhile isSpace with
        | '"' :: quoted => (word? (quoted.dropWhile isSpace)).or (word? ('"' :: quoted))
        | bare => word? bare
    | _ => none

/-- The value of the setting on the first line that has it. -/
def find? : List Char → Option (List Char)
  | [] => none
  | '\n' :: rest => (value? rest).or (find? rest)
  | _ :: rest => find? rest

end ExcludesSetting

/--
The file that settings of the version control name; a tilde in it stands for the home
directory.
-/
def excludesFile? (home : Option String) (settings : String) : Option String :=
  (ExcludesSetting.find? ('\n' :: settings.toList)).map fun value =>
    match home with
    | some home =>
        String.ofList (value.flatMap fun character =>
          if character == '~' then home.toList else [character])
    | none => String.ofList value

variable {m : Type → Type} [Monad m]

/-- The patterns in a file, none if it cannot be read. -/
def Disk.patterns (disk : Disk m) (path : String) : m (List IgnorePattern) := do
  match ← disk.readText path with
  | .ok text => return ignorePatterns text
  | .error _ => return []

/-- The file that the settings in a file name. -/
def Disk.excludesFile? (disk : Disk m) (settings : Option String) : m (Option String) := do
  match settings with
  | none => return none
  | some path =>
      match ← disk.readText path with
      | .ok text => return Cli.excludesFile? (← disk.home?) text
      | .error _ => return none

/-- The list of the user. -/
def Disk.userPatterns (disk : Disk m) : m (List IgnorePattern) := do
  let home ← disk.home?
  let settings ← disk.settingsHome?
  let ofHome ← disk.excludesFile? (home.map (joinPath · ".gitconfig"))
  let ofSettings ← disk.excludesFile? (settings.map (joinPath · "git/config"))
  match (ofHome.or ofSettings).or (settings.map (joinPath · "git/ignore")) with
  | none => return []
  | some path =>
      if (← disk.kind? path) == some .file then disk.patterns path else return []

end StructuralLint.Cli
