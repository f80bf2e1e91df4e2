import StructuralLint.Text.Char

/-!
# Files and directories

What the program needs of a file system, in any monad, and the file system that a list of files
forms. The files lie below one directory, which is the current directory and the home directory, and
there are no other directories than those on the way to it and to the files.
-/

namespace StructuralLint.Cli

/-- Why a file cannot be read. -/
inductive ReadFault where
  | missing
  | notDirectory
  | isDirectory
  /-- The contents are no text in UTF-8. -/
  | notText
  | other (reason : String)
deriving DecidableEq, Repr

/-- A fault in words. -/
def ReadFault.message : ReadFault → String
  | missing => "No such file or directory (os error 2)"
  | notDirectory => "Not a directory (os error 20)"
  | isDirectory => "Is a directory (os error 21)"
  | notText => "stream did not contain valid UTF-8"
  | other reason => reason

/-- What lies at a path. -/
inductive EntryKind where
  | file
  | directory
  /-- Neither, or a link to a directory. -/
  | other
deriving DecidableEq, Repr

/-- Access to files and directories. -/
structure Disk (m : Type → Type) where
  read : String → m (Except ReadFault ByteArray)
  /-- What lies at a path; links are followed. -/
  kind? : String → m (Option EntryKind)
  /-- The names in a directory; links are followed to files only. -/
  list : String → m (List (String × EntryKind))
  /-- The names on the way from the root to a directory. -/
  absolute? : String → m (Option (List String))
  /-- The home directory of the user. -/
  home? : m (Option String)
  /-- The directory of the user's settings. -/
  settingsHome? : m (Option String)

/-- The text of a file. -/
def Disk.readText {m : Type → Type} [Monad m] (disk : Disk m) (path : String) :
    m (Except ReadFault String) := do
  match ← disk.read path with
  | .error fault => return .error fault
  | .ok bytes =>
      match String.fromUTF8? bytes with
      | some text => return .ok text
      | none => return .error .notText

/-- A path with one more name. -/
def joinPath (directory name : String) : String :=
  if directory.isEmpty || directory.endsWith "/" then directory ++ name
  else directory ++ "/" ++ name

/-- The path of names from the root. -/
def absolutePath (names : List String) : String :=
  "/" ++ "/".intercalate names

/-- A file system that holds some files. -/
structure FileTree where
  /-- The names on the way from the root to the directory that the files lie in. -/
  location : List String := ["work"]
  /-- The names on the way from that directory to each file, and its contents. -/
  files : List (List String × ByteArray) := []

namespace FileTree

/-- The pieces of a path between slashes. -/
def pieces (path : String) : List String :=
  (Text.splitAt '/' path.toList).map String.ofList

/-- Puts a file at a path, in the place of an earlier one. -/
def insert (tree : FileTree) (path : String) (contents : ByteArray) : FileTree :=
  let names := (pieces path).filter fun piece => piece != "" && piece != "."
  { tree with files := tree.files.filter (·.1 != names) ++ [(names, contents)] }

/-- The contents of the file with these names. -/
def get? (tree : FileTree) (names : List String) : Option ByteArray :=
  (tree.files.find? fun (file, _) => tree.location ++ file == names).map (·.2)

/-- Whether a directory has these names. -/
def isDirectory (tree : FileTree) (names : List String) : Bool :=
  names.isPrefixOf tree.location ||
    tree.files.any fun (file, _) =>
      names.isPrefixOf (tree.location ++ file) && names.length < (tree.location ++ file).length

/-- Follows one piece of a path. -/
def step (tree : FileTree) (names : List String) (piece : String) :
    Except ReadFault (List String) :=
  if !tree.isDirectory names then .error .notDirectory
  else if piece == "" || piece == "." then .ok names
  else if piece == ".." then .ok names.dropLast
  else
    let next := names ++ [piece]
    if tree.isDirectory next || (tree.get? next).isSome then .ok next else .error .missing

/-- The names that a path leads to from the root or the current directory. -/
def resolve (tree : FileTree) (path : String) : Except ReadFault (List String) :=
  if path.isEmpty then .error .missing
  else (pieces path).foldlM tree.step (if path.startsWith "/" then [] else tree.location)

/-- What lies at names. -/
def kindAt? (tree : FileTree) (names : List String) : Option EntryKind :=
  if tree.isDirectory names then some .directory
  else (tree.get? names).map fun _ => .file

/-- The contents of the file at a path. -/
def read (tree : FileTree) (path : String) : Except ReadFault ByteArray := do
  let names ← tree.resolve path
  match tree.get? names with
  | some contents => return contents
  | none => throw (if tree.isDirectory names then .isDirectory else .missing)

/-- The names in the directory with these names. -/
def namesIn (tree : FileTree) (names : List String) : List String :=
  (tree.files.filterMap fun (file, _) =>
    let path := tree.location ++ file
    if names.isPrefixOf path then (path.drop names.length).head? else none).eraseDups

/-- Access to the files. -/
def disk (tree : FileTree) : Disk Id where
  read path := tree.read path
  kind? path := (tree.resolve path).toOption.bind tree.kindAt?
  list path :=
    match tree.resolve path with
    | .ok names => (tree.namesIn names).map fun name =>
        (name, (tree.kindAt? (names ++ [name])).getD .other)
    | .error _ => []
  absolute? path := (tree.resolve path).toOption
  home? := some (absolutePath tree.location)
  settingsHome? := some (joinPath (absolutePath tree.location) ".config")

end FileTree

end StructuralLint.Cli
