import StructuralLint.Cli.Glob

/-!
# Ignored files

Lists of patterns tell which files below a directory are left out. The last pattern of a list that
fits decides, and a pattern after an exclamation mark keeps what it fits. A pattern with a slash
inside or at the start fits paths from the directory on, any other fits names at any depth; one with
a slash at the end fits directories only.

Lists named `.ignore` always count. Those named `.gitignore`, the list of a repository and the list
of the user count only inside a repository, the first two not beyond its root. Of lists of one sort
the innermost that has a say decides.
-/

namespace StructuralLint.Cli

/-- The bytes of a path. -/
def pathBytes (path : String) : List UInt8 :=
  path.toUTF8.toList

/-- A pattern of a list. -/
structure IgnorePattern where
  pieces : List GlobPiece
  /-- The pattern keeps what it fits. -/
  keeps : Bool
  directoriesOnly : Bool

namespace IgnorePattern

/-- A line without the blanks at its end, unless the last of them is escaped. -/
def trimLine (line : List Char) : List Char :=
  if [' ', '\\'].isPrefixOf line.reverse then line else Text.trimEnd line

/--
A pattern without the slash at its end and the backslash before that, and whether there was a
slash.
-/
def withoutSlash (pattern : List Char) : List Char × Bool :=
  match pattern.reverse with
  | '/' :: '\\' :: before => (before.reverse, true)
  | '/' :: before => (before.reverse, true)
  | _ => (pattern, false)

/--
A pattern as it fits whole paths: without a slash it fits names at any depth, and two stars at
its end stand for at least one name.
-/
def wholePath (isAnchored : Bool) (pattern : List Char) : List Char :=
  let stars := "**".toList
  let deep :=
    if isAnchored || pattern.contains '/' || pattern == stars then pattern
    else stars ++ '/' :: pattern
  if "**/".toList.isPrefixOf deep.reverse then deep ++ "/*".toList else deep

/-- The pattern after its marks. -/
def ofMarked? (keeps isAnchored : Bool) (pattern : List Char) : Option IgnorePattern :=
  let (pattern, directoriesOnly) := withoutSlash pattern
  (Glob.read? (wholePath isAnchored pattern)).map fun pieces => { pieces, keeps, directoriesOnly }

/-- The pattern of a line. Blank lines, those after a hash and malformed patterns have none. -/
def ofLine? (line : List Char) : Option IgnorePattern :=
  if line.head? == some '#' then none
  else
    match trimLine line with
    | [] => none
    | '\\' :: '!' :: rest => ofMarked? false false ('!' :: rest)
    | '\\' :: '#' :: rest => ofMarked? false false ('#' :: rest)
    | '!' :: '/' :: rest => ofMarked? true true rest
    | '!' :: rest => ofMarked? true false rest
    | '/' :: rest => ofMarked? false true rest
    | pattern => ofMarked? false false pattern

/-- Whether a pattern fits a path. -/
def fits (pattern : IgnorePattern) (path : List UInt8) (isDirectory : Bool) : Bool :=
  (isDirectory || !pattern.directoriesOnly) && Glob.fits pattern.pieces path

end IgnorePattern

/-- The patterns of a list. Byte order marks at its start do not count. -/
def ignorePatterns (text : String) : List IgnorePattern :=
  match Text.lines text with
  | [] => []
  | first :: rest =>
      ((first.dropWhile (·.toNat == 0xFEFF)) :: rest).filterMap IgnorePattern.ofLine?

/-- Whether a list leaves out a path, if it has a say. -/
def leavesOut? (patterns : List IgnorePattern) (path : List UInt8) (isDirectory : Bool) :
    Option Bool :=
  (patterns.reverse.find? fun pattern => pattern.fits path isDirectory).map (!·.keeps)

/-- The lists of a directory. -/
structure IgnoreLayer where
  /-- The names on the way from the root to the directory. -/
  base : List String
  always : List IgnorePattern
  inRepository : List IgnorePattern
  /-- The list that the repository itself holds. -/
  ofRepository : List IgnorePattern
  /-- The directory is the root of a repository. -/
  isRepository : Bool

namespace IgnoreLayer

/-- The layers up to the root of the repository, if there is one. -/
def repositoryLayers (layers : List IgnoreLayer) : List IgnoreLayer :=
  match layers.findIdx? (·.isRepository) with
  | some position => layers.take (position + 1)
  | none => []

/-- The say of the innermost list of one sort on the path of some names from the root. -/
def say? (layers : List IgnoreLayer) (sort : IgnoreLayer → List IgnorePattern)
    (names : List String) (isDirectory : Bool) : Option Bool :=
  layers.findSome? fun layer =>
    leavesOut? (sort layer) (pathBytes ("/".intercalate (names.drop layer.base.length))) isDirectory

end IgnoreLayer

/-- The lists that count in a directory. -/
structure IgnoreLists where
  /-- The lists of the directory and those around it, innermost first. -/
  layers : List IgnoreLayer
  /-- The list of the user, on paths from the current directory. -/
  ofUser : List IgnorePattern

/--
Whether the lists leave out an entry: `names` lead to it from the root, and `path` does from the
current directory.
-/
def IgnoreLists.leaveOut (lists : IgnoreLists) (names : List String) (path : String)
    (isDirectory : Bool) : Bool :=
  let repository := IgnoreLayer.repositoryLayers lists.layers
  let ofUser := if repository.isEmpty then [] else lists.ofUser
  ((IgnoreLayer.say? lists.layers (·.always) names isDirectory).or
    ((IgnoreLayer.say? repository (·.inRepository) names isDirectory).or
      ((IgnoreLayer.say? repository (·.ofRepository) names isDirectory).or
        (leavesOut? ofUser (pathBytes path) isDirectory)))).getD false

end StructuralLint.Cli
