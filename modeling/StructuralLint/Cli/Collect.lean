import StructuralLint.Cli.UserIgnore
import StructuralLint.Engine

/-!
# Files to analyze

A path that names a file stands for this file. A directory stands for all files below it that an
adapter is registered for and no list leaves out, in the order of their paths; of these, files that
cannot be read are skipped.
-/

namespace StructuralLint.Cli

variable {m : Type → Type} [Monad m]

/-- The first line of a file that has one. -/
def Disk.firstLine? (disk : Disk m) (path : String) : m (Option String) := do
  match ← disk.readText path with
  | .ok text => return (Text.lines text).head?.map String.ofList
  | .error _ => return none

/--
The directory that holds what all working copies of a repository share: the entry `.git`, or the
one that it leads to if it is a file.
-/
def Disk.sharedDirectory? (disk : Disk m) (repository : String) : m (Option String) := do
  if (← disk.kind? repository) != some .file then return some repository
  match (← disk.firstLine? repository).bind fun line => line.dropPrefix? "gitdir: " with
  | none => return none
  | some copy =>
      let copy := copy.toString
      return (← disk.firstLine? (joinPath copy "commondir")).map fun shared =>
        if shared.startsWith "." then joinPath copy shared else shared

/-- The list that a repository itself holds. -/
def Disk.repositoryPatterns (disk : Disk m) (repository : String) : m (List IgnorePattern) := do
  match ← disk.sharedDirectory? repository with
  | some directory => disk.patterns (joinPath directory "info/exclude")
  | none => return []

/-- The lists of a directory; `base` are the names from the root to it. -/
def Disk.layer (disk : Disk m) (directory : String) (base : List String) : m IgnoreLayer := do
  let repository := joinPath directory ".git"
  let isMarked := (← disk.kind? repository).isSome
  return {
    base
    always := ← disk.patterns (joinPath directory ".ignore")
    inRepository := ← disk.patterns (joinPath directory ".gitignore")
    ofRepository := ← disk.repositoryPatterns repository
    isRepository := isMarked || (← disk.kind? (joinPath directory ".jj")).isSome }

/-- The lists of the directories around a directory, innermost first. -/
def Disk.layersAbove (disk : Disk m) (base : List String) : m (List IgnoreLayer) :=
  (List.range base.length).reverse.mapM fun count =>
    disk.layer (absolutePath (base.take count)) (base.take count)

/-- Directories are entered down to this depth; no path of the file system is longer. -/
def maxDepth : Nat := 4096

/-- A path without some text at its start. -/
def withoutStart (start path : String) : String :=
  ((path.dropPrefix? start).map (·.toString)).getD path

/-- A path as it leads from the current directory on. -/
def fromCurrent (current path : String) : String :=
  let bare := withoutStart "./" (withoutStart "./" path)
  match bare.dropPrefix? current with
  | some rest => withoutStart "/" rest.toString
  | none => bare

/-- The files below a directory that no list leaves out, down to a depth. -/
def Disk.filesBelow (disk : Disk m) (current : String) :
    Nat → IgnoreLists → String → List String → m (List String)
  | 0, _, _, _ => return []
  | depth + 1, above, directory, base => do
    let lists := { above with layers := (← disk.layer directory base) :: above.layers }
    let entries ← disk.list directory
    let found ← entries.mapM fun (name, kind) => do
      let path := joinPath directory name
      let names := base ++ [name]
      if lists.leaveOut names (fromCurrent current path) (kind == .directory) then return []
      match kind with
      | .file => return [path]
      | .directory => disk.filesBelow current depth lists path names
      | .other => return []
    return found.flatten

/-- The path that stands for the standard input, which holds no files. -/
def standardInput : SourcePath := ⟨"-"⟩

/-- The files that a directory stands for. -/
def Disk.filesIn (disk : Disk m) (adapters : AdapterSet) (directory : String) :
    m (List String) := do
  if SourcePath.same ⟨directory⟩ standardInput then return []
  let current := absolutePath ((← disk.absolute? ".").getD [])
  let base := (← disk.absolute? directory).getD []
  let lists : IgnoreLists :=
    { layers := ← disk.layersAbove base, ofUser := ← disk.userPatterns }
  let found ← disk.filesBelow current maxDepth lists directory base
  let supported := found.filter fun path => (adapters.forPath? ⟨path⟩).isSome
  return supported.mergeSort fun left right => SourcePath.order ⟨left⟩ ⟨right⟩ != .gt

/-- A file with its contents. -/
def Disk.source (disk : Disk m) (path : String) : m (Except ReadFault SourceFile) := do
  return (← disk.readText path).map fun contents => { path := ⟨path⟩, contents }

/-- The files that a path stands for, or why the file that it names cannot be read. -/
def Disk.sourcesAt (disk : Disk m) (adapters : AdapterSet) (path : String) :
    m (Except ReadFault (List SourceFile)) := do
  if (← disk.kind? path) == some .directory then
    let sources ← (← disk.filesIn adapters path).mapM disk.source
    return .ok (sources.filterMap Except.toOption)
  else
    return (← disk.source path).map fun source => [source]

end StructuralLint.Cli
