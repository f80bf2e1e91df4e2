import StructuralLint.Cli.Run

/-!
# The program

Connects the command line to the files, the environment and the output of the process.
-/

namespace StructuralLint.Cli

/-- The fault with a number of the operating system; the number may come negated. -/
def faultOfCode (code : UInt32) (details : String) : ReadFault :=
  match if code < 0x80000000 then code else -code with
  | 2 => .missing
  | 20 => .notDirectory
  | 21 => .isDirectory
  | number => .other (details ++ " (os error " ++ toString number ++ ")")

/-- The fault of a failed access. -/
def faultOf : IO.Error → ReadFault
  | .noFileOrDirectory _ code details => faultOfCode code details
  | .inappropriateType _ code details => faultOfCode code details
  | .permissionDenied _ code details => faultOfCode code details
  | error => .other (toString error)

/-- The kind of an entry by its type. -/
def kindOf : IO.FS.FileType → EntryKind
  | .dir => .directory
  | .file => .file
  | _ => .other

/-- What lies at a path; links are followed. -/
def kindOnDisk? (path : String) : IO (Option EntryKind) := do
  let here ← IO.currentDir
  try return some (kindOf (← (here / path).metadata).type)
  catch _ => return none

/-- The names in a directory; links are followed to files only. -/
def listOnDisk (path : String) : IO (List (String × EntryKind)) := do
  let here ← IO.currentDir
  try
    let entries ← (here / path).readDir
    entries.toList.mapM fun entry => do
      let isLink := (← entry.path.symlinkMetadata).type matches .symlink
      let kind ← try pure (kindOf (← entry.path.metadata).type) catch _ => pure .other
      return (entry.fileName, if isLink && kind == .directory then .other else kind)
  catch _ => return []

/-- The files of the process. -/
def processDisk : Disk IO where
  read path := do
    try return .ok (← IO.FS.readBinFile path)
    catch error => return .error (faultOf error)
  kind? := kindOnDisk?
  list := listOnDisk
  absolute? path := do
    try return some (((← IO.FS.realPath path).components).filter (· != ""))
    catch _ => return none
  home? := IO.getEnv "HOME"
  settingsHome? := do
    match ← IO.getEnv "XDG_CONFIG_HOME" with
    | some directory =>
        if directory.isEmpty then return (← IO.getEnv "HOME").map (joinPath · ".config")
        else return some directory
    | none => return (← IO.getEnv "HOME").map (joinPath · ".config")

end StructuralLint.Cli

/-- Runs the program. -/
def main (arguments : List String) : IO UInt32 := do
  let environment ← IO.getEnv StructuralLint.Cli.configVariable
  let start ← IO.monoMsNow
  let outcome ← StructuralLint.Cli.run {} StructuralLint.Adapter.silent
    StructuralLint.Cli.processDisk environment arguments
  let duration := (← IO.monoMsNow) - start
  (outcome.output duration).forM IO.println
  outcome.errors.forM IO.eprintln
  return outcome.status
