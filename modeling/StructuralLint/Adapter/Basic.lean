import StructuralLint.Model.Ingest

/-!
# Adapters

An adapter turns the contents of a file into a model. Adapters are chosen by the file name: the
longest part after a dot that some adapter is registered for decides, in any case of ASCII letters.
What an adapter does with a file is a value: how it ends, how long it takes, and whether it cancels
the run.
-/

namespace StructuralLint

namespace Adapter

/-- How an adapter ends on a file. -/
inductive Outcome where
  | parsed (model : Model)
  /-- The contents are not what the adapter reads. -/
  | rejected (reason : String)
  /-- The nodes form no model. -/
  | invalid (defect : Model.Defect)
  /-- The adapter fails while it reads. -/
  | crashed (reason : String)
  /-- There is no thread for the adapter. -/
  | unstarted (reason : String)
  /-- The adapter ends without a result. -/
  | vanished

/-- What an adapter does with a file. -/
structure Attempt where
  outcome : Outcome
  /-- How long the adapter takes, in milliseconds. -/
  duration : Nat := 0
  /-- Whether the adapter cancels the run meanwhile. -/
  cancels : Bool := false

end Adapter

/-- A reader of some kind of file. -/
structure Adapter where
  name : String
  /-- The endings of file names, without the dot. -/
  extensions : List String
  attempt : String → SourcePath → Adapter.Attempt
  /-- Whether a comment reads like code. -/
  looksLikeCode : String → Bool := fun _ => false

namespace Adapter

/-- Why no model was obtained of a file. -/
inductive Fault where
  | noAdapter (path : SourcePath)
  | failed (adapter : String) (path : SourcePath) (reason : String)
  | timedOut (path : SourcePath) (limit : Nat)
  | disconnected (path : SourcePath)
  | defective (defect : Model.Defect)
deriving DecidableEq, Repr

/-- A fault in words. -/
def Fault.message : Fault → String
  | noAdapter path => "no adapter registered for " ++ path.text
  | failed adapter path reason =>
      "adapter `" ++ adapter ++ "` failed on " ++ path.text ++ ": " ++ reason
  | timedOut path limit =>
      "adapter timed out on " ++ path.text ++ " after " ++ toString limit ++ "ms"
  | disconnected path => "adapter worker for " ++ path.text ++ " exited without a result"
  | defective defect => defect.message

/-- The model of an outcome, or why there is none. -/
def Outcome.toModel (outcome : Outcome) (adapter : String) (path : SourcePath) :
    Except Fault Model :=
  match outcome with
  | parsed model => .ok model
  | rejected reason => .error (.failed adapter path reason)
  | invalid defect => .error (.defective defect)
  | crashed reason => .error (.failed adapter path ("adapter panicked: " ++ reason))
  | unstarted reason =>
      .error (.failed adapter path ("could not start adapter thread: " ++ reason))
  | vanished => .error (.disconnected path)

/-- The model that an adapter obtains of a file within a time limit, in milliseconds. -/
def parse (adapter : Adapter) (contents : String) (path : SourcePath) (limit : Nat) :
    Except Fault Model :=
  let attempt := adapter.attempt contents path
  if limit < attempt.duration then .error (.timedOut path limit)
  else attempt.outcome.toModel adapter.name path

end Adapter

/-- Adapters by the ending that they are registered for. -/
structure AdapterSet where
  entries : List (String × Adapter) := []

namespace AdapterSet

/-- Registers an adapter for an ending; it takes the place of an earlier one. -/
def insert (adapter : Adapter) (entries : List (String × Adapter)) (ending : String) :
    List (String × Adapter) :=
  (Text.lowerAscii ending, adapter) :: entries.filter (·.1 != Text.lowerAscii ending)

/-- Registers an adapter for all its endings. -/
def register (adapters : AdapterSet) (adapter : Adapter) : AdapterSet :=
  { entries := adapter.extensions.foldl (insert adapter) adapters.entries }

/-- The adapter of an ending. -/
def get? (adapters : AdapterSet) (ending : String) : Option Adapter :=
  (adapters.entries.find? (·.1 == ending)).map (·.2)

/-- The parts of a name after each of its dots, longest first. -/
def endings : List Char → List String
  | [] => []
  | character :: rest =>
      if character == '.' then String.ofList rest :: endings rest else endings rest

/-- The adapter for a path: the one for the longest ending of the file name. -/
def forPath? (adapters : AdapterSet) (path : SourcePath) : Option Adapter := do
  let name ← path.fileName?
  (endings (Text.lowerAscii name).toList).findSome? adapters.get?

end AdapterSet

end StructuralLint
