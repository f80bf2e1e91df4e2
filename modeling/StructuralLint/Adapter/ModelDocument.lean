import StructuralLint.Adapter.Basic
import StructuralLint.Model.Document
import StructuralLint.Text.CodeLike

/-!
# The adapter for model documents

Reads models that another program has written as JSON documents.
-/

namespace StructuralLint

/--
What becomes of the text of a model document.  What the reader of JSON has to say against other
text, `explain` says.
-/
def Adapter.readDocument (explain : String → String) (contents : String) (path : SourcePath) :
    Adapter.Outcome :=
  match Model.Document.read? contents with
  | none => .rejected (explain contents)
  | some document =>
      match document.toModel path with
      | .ok model => .parsed model
      | .error defect => .invalid defect

/-- The adapter for model documents. -/
def Adapter.modelDocument (explain : String → String) : Adapter where
  name := "json-model"
  extensions := ["json", "ir.json"]
  attempt contents path := { outcome := Adapter.readDocument explain contents path }
  looksLikeCode := Text.looksLikeCode

/-- The set of adapters of the library. -/
def AdapterSet.builtin (explain : String → String) : AdapterSet :=
  ({} : AdapterSet).register (Adapter.modelDocument explain)

/-- A reader of JSON that does not say what is wrong. -/
def Adapter.silent : String → String := fun _ => "not a model document"

end StructuralLint
