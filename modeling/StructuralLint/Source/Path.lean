import StructuralLint.Order
import StructuralLint.Text.Char

/-!
# Paths of source files

A path is printed as it was written and compared by its components, so that `a//b` and `a/./b` name
the same file as `a/b`. A dot at the very start is kept as a component of its own.
-/

namespace StructuralLint

/-- One step of a path. -/
inductive PathComponent where
  | root
  | current
  | parent
  | name (text : String)
deriving DecidableEq, Repr

namespace PathComponent

/-- The rank of a kind of component: the root first, names last. -/
def rank : PathComponent → Nat
  | root => 0
  | current => 1
  | parent => 2
  | name _ => 3

/-- Components in order: by kind, and names by their characters. -/
def order : PathComponent → PathComponent → Ordering
  | name left, name right => Text.order left right
  | left, right => compare left.rank right.rank

/--
The component that a piece between slashes stands for; `isFirst` says that no slash or piece
comes before it.
-/
def ofPiece? (isFirst : Bool) (piece : String) : Option PathComponent :=
  if piece == "" then none
  else if piece == "." then if isFirst then some current else none
  else if piece == ".." then some parent
  else some (name piece)

/-- A component as it is written. -/
def text : PathComponent → String
  | root => "/"
  | current => "."
  | parent => ".."
  | name text => text

end PathComponent

/-- The path of a source file, as it was written. -/
structure SourcePath where
  text : String
deriving DecidableEq, Repr

namespace SourcePath

/-- The components of a path. -/
def components (path : SourcePath) : List PathComponent :=
  match (Text.splitAt '/' path.text.toList).map String.ofList with
  | [] => []
  | first :: rest =>
      let start :=
        if first == "" then (if rest.isEmpty then [] else [PathComponent.root])
        else (PathComponent.ofPiece? true first).toList
      start ++ rest.filterMap (PathComponent.ofPiece? false)

/-- Paths in order of their components. -/
def order (left right : SourcePath) : Ordering :=
  orderLists PathComponent.order left.components right.components

/-- Whether two paths have the same components. -/
def same (left right : SourcePath) : Bool :=
  left.components == right.components

/-- The name of the file, unless the path ends with the root or a dot component. -/
def fileName? (path : SourcePath) : Option String :=
  match path.components.getLast? with
  | some (.name text) => some text
  | _ => none

end SourcePath

end StructuralLint
