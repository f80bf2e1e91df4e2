import StructuralLint.Source.Path
import StructuralLint.Source.Span

/-!
# Ranges

A range is a span in a file. Two ranges are the same when their spans are equal and their paths have
the same components.
-/

namespace StructuralLint

/-- A span in a file. -/
structure Range where
  file : SourcePath
  span : Span
deriving DecidableEq, Repr

namespace Range

/-- Whether two ranges name the same stretch of the same file. -/
def same (left right : Range) : Bool :=
  left.file.same right.file && left.span == right.span

/-- Whether another range lies in the same file and inside this one. -/
def covers (outer inner : Range) : Bool :=
  outer.file.same inner.file && outer.span.contains inner.span

/-- Ranges in order of file, then span. -/
def order (left right : Range) : Ordering :=
  (left.file.order right.file).then (left.span.order right.span)

/-- Ranges in order of file, then start; ranges that differ only in their end are level. -/
def orderByStart (left right : Range) : Ordering :=
  (left.file.order right.file).then (left.span.start.order right.span.start)

end Range

end StructuralLint
