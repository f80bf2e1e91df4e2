import StructuralLint.Breakdown

/-!
# Source spans

A span runs from a start to an end position; positions are lines and columns of 32 bits in
lexicographic order.
-/

namespace StructuralLint

/-- A line and a column. -/
structure Position where
  line : UInt32
  column : UInt32
deriving DecidableEq, Repr

namespace Position

/-- Positions in order of line, then column. -/
def order (left right : Position) : Ordering :=
  (compare left.line right.line).then (compare left.column right.column)

/-- Whether a position is not after another. -/
def isUpTo (left right : Position) : Bool :=
  left.order right != .gt

/-- Whether a position is before another. -/
def isBefore (left right : Position) : Bool :=
  left.order right == .lt

end Position

/-- A stretch of source between two positions. -/
structure Span where
  startLine : UInt32
  startCol : UInt32
  endLine : UInt32
  endCol : UInt32
deriving DecidableEq, Repr, Inhabited

namespace Span

/-- Where a span starts. -/
def start (span : Span) : Position :=
  { line := span.startLine, column := span.startCol }

/-- Where a span ends. -/
def stop (span : Span) : Position :=
  { line := span.endLine, column := span.endCol }

/-- Whether the span ends no earlier than it starts. -/
def isOrdered (span : Span) : Bool :=
  span.start.isUpTo span.stop

/-- Whether another span lies inside this one. -/
def contains (outer inner : Span) : Bool :=
  outer.start.isUpTo inner.start && inner.stop.isUpTo outer.stop

/-- Spans in order of start, then end. -/
def order (left right : Span) : Ordering :=
  (left.start.order right.start).then (left.stop.order right.stop)

/--
The number of lines that a span touches, in 32 bits; a span that ends before it starts touches one.
From line zero to the last line that has a number it is too large.
-/
def lineCount (span : Span) : Except Breakdown UInt32 :=
  let between := if span.startLine ≤ span.endLine then span.endLine - span.startLine else 0
  if between < 4294967295 then .ok (between + 1) else .error .overflow

end Span

end StructuralLint
