/-!
# Ordered lists

The order of lists item by item, and the list of first items of runs, by which sorted lists lose
what they hold twice.
-/

namespace StructuralLint

/-- Lexicographic order of two lists. -/
def orderLists {α : Type} (order : α → α → Ordering) : List α → List α → Ordering
  | [], [] => .eq
  | [], _ :: _ => .lt
  | _ :: _, [] => .gt
  | left :: lefts, right :: rights =>
      (order left right).then (orderLists order lefts rights)

/-- The items that are not the same as the last item kept before them. -/
def firstOfRuns {α : Type} (same : α → α → Bool) : Option α → List α → List α
  | _, [] => []
  | previous, item :: rest =>
      if previous.any (same · item) then firstOfRuns same previous rest
      else item :: firstOfRuns same (some item) rest

end StructuralLint
