/-!
# Forests of positions

Positions are joined into groups by giving them parents. A parent never comes after its position, so
every way up ends at a position that is its own parent, the root of the group. Each search for a
root shortens the way up that it goes.
-/

namespace StructuralLint.Duplication

/-- The parents of positions, none after its position. -/
structure Forest where
  parents : Array Nat
  parent_le : ∀ position, parents.getD position position ≤ position

namespace Forest

/-- The parent of a position; a position without an entry is its own. -/
def parent (forest : Forest) (position : Nat) : Nat :=
  forest.parents.getD position position

/-- The forest in which every position is its own root. -/
def discrete (count : Nat) : Forest where
  parents := Array.range count
  parent_le := by
    intro position
    by_cases bound : position < count <;> simp [Array.getD, bound]

theorem getD_setIfInBounds (parents : Array Nat) (position target other : Nat) :
    (parents.setIfInBounds position target).getD other other =
      if other = position ∧ position < parents.size then target else parents.getD other other := by
  by_cases same : other = position
  · by_cases bound : position < parents.size <;> simp [same, bound]
  · simp [same, Ne.symm same]

/-- Gives a position another parent. -/
def redirect (forest : Forest) (position target : Nat) (notAfter : target ≤ position) : Forest where
  parents := forest.parents.setIfInBounds position target
  parent_le := by
    intro other
    rw [getD_setIfInBounds]
    split
    next changed => exact changed.1 ▸ notAfter
    next => exact forest.parent_le other

/--
The root above a position, and the forest after the search: every second position on the way up
has got the parent of its parent.
-/
def find (forest : Forest) (position : Nat) : Nat × Forest :=
  if forest.parent position = position then (position, forest)
  else
    let above := forest.parent (forest.parent position)
    have notAfter : above ≤ position :=
      Nat.le_trans (forest.parent_le _) (forest.parent_le position)
    (forest.redirect position above notAfter).find above
termination_by position
decreasing_by
  have next := forest.parent_le (forest.parent position)
  have start := forest.parent_le position
  unfold parent at *
  omega

/-- Joins the groups of two positions: the larger of their roots gets the smaller one as parent. -/
def join (forest : Forest) (left right : Nat) : Forest :=
  let first := forest.find left
  let second := first.2.find right
  if first.1 = second.1 then second.2
  else second.2.redirect (max first.1 second.1) (min first.1 second.1) (by omega)

/-- The roots above some positions, found one after another. -/
def roots (forest : Forest) : List Nat → List Nat
  | [] => []
  | position :: rest =>
      let found := forest.find position
      found.1 :: found.2.roots rest

end Forest

end StructuralLint.Duplication
