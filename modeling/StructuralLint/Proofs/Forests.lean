import StructuralLint.Duplication.Forest

/-!
# Groups of a forest

The groups of a forest are told apart by their roots.  A search finds the root of its position and
moves no position to another group, although it gives positions on its way other parents: all of
them lie above the position that they are given to, in the same group.  Joining two positions makes
one group of theirs and leaves all other groups alone, because the only parent that changes for good
is that of a root.
-/

namespace StructuralLint.Duplication.Forest

/-! ## Parents and roots -/

theorem parent_le_self (forest : Forest) (position : Nat) : forest.parent position ≤ position :=
  forest.parent_le position

theorem parent_lt_of_ne (forest : Forest) {position : Nat}
    (noRoot : forest.parent position ≠ position) :
    forest.parent position < position :=
  Nat.lt_of_le_of_ne (forest.parent_le_self position) noRoot

/-- The position at the end of the way up from a position. -/
def root (forest : Forest) (position : Nat) : Nat :=
  if forest.parent position = position then position else forest.root (forest.parent position)
termination_by position
decreasing_by exact forest.parent_lt_of_ne ‹_›

variable (forest : Forest)

theorem root_of_parent_eq {position : Nat} (isRoot : forest.parent position = position) :
    forest.root position = position := by
  rw [root, if_pos isRoot]

@[simp]
theorem root_parent (position : Nat) :
    forest.root (forest.parent position) = forest.root position := by
  by_cases isRoot : forest.parent position = position
  · rw [isRoot]
  · rw [root.eq_1 forest position, if_neg isRoot]

theorem root_le (position : Nat) : forest.root position ≤ position := by
  fun_induction root forest position with
  | case1 => exact Nat.le_refl _
  | case2 position _ induction => exact Nat.le_trans induction (forest.parent_le_self position)

@[simp]
theorem parent_root (position : Nat) :
    forest.parent (forest.root position) = forest.root position := by
  fun_induction root forest position with
  | case1 _ isRoot => exact isRoot
  | case2 _ _ induction => exact induction

@[simp]
theorem root_discrete (count position : Nat) : (discrete count).root position = position := by
  apply root_of_parent_eq
  by_cases bound : position < count <;> simp [parent, discrete, Array.getD, bound]

/-! ## Other parents -/

section Redirect

variable {forest} {position target : Nat} {notAfter : target ≤ position}

theorem size_redirect :
    (forest.redirect position target notAfter).parents.size = forest.parents.size :=
  Array.size_setIfInBounds

theorem parent_redirect (other : Nat) :
    (forest.redirect position target notAfter).parent other =
      if other = position ∧ position < forest.parents.size then target else forest.parent other :=
  getD_setIfInBounds _ _ _ _

theorem root_redirect_of_changed
    (changed : position < forest.parents.size) :
    (forest.redirect position target notAfter).root position =
      (forest.redirect position target notAfter).root target := by
  rw [← root_parent, parent_redirect, if_pos ⟨rfl, changed⟩]

theorem root_redirect_of_unchanged {other : Nat}
    (unchanged : ¬(other = position ∧ position < forest.parents.size)) :
    (forest.redirect position target notAfter).root other =
      (forest.redirect position target notAfter).root (forest.parent other) := by
  rw [← root_parent, parent_redirect, if_neg unchanged]

/-- A position may be given any earlier position of its group as parent. -/
theorem root_redirect_of_root_eq
    (before : target < position)
    (sameGroup : forest.root target = forest.root position)
    (other : Nat) :
    (forest.redirect position target notAfter).root other = forest.root other := by
  induction other using Nat.strongRecOn with
  | ind other induction =>
      by_cases changed : other = position ∧ position < forest.parents.size
      · rcases changed with ⟨rfl, bound⟩
        rw [root_redirect_of_changed bound, induction target before, sameGroup]
      · by_cases isRoot : forest.parent other = other
        · rw [root_of_parent_eq _ isRoot]
          apply root_of_parent_eq
          rw [parent_redirect, if_neg changed, isRoot]
        · rw [root_redirect_of_unchanged changed,
            induction _ (forest.parent_lt_of_ne isRoot), root_parent]

/-- A root that is given another root as parent brings its group along. -/
theorem root_redirect_of_roots
    (before : target < position)
    (bound : position < forest.parents.size)
    (positionIsRoot : forest.parent position = position)
    (targetIsRoot : forest.parent target = target)
    (other : Nat) :
    (forest.redirect position target notAfter).root other =
      if forest.root other = position then target else forest.root other := by
  induction other using Nat.strongRecOn with
  | ind other induction =>
      by_cases changed : other = position
      · subst changed
        have targetStays : forest.root target ≠ other := by
          rw [root_of_parent_eq _ targetIsRoot]
          exact Nat.ne_of_lt before
        rw [root_redirect_of_changed bound, induction target before, if_neg targetStays,
          root_of_parent_eq _ targetIsRoot, root_of_parent_eq _ positionIsRoot, if_pos rfl]
      · have unchanged : ¬(other = position ∧ position < forest.parents.size) :=
          fun both => changed both.1
        by_cases isRoot : forest.parent other = other
        · rw [root_of_parent_eq _ isRoot, if_neg changed]
          apply root_of_parent_eq
          rw [parent_redirect, if_neg unchanged, isRoot]
        · rw [root_redirect_of_unchanged unchanged,
            induction _ (forest.parent_lt_of_ne isRoot), root_parent]

end Redirect

/-! ## Searches -/

@[simp]
theorem find_fst (position : Nat) : (forest.find position).1 = forest.root position := by
  fun_induction find forest position with
  | case1 forest position isRoot => exact (root_of_parent_eq _ isRoot).symm
  | case2 forest position noRoot above notAfter induction =>
      have before : above < position :=
        Nat.lt_of_le_of_lt (forest.parent_le_self _) (forest.parent_lt_of_ne noRoot)
      have sameGroup : forest.root above = forest.root position := by
        rw [root_parent, root_parent]
      rw [induction, root_redirect_of_root_eq before sameGroup, sameGroup]

/-- A search moves no position to another group. -/
@[simp]
theorem root_find (position other : Nat) :
    (forest.find position).2.root other = forest.root other := by
  fun_induction find forest position with
  | case1 => rfl
  | case2 forest position noRoot above notAfter induction =>
      have before : above < position :=
        Nat.lt_of_le_of_lt (forest.parent_le_self _) (forest.parent_lt_of_ne noRoot)
      have sameGroup : forest.root above = forest.root position := by
        rw [root_parent, root_parent]
      rw [induction, root_redirect_of_root_eq before sameGroup]

@[simp]
theorem size_find (position : Nat) :
    (forest.find position).2.parents.size = forest.parents.size := by
  fun_induction find forest position with
  | case1 => rfl
  | case2 _ _ _ _ _ induction => rw [induction, size_redirect]

theorem roots_eq_map (positions : List Nat) :
    forest.roots positions = positions.map forest.root := by
  induction positions generalizing forest with
  | nil => rfl
  | cons position rest induction =>
      rw [roots, List.map_cons, find_fst, induction]
      congr 1
      exact List.map_congr_left fun other _ => root_find forest position other

/-! ## Joined groups -/

@[simp]
theorem size_join (left right : Nat) :
    (forest.join left right).parents.size = forest.parents.size := by
  simp only [join]
  split <;> simp [size_redirect]

theorem root_lt_size {position : Nat} (bound : position < forest.parents.size) :
    forest.root position < forest.parents.size :=
  Nat.lt_of_le_of_lt (forest.root_le position) bound

/-- The group of two joined positions has the smaller of their roots. -/
theorem root_join
    {left right : Nat}
    (leftBound : left < forest.parents.size)
    (rightBound : right < forest.parents.size)
    (other : Nat) :
    (forest.join left right).root other =
      if forest.root other = max (forest.root left) (forest.root right) then
        min (forest.root left) (forest.root right)
      else forest.root other := by
  simp only [join, find_fst, root_find]
  split
  next same =>
    rw [root_find, root_find, same, Nat.max_self, Nat.min_self]
    split
    next isRoot => exact isRoot
    next => rfl
  next different =>
    let searched := ((forest.find left).2.find right).2
    have isRoot (position : Nat) :
        searched.parent (forest.root position) = forest.root position := by
      have sameRoot : searched.root position = forest.root position := by
        rw [root_find, root_find]
      rw [← sameRoot, parent_root]
    have sameSize : searched.parents.size = forest.parents.size := by
      rw [size_find, size_find]
    have largerBound : max (forest.root left) (forest.root right) < searched.parents.size := by
      rw [sameSize]
      exact Nat.max_lt.mpr ⟨forest.root_lt_size leftBound, forest.root_lt_size rightBound⟩
    rcases Nat.lt_or_gt_of_ne different with less | greater
    · simp only [Nat.max_eq_right (Nat.le_of_lt less), Nat.min_eq_left (Nat.le_of_lt less)]
        at largerBound ⊢
      rw [root_redirect_of_roots less largerBound (isRoot right) (isRoot left), root_find,
        root_find]
    · simp only [Nat.max_eq_left (Nat.le_of_lt greater), Nat.min_eq_right (Nat.le_of_lt greater)]
        at largerBound ⊢
      rw [root_redirect_of_roots greater largerBound (isRoot left) (isRoot right), root_find,
        root_find]

/-- Joining two positions makes one group of theirs. -/
theorem root_join_eq_iff
    {left right : Nat}
    (leftBound : left < forest.parents.size)
    (rightBound : right < forest.parents.size)
    (first second : Nat) :
    (forest.join left right).root first = (forest.join left right).root second ↔
      forest.root first = forest.root second ∨
        (forest.root first = forest.root left ∧ forest.root second = forest.root right) ∨
          (forest.root first = forest.root right ∧ forest.root second = forest.root left) := by
  rw [forest.root_join leftBound rightBound, forest.root_join leftBound rightBound]
  split <;> split <;> omega

end StructuralLint.Duplication.Forest
