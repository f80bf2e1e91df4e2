import StructuralLint.Source.Range

/-!
# Laws of the orders

Texts, positions, paths and ranges are compared by functions into `Ordering`.  This module shows
that all of them are total preorders: comparing the other way round gives the mirrored answer, and
"not after" is transitive.  It also says exactly which values are level.  Texts, positions and spans
are level only when they are equal; paths and ranges are level when they have the same components,
however they are written.

Doubles are compared by a function that has no answer where one of the two is no number.  Elsewhere
it is mirrored too.
-/

namespace StructuralLint

open Std

/-! ## Orders of keys and of lists -/

/-- What is neither after nor level is before. -/
theorem lt_of_ne_gt_of_ne_eq {answer : Ordering}
    (notAfter : answer ≠ .gt)
    (notLevel : answer ≠ .eq) :
    answer = .lt := by
  cases answer with
  | lt => rfl
  | eq => exact absurd rfl notLevel
  | gt => exact absurd rfl notAfter

/-- What is not after by two orders in turn is not after by the first. -/
theorem ne_gt_of_then_ne_gt {first second : Ordering}
    (notAfter : first.then second ≠ .gt) :
    first ≠ .gt := by
  intro after
  rw [after] at notAfter
  exact notAfter rfl

theorem level_self {α : Type} (order : α → α → Ordering) [TransCmp order] (item : α) :
    order item item = .eq :=
  ReflCmp.compare_self

/-- An order of keys is an order of the values that carry them. -/
theorem transCmp_on {α β : Type} (order : β → β → Ordering) [TransCmp order] (key : α → β) :
    TransCmp fun left right : α => order (key left) (key right) where
  eq_swap := OrientedCmp.eq_swap
  isLE_trans := TransCmp.isLE_trans

/-- Breaking the ties of one order by another gives an order. -/
theorem transCmp_then {α : Type} (first second : α → α → Ordering)
    [TransCmp first] [TransCmp second] :
    TransCmp fun left right => (first left right).then (second left right) :=
  inferInstanceAs (TransCmp (compareLex first second))

/-- The order of lists is the lexicographic one. -/
theorem orderLists_eq_compareLex {α : Type} (order : α → α → Ordering) (left right : List α) :
    orderLists order left right = List.compareLex order left right := by
  induction left generalizing right with
  | nil =>
      cases right with
      | nil => rfl
      | cons head tail => rfl
  | cons head tail induction =>
      cases right with
      | nil => rfl
      | cons rightHead rightTail =>
          rw [orderLists, List.compareLex_cons_cons, induction]

instance {α : Type} (order : α → α → Ordering) [TransCmp order] :
    TransCmp (orderLists order) := by
  have same : orderLists order = List.compareLex order := by
    funext left right
    exact orderLists_eq_compareLex order left right
  rw [same]
  infer_instance

/-- Lists whose items are level only when they are equal are level only when they are equal. -/
theorem eq_of_orderLists_eq {α : Type} {order : α → α → Ordering} {left right : List α}
    (level : orderLists order left right = .eq)
    (equal : ∀ first ∈ left, ∀ second ∈ right, order first second = .eq → first = second) :
    left = right := by
  induction left generalizing right with
  | nil =>
      cases right with
      | nil => rfl
      | cons head tail => cases level
  | cons head tail induction =>
      cases right with
      | nil => cases level
      | cons rightHead rightTail =>
          rw [orderLists, Ordering.then_eq_eq] at level
          have headEqual : head = rightHead :=
            equal head List.mem_cons_self rightHead List.mem_cons_self level.1
          have tailEqual : tail = rightTail := by
            apply induction level.2
            intro first firstMember second secondMember
            exact equal first (List.mem_cons_of_mem _ firstMember) second
              (List.mem_cons_of_mem _ secondMember)
          rw [headEqual, tailEqual]

/-! ## Texts -/

theorem Text.order_eq_compare (left right : String) :
    Text.order left right = compare left right := by
  have compared : compare left right = compareOfLessAndEq left right := rfl
  rw [compared, Text.order, compareOfLessAndEq]
  by_cases equal : left = right
  · subst equal
    simp
  · simp [equal]

instance : TransCmp Text.order := by
  have same : Text.order = compare := by
    funext left right
    exact Text.order_eq_compare left right
  rw [same]
  infer_instance

@[simp]
theorem Text.order_eq_iff (left right : String) :
    Text.order left right = .eq ↔ left = right := by
  rw [Text.order_eq_compare]
  exact LawfulEqOrd.compare_eq_iff_eq

/-- A text is not after another exactly when it is not greater. -/
theorem Text.order_ne_gt_iff (left right : String) :
    Text.order left right ≠ .gt ↔ left ≤ right := by
  rw [Text.order]
  by_cases equal : left = right
  · subst equal
    simp
  · by_cases less : left < right
    · have le : left ≤ right := by
        intro greater
        exact String.lt_irrefl left (String.lt_trans less greater)
      simp [equal, less, le]
    · have notLe : ¬ left ≤ right := by
        intro le
        exact less (String.not_le.mp fun ge => equal (String.le_antisymm le ge))
      simp [equal, less, notLe]

/-! ## Positions and spans -/

instance : TransCmp Position.order :=
  inferInstanceAs (TransCmp (compareLex (compareOn Position.line) (compareOn Position.column)))

@[simp]
theorem Position.order_eq_iff (left right : Position) :
    left.order right = .eq ↔ left = right := by
  cases left
  cases right
  simp [Position.order, Ordering.then_eq_eq]

/-- A position is up to another: on an earlier line, or on its line and no later column. -/
instance : LE Position where
  le left right := left.line < right.line ∨ left.line = right.line ∧ left.column ≤ right.column

theorem Position.le_iff (left right : Position) :
    left ≤ right ↔
      left.line < right.line ∨ left.line = right.line ∧ left.column ≤ right.column :=
  Iff.rfl

theorem Position.order_isLE_iff (left right : Position) :
    (left.order right).isLE = true ↔ left ≤ right := by
  rw [Position.order, Ordering.isLE_then_iff_or, Position.le_iff]
  simp only [compare_eq_lt, LawfulEqOrd.compare_eq_iff_eq, isLE_compare]

theorem Position.le_refl (position : Position) : position ≤ position := by
  rw [← Position.order_isLE_iff]
  exact ReflCmp.isLE_rfl

theorem Position.le_trans {first second third : Position}
    (firstSecond : first ≤ second)
    (secondThird : second ≤ third) :
    first ≤ third := by
  rw [← Position.order_isLE_iff] at firstSecond secondThird ⊢
  exact TransCmp.isLE_trans firstSecond secondThird

theorem Position.le_antisymm {first second : Position}
    (forth : first ≤ second)
    (back : second ≤ first) :
    first = second := by
  rw [← Position.order_isLE_iff] at forth back
  exact (Position.order_eq_iff first second).mp (OrientedCmp.isLE_antisymm forth back)

theorem Position.isUpTo_iff (left right : Position) :
    left.isUpTo right = true ↔ left ≤ right := by
  rw [← Position.order_isLE_iff, Position.isUpTo, bne_iff_ne]
  exact Ordering.ne_gt_iff_isLE

theorem Position.isBefore_eq_false_iff (left right : Position) :
    left.isBefore right = false ↔ right ≤ left := by
  rw [← Position.order_isLE_iff, ← OrientedCmp.isGE_iff_isLE, Position.isBefore,
    beq_eq_false_iff_ne]
  exact Ordering.ne_lt_iff_isGE

theorem Position.le_of_isBefore {first second : Position}
    (before : first.isBefore second = true) :
    first ≤ second := by
  rw [Position.isBefore, beq_iff_eq] at before
  rw [← Position.order_isLE_iff, before]
  rfl

theorem Span.isOrdered_iff (span : Span) :
    span.isOrdered = true ↔ span.start ≤ span.stop :=
  Position.isUpTo_iff span.start span.stop

theorem Span.contains_iff (outer inner : Span) :
    outer.contains inner = true ↔ outer.start ≤ inner.start ∧ inner.stop ≤ outer.stop := by
  simp [Span.contains, Position.isUpTo_iff]

instance : TransCmp Span.order :=
  have := transCmp_on Position.order Span.start
  have := transCmp_on Position.order Span.stop
  transCmp_then (fun left right : Span => left.start.order right.start) fun left right =>
    left.stop.order right.stop

@[simp]
theorem Span.order_eq_iff (left right : Span) :
    left.order right = .eq ↔ left = right := by
  cases left
  cases right
  simp [Span.order, Span.start, Span.stop, Ordering.then_eq_eq, and_assoc]

/-! ## Paths -/

/-- Components are ordered by their kind, then by what is written. -/
theorem PathComponent.order_eq_compareLex (left right : PathComponent) :
    left.order right =
      compareLex (compareOn PathComponent.rank) (compareOn PathComponent.text) left right := by
  cases left with
  | name leftText =>
      cases right with
      | name rightText =>
          simp [PathComponent.order, compareLex, compareOn, PathComponent.rank,
            PathComponent.text, Text.order_eq_compare]
      | root => rfl
      | current => rfl
      | parent => rfl
  | root => cases right <;> rfl
  | current => cases right <;> rfl
  | parent => cases right <;> rfl

instance : TransCmp PathComponent.order := by
  have same :
      PathComponent.order =
        compareLex (compareOn PathComponent.rank) (compareOn PathComponent.text) := by
    funext left right
    exact PathComponent.order_eq_compareLex left right
  rw [same]
  infer_instance

@[simp]
theorem PathComponent.order_eq_iff (left right : PathComponent) :
    left.order right = .eq ↔ left = right := by
  cases left <;> cases right <;> simp [PathComponent.order, PathComponent.rank]

instance : TransCmp SourcePath.order :=
  transCmp_on (orderLists PathComponent.order) SourcePath.components

@[simp]
theorem SourcePath.order_eq_iff (left right : SourcePath) :
    left.order right = .eq ↔ left.components = right.components := by
  constructor
  · intro level
    apply eq_of_orderLists_eq level
    intro first _ second _
    exact (PathComponent.order_eq_iff first second).mp
  · intro equal
    rw [SourcePath.order, equal]
    exact ReflCmp.compare_self

@[simp]
theorem SourcePath.same_iff (left right : SourcePath) :
    left.same right = true ↔ left.components = right.components := by
  simp [SourcePath.same]

/-- Paths that are the same as two different ones are different. -/
theorem SourcePath.same_eq_false_of_same {left right first second : SourcePath}
    (different : left.same right = false)
    (firstSame : first.same left = true)
    (secondSame : second.same right = true) :
    first.same second = false := by
  rw [SourcePath.same_iff] at firstSame secondSame
  rw [← different, SourcePath.same, SourcePath.same, firstSame, secondSame]

/-! ## Ranges -/

@[simp]
theorem Range.same_iff (left right : Range) :
    left.same right = true ↔
      left.file.components = right.file.components ∧ left.span = right.span := by
  simp [Range.same]

instance : TransCmp Range.order :=
  have := transCmp_on SourcePath.order Range.file
  have := transCmp_on Span.order Range.span
  transCmp_then (fun left right : Range => left.file.order right.file) fun left right =>
    left.span.order right.span

instance : TransCmp Range.orderByStart :=
  have := transCmp_on SourcePath.order Range.file
  have := transCmp_on Position.order fun range : Range => range.span.start
  transCmp_then (fun left right : Range => left.file.order right.file) fun left right =>
    left.span.start.order right.span.start

@[simp]
theorem Range.orderByStart_eq_iff (left right : Range) :
    left.orderByStart right = .eq ↔
      left.file.components = right.file.components ∧ left.span.start = right.span.start := by
  simp [Range.orderByStart, Ordering.then_eq_eq]

/-! ## Doubles -/

section Doubles

open Float.Model

private theorem magnitude_swap (mantissa other : Nat) (exponent otherExponent : Int) :
    (compare otherExponent exponent).then (compare other mantissa) =
      ((compare exponent otherExponent).then (compare mantissa other)).swap := by
  rw [Ordering.swap_then, ← Std.OrientedCmp.eq_swap, ← Std.OrientedCmp.eq_swap]

theorem compare_unpacked_swap (left right : UnpackedFloat) :
    right.compare left = (left.compare right).map Ordering.swap := by
  cases left with
  | notANumber => cases right <;> rfl
  | infinity sign =>
      cases sign <;> cases right with
      | infinity other => cases other <;> rfl
      | _ => rfl
  | zero sign =>
      cases right with
      | infinity other => cases other <;> rfl
      | finite other => cases other <;> rfl
      | _ => rfl
  | finite sign mantissa exponent =>
      cases right with
      | infinity other => cases sign <;> cases other <;> rfl
      | notANumber => cases sign <;> rfl
      | zero other => cases sign <;> rfl
      | finite other otherMantissa otherExponent =>
          have swapped := magnitude_swap mantissa otherMantissa exponent otherExponent
          cases sign <;> cases other
          case positive.positive => exact congrArg some swapped
          case negative.negative => exact congrArg (some ∘ Ordering.swap) swapped
          all_goals rfl

theorem compare_unpacked_eq_none_iff (left right : UnpackedFloat) :
    left.compare right = none ↔ left.isNaN = true ∨ right.isNaN = true := by
  have incomparable : (left.compare right).isNone = (left.isNaN || right.isNaN) := by
    rcases left with (_ | _) | _ | _ | ⟨_ | _, _, _, _⟩ <;>
      rcases right with (_ | _) | _ | _ | ⟨_ | _, _, _, _⟩ <;> rfl
  rw [← Option.isNone_iff_eq_none, incomparable, Bool.or_eq_true]

/-- Doubles are compared through their parts. -/
theorem le_iff_isLE_compare (left right : Float) :
    left ≤ right ↔
      (left.toModel.unpack.compare right.toModel.unpack).any Ordering.isLE = true := by
  show Float.le left right = true ↔ _
  rw [Float.le, decide_eq_true_iff]
  rfl

theorem lt_iff_compare_eq_lt (left right : Float) :
    left < right ↔ left.toModel.unpack.compare right.toModel.unpack = some .lt := by
  show Float.lt left right = true ↔ _
  rw [Float.lt, decide_eq_true_iff]
  show (_ == _) = true ↔ _
  exact beq_iff_eq

/-- A finite double is a number. -/
theorem isNaN_eq_false_of_isFinite {number : Float}
    (finite : number.isFinite = true) :
    number.isNaN = false := by
  have finite : number.toModel.unpack.isFinite = true := finite
  show number.toModel.unpack.isNaN = false
  cases unpacked : number.toModel.unpack with
  | notANumber =>
      rw [unpacked] at finite
      cases finite
  | infinity sign => rfl
  | zero sign => rfl
  | finite sign mantissa exponent positive => rfl

/--
One double is not at least another exactly when it is below it, or when one of the two is no
number.
-/
theorem not_le_iff_lt_or_isNaN (left right : Float) :
    ¬ right ≤ left ↔ left < right ∨ left.isNaN = true ∨ right.isNaN = true := by
  have numbers := compare_unpacked_eq_none_iff left.toModel.unpack right.toModel.unpack
  rw [le_iff_isLE_compare, lt_iff_compare_eq_lt, compare_unpacked_swap]
  show _ ↔ _ ∨ left.toModel.unpack.isNaN = true ∨ right.toModel.unpack.isNaN = true
  rw [← numbers]
  rcases left.toModel.unpack.compare right.toModel.unpack with _ | _ | _ | _ <;> simp

end Doubles

end StructuralLint
