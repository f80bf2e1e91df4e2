import StructuralLint.Engine
import StructuralLint.Proofs.Ingestion

/-!
# Work that may break down

What items yield one after another is complete or missing as a whole: it is missing exactly when the
work on some item breaks down, and otherwise it holds what each of them yields.
-/

namespace StructuralLint

variable {α β γ : Type} {yields : α → Except Breakdown (List β)}

/-- What some work yields, nothing where it breaks down. -/
def Breakdown.yielded : Except Breakdown (List β) → List β
  | .ok found => found
  | .error _ => []

@[simp]
theorem Breakdown.yielded_ok (found : List β) :
    yielded (.ok found) = found :=
  rfl

theorem gather_cons_eq_ok_iff {item : α} {rest : List α} {found : List β} :
    gather yields (item :: rest) = .ok found ↔
      ∃ part others, yields item = .ok part ∧ gather yields rest = .ok others ∧
        part ++ others = found := by
  simp only [gather, bind_eq_ok_iff]
  constructor
  · rintro ⟨part, isPart, others, isOthers, ⟨⟩⟩
    exact ⟨part, others, isPart, isOthers, rfl⟩
  · rintro ⟨part, others, isPart, isOthers, rfl⟩
    exact ⟨part, isPart, others, isOthers, rfl⟩

theorem gather_singleton (item : α) : gather yields [item] = yields item := by
  rw [gather]
  cases yields item with
  | error breakdown => rfl
  | ok part => exact congrArg Except.ok (List.append_nil part)

/-- Everything is gathered when the work on every item comes to an end, and only then. -/
theorem gather_eq_ok_iff {items : List α} {found : List β} :
    gather yields items = .ok found ↔
      (∀ item ∈ items, ∃ part, yields item = .ok part) ∧
        items.flatMap (fun item => Breakdown.yielded (yields item)) = found := by
  induction items generalizing found with
  | nil => simp [gather]
  | cons item rest induction =>
      rw [gather_cons_eq_ok_iff, List.forall_mem_cons, List.flatMap_cons]
      constructor
      · rintro ⟨part, others, isPart, gathered, rfl⟩
        rcases induction.mp gathered with ⟨ended, rfl⟩
        rw [isPart]
        exact ⟨⟨⟨part, rfl⟩, ended⟩, rfl⟩
      · rintro ⟨⟨⟨part, isPart⟩, ended⟩, rfl⟩
        rw [isPart]
        exact ⟨part, _, rfl, induction.mpr ⟨ended, rfl⟩, rfl⟩

theorem gather_eq_ok {items : List α} {view : α → List β}
    (ended : ∀ item ∈ items, yields item = .ok (view item)) :
    gather yields items = .ok (items.flatMap view) := by
  refine gather_eq_ok_iff.mpr ⟨fun item member => ⟨_, ended item member⟩, ?_⟩
  apply List.flatMap_congr
  intro item member
  rw [ended item member, Breakdown.yielded_ok]

/-- What is gathered is what some item yields. -/
theorem mem_iff_of_gather_eq_ok {items : List α} {found : List β}
    (gathered : gather yields items = .ok found)
    {value : β} :
    value ∈ found ↔ ∃ item ∈ items, ∃ part, yields item = .ok part ∧ value ∈ part := by
  rcases gather_eq_ok_iff.mp gathered with ⟨ended, rfl⟩
  rw [List.mem_flatMap]
  refine exists_congr fun item => and_congr_right fun member => ?_
  rcases ended item member with ⟨part, isPart⟩
  simp [isPart]

/-- Where nothing is gathered, the work on some item breaks down in this way. -/
theorem exists_error_of_gather_eq_error {items : List α} {breakdown : Breakdown}
    (broken : gather yields items = .error breakdown) :
    ∃ item ∈ items, yields item = .error breakdown := by
  induction items with
  | nil => cases broken
  | cons item rest induction =>
      rw [gather] at broken
      cases first : yields item with
      | error other =>
          rw [first] at broken
          exact ⟨item, List.mem_cons_self, first.trans broken⟩
      | ok part =>
          cases others : gather yields rest with
          | error other =>
              rw [first, others] at broken
              rcases induction (others.trans broken) with ⟨later, member, isError⟩
              exact ⟨later, List.mem_cons_of_mem item member, isError⟩
          | ok gathered =>
              rw [first, others] at broken
              cases broken

theorem gather_congr {other : α → Except Breakdown (List β)} {items : List α}
    (same : ∀ item ∈ items, yields item = other item) :
    gather yields items = gather other items := by
  induction items with
  | nil => rfl
  | cons item rest induction =>
      rw [List.forall_mem_cons] at same
      rw [gather, gather, same.1, induction same.2]

theorem gather_map (image : γ → α) (items : List γ) :
    gather yields (items.map image) = gather (fun item => yields (image item)) items := by
  induction items with
  | nil => rfl
  | cons item rest induction => rw [List.map_cons, gather, gather, induction]

/-- Items that yield nothing need not be asked. -/
theorem gather_filter_of_nil {items : List α} {asked : α → Bool}
    (nothing : ∀ item ∈ items, asked item = false → yields item = .ok []) :
    gather yields (items.filter asked) = gather yields items := by
  induction items with
  | nil => rfl
  | cons item rest induction =>
      rw [List.forall_mem_cons] at nothing
      cases isAsked : asked item with
      | true => rw [List.filter_cons_of_pos isAsked, gather, gather, induction nothing.2]
      | false =>
          have notAsked : ¬ asked item = true := by simp [isAsked]
          rw [List.filter_cons_of_neg notAsked, gather, nothing.1 isAsked, induction nothing.2]
          cases gather yields rest <;> rfl

/-- A part of what is gathered is gathered from a part of what each item yields. -/
theorem map_filter_gather (kept : β → Bool) (items : List α) :
    (gather yields items).map (·.filter kept) =
      gather (fun item => (yields item).map (·.filter kept)) items := by
  induction items with
  | nil => rfl
  | cons item rest induction =>
      rw [gather, gather, ← induction]
      cases yields item with
      | error breakdown => rfl
      | ok part =>
          cases gather yields rest with
          | error breakdown => rfl
          | ok others => exact congrArg Except.ok (List.filter_append part others)

/-- When each item yields a part of what it yielded before, so do all of them. -/
theorem gather_eq_ok_filter {other : α → Except Breakdown (List β)} {kept : β → Bool}
    {items : List α} {found : List β}
    (filtered :
      ∀ item ∈ items, ∀ part, yields item = .ok part → other item = .ok (part.filter kept))
    (gathered : gather yields items = .ok found) :
    gather other items = .ok (found.filter kept) := by
  rcases gather_eq_ok_iff.mp gathered with ⟨ended, rfl⟩
  rw [List.filter_flatMap]
  apply gather_eq_ok
  intro item member
  rcases ended item member with ⟨part, isPart⟩
  rw [filtered item member part isPart, isPart, Breakdown.yielded_ok]

end StructuralLint
