import Mathlib.Data.List.Induction
import StructuralLint.Proofs.Dispatch

/-!
# Which rules are registered

A rule that is registered under a known id takes the place of the earlier rule, whatever kinds of
nodes either looks at.  So after any registrations the registry holds one rule for each id, the last
one, where the id came first, and the index is that of these rules.  The evaluator that asks the
index finds what asking every rule at every node would find.
-/

namespace StructuralLint.Registry

/-! ## One registration -/

/-- A rule keeps the place of its id, or brings its id in at the end. -/
theorem map_id_place (rule : Rule) (rules : List Rule) :
    (place rule rules).map (·.id) =
      if rule.id ∈ rules.map (·.id) then rules.map (·.id) else rules.map (·.id) ++ [rule.id] := by
  induction rules with
  | nil => rfl
  | cons present rest induction =>
      rw [place]
      by_cases same : present.id = rule.id
      · simp [same]
      · rw [if_neg (mt beq_iff_eq.mp same), List.map_cons, induction]
        simp only [List.map_cons, List.mem_cons, Ne.symm same, false_or]
        split <;> rfl

/-- Of rules with different ids, placing a rule leaves those with other ids. -/
theorem mem_place_iff {rule placed : Rule} {rules : List Rule}
    (distinct : (rules.map (·.id)).Nodup) :
    rule ∈ place placed rules ↔ rule = placed ∨ (rule ∈ rules ∧ rule.id ≠ placed.id) := by
  induction rules with
  | nil => simp [place]
  | cons present rest induction =>
      rw [List.map_cons, List.nodup_cons] at distinct
      rw [place]
      by_cases same : present.id = placed.id
      · have otherIds : ∀ later ∈ rest, later.id ≠ placed.id := fun later member equal =>
          distinct.1 (List.mem_map.mpr ⟨later, member, equal.trans same.symm⟩)
        rw [if_pos (beq_iff_eq.mpr same), List.mem_cons, List.mem_cons]
        constructor
        · rintro (isPlaced | later)
          · exact Or.inl isPlaced
          · exact Or.inr ⟨Or.inr later, otherIds rule later⟩
        · rintro (isPlaced | ⟨isPresent | later, different⟩)
          · exact Or.inl isPlaced
          · exact absurd (isPresent ▸ same) different
          · exact Or.inr later
      · rw [if_neg (mt beq_iff_eq.mp same), List.mem_cons, induction distinct.2, List.mem_cons]
        constructor
        · rintro (isPresent | isPlaced | ⟨later, different⟩)
          · exact Or.inr ⟨Or.inl isPresent, isPresent ▸ same⟩
          · exact Or.inl isPlaced
          · exact Or.inr ⟨Or.inr later, different⟩
        · rintro (isPlaced | ⟨isPresent | later, different⟩)
          · exact Or.inr (Or.inl isPlaced)
          · exact Or.inl isPresent
          · exact Or.inr (Or.inr ⟨later, different⟩)

/-! ## All registrations -/

/-- The rules that are left of some rules that are registered one after another. -/
def registered (rules : List Rule) : List Rule :=
  (({} : Registry).registerAll rules).rules

theorem registered_append_singleton (rules : List Rule) (rule : Rule) :
    registered (rules ++ [rule]) = place rule (registered rules) := by
  rw [registered, registerAll, List.foldl_append]
  rfl

/-- The ids of the registered rules stand in the order in which they came first. -/
theorem map_id_registered (rules : List Rule) :
    (registered rules).map (·.id) = (rules.map (·.id)).eraseDups := by
  induction rules using List.reverseRecOn with
  | nil => rfl
  | append_singleton earlier rule induction =>
      rw [registered_append_singleton, map_id_place, induction, List.map_append, List.map_singleton,
        List.eraseDups_append, List.removeAll, List.filter_singleton]
      by_cases known : rule.id ∈ earlier.map (·.id)
      · rw [if_pos (List.mem_eraseDups.mpr known), List.elem_eq_true_of_mem known]
        exact (List.append_nil _).symm
      · have unknown : List.elem rule.id (earlier.map (·.id)) = false :=
          Bool.eq_false_iff.mpr fun isElem => known (List.mem_of_elem_eq_true isElem)
        rw [if_neg (mt List.mem_eraseDups.mp known), unknown]
        rfl

theorem nodup_map_id_registered (rules : List Rule) :
    ((registered rules).map (·.id)).Nodup := by
  induction rules using List.reverseRecOn with
  | nil => exact List.nodup_nil
  | append_singleton earlier rule induction =>
      rw [registered_append_singleton, map_id_place]
      split
      next => exact induction
      next isNew =>
        exact List.nodup_append.mpr ⟨induction, List.nodup_singleton _, by simpa using isNew⟩

/-- A rule is registered exactly when it is the last one under its id. -/
theorem mem_registered_iff {rules : List Rule} {rule : Rule} :
    rule ∈ registered rules ↔ rules.reverse.find? (·.id == rule.id) = some rule := by
  induction rules using List.reverseRecOn with
  | nil => simp [registered, registerAll]
  | append_singleton earlier last induction =>
      rw [registered_append_singleton, mem_place_iff (nodup_map_id_registered earlier), induction,
        List.reverse_concat, List.find?_cons]
      by_cases same : last.id = rule.id
      · simp [same, eq_comm]
      · have different : rule ≠ last := fun equal => same (equal ▸ rfl)
        simp [beq_eq_false_iff_ne.mpr same, different, Ne.symm same]

/-- For each id, in the order of first registration, the rule registered last is left. -/
theorem map_some_registered (rules : List Rule) :
    (registered rules).map some =
      (rules.map (·.id)).eraseDups.map fun id => rules.reverse.find? (·.id == id) := by
  rw [← map_id_registered, List.map_map]
  apply List.map_congr_left
  intro rule member
  exact (mem_registered_iff.mp member).symm

/--
However rules are registered, the registry asks the last rule under each id, as if it asked all
of these rules at every node.
-/
theorem registerAll_asks_last_rules (rules : List Rule) :
    let registry := ({} : Registry).registerAll rules
    registry.rules.map some =
        ((rules.map (·.id)).eraseDups.map fun id => rules.reverse.find? (·.id == id)) ∧
      (∀ kind,
        (registry.rulesFor kind).Pairwise (· < ·) ∧
          ∀ position,
            position ∈ registry.rulesFor kind ↔
              ∃ rule, registry.rules[position]? = some rule ∧ kind ∈ rule.kinds) ∧
      ∀ settings file,
        registry.evaluate settings file =
          gather (fun node => gather (contribution settings file node) registry.rules)
            file.model.nodes := by
  intro registry
  have indexed : registry.IsIndexed := isIndexed_empty.registerAll rules
  refine ⟨map_some_registered rules, ?_, evaluate_eq_gather indexed⟩
  intro kind
  rw [indexed.rulesFor_eq]
  exact ⟨pairwise_positionsFrom 0 registry.rules kind, fun _ => mem_positionsFrom_zero_iff⟩

/-- A rule on functions that is replaced by one on classes, which names them twice. -/
example :
    let onFunctions : Rule :=
      { id := "Sample"
        description := "Looks at functions"
        category := .structural
        kinds := [.function]
        evaluate := fun _ _ => .ok [] }
    let onClasses : Rule := { onFunctions with kinds := [.class, .class] }
    let registry := ({} : Registry).registerAll [onFunctions, onClasses]
    registry.rulesFor .function = [] ∧ registry.rulesFor .class = [0] := by
  decide

end StructuralLint.Registry
