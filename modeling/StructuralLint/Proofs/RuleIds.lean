import StructuralLint.Proofs.Anchors

/-!
# Findings under the id of their rule

A rule of the library never fails, and whatever it finds it reports under its own id.  So the rule
of a finding can be read off the finding, and the internal id of failures is never used by these
rules.  The rules are independent of each other in this respect: every proof looks at one rule only.

All rules but the one on redundant comments also come to an end at every node.
-/

namespace StructuralLint.Rule

/-- A rule never fails, and all violations that it finds carry its id. -/
structure ReportsOwnId (rule : Rule) : Prop where
  neverFails : ∀ context node reason, rule.evaluate context node ≠ .error (.failed reason)
  own :
    ∀ context node violations, rule.evaluate context node = .ok violations →
      ∀ violation ∈ violations, violation.ruleId = rule.id

theorem reportsOwnId_of_eq_ok {rule : Rule} {listed : Context → Node → List Violation}
    (evaluates : ∀ context node, rule.evaluate context node = .ok (listed context node))
    (own : ∀ context node, ∀ violation ∈ listed context node, violation.ruleId = rule.id) :
    rule.ReportsOwnId where
  neverFails context node reason := by simp [evaluates]
  own context node violations evaluated := by
    rw [evaluates] at evaluated
    cases evaluated
    exact own context node

/-! ## Rules with one finding at most -/

theorem ruleId_of_mem_aboveLimit {context : Context} {ruleId : String} {limit : Threshold}
    {node : Node} {measure : Nat} {message : String → String → String} {violation : Violation}
    (found : violation ∈ aboveLimit context ruleId limit node measure message) :
    violation.ruleId = ruleId := by
  simp only [aboveLimit, List.mem_ite_nil_left, List.mem_singleton] at found
  rw [found.2]
  rfl

theorem longFunction_reportsOwnId : longFunction.ReportsOwnId := by
  refine reportsOwnId_of_eq_ok (fun _ _ => rfl) ?_
  intro context node violation found
  split at found
  · cases found
  · exact ruleId_of_mem_aboveLimit found

theorem deepNesting_reportsOwnId : deepNesting.ReportsOwnId := by
  refine reportsOwnId_of_eq_ok (fun _ _ => rfl) ?_
  intro context node violation found
  exact ruleId_of_mem_aboveLimit found

theorem tooManyArguments_reportsOwnId : tooManyArguments.ReportsOwnId := by
  refine reportsOwnId_of_eq_ok (fun _ _ => rfl) ?_
  intro context node violation found
  exact ruleId_of_mem_aboveLimit found

theorem shortName_reportsOwnId : shortName.ReportsOwnId := by
  refine reportsOwnId_of_eq_ok (fun _ _ => rfl) ?_
  intro context node violation found
  split at found
  · cases found
  · simp only [List.mem_ite_nil_left, List.mem_singleton] at found
    rw [found.2]
    rfl

theorem encodedName_reportsOwnId : encodedName.ReportsOwnId := by
  refine reportsOwnId_of_eq_ok (fun _ _ => rfl) ?_
  intro context node violation found
  split at found
  · cases found
  · simp only [List.mem_ite_nil_right, List.mem_singleton] at found
    rw [found.2]
    rfl

theorem magicLiteral_reportsOwnId : magicLiteral.ReportsOwnId := by
  refine reportsOwnId_of_eq_ok (fun _ _ => rfl) ?_
  intro context node violation found
  split at found
  · cases found
  · simp only [List.mem_ite_nil_left, List.mem_singleton] at found
    rw [found.2]
    rfl

theorem mixedAbstraction_reportsOwnId : mixedAbstraction.ReportsOwnId := by
  refine reportsOwnId_of_eq_ok (fun _ _ => rfl) ?_
  intro context node violation found
  simp only [List.mem_ite_nil_left, List.mem_singleton] at found
  rw [found.2]
  rfl

theorem commentedOutCode_reportsOwnId : commentedOutCode.ReportsOwnId := by
  refine reportsOwnId_of_eq_ok (fun _ _ => rfl) ?_
  intro context node violation found
  simp only [List.mem_ite_nil_right, List.mem_singleton] at found
  rw [found.2]
  rfl

theorem queryAndMutate_reportsOwnId : queryAndMutate.ReportsOwnId := by
  refine reportsOwnId_of_eq_ok (fun _ _ => rfl) ?_
  intro context node violation found
  rw [List.mem_ite_nil_left] at found
  rcases found with ⟨_, found⟩
  split at found
  · cases found
  · rw [List.mem_singleton.mp found]
    rfl

theorem redundantComment_reportsOwnId : redundantComment.ReportsOwnId where
  neverFails context node reason := by
    simp only [redundantComment]
    intro failed
    split at failed
    · cases failed
    · split at failed
      · cases failed
      · cases failed
  own context node violations evaluated violation found := by
    rcases exists_message_of_redundantComment_eq_ok evaluated found with ⟨message, rfl⟩
    rfl

theorem negativeConditional_reportsOwnId : negativeConditional.ReportsOwnId := by
  refine reportsOwnId_of_eq_ok (fun _ _ => rfl) ?_
  intro context node violation found
  simp only [Option.mem_toList, Option.bind_eq_bind, Option.bind_eq_some_iff, Option.pure_def,
    Option.some.injEq] at found
  rcases found with ⟨_, _, _, _, _, _, rfl⟩
  rfl

theorem transitiveNavigation_reportsOwnId : transitiveNavigation.ReportsOwnId := by
  refine reportsOwnId_of_eq_ok (fun _ _ => rfl) ?_
  intro context node violation found
  simp only [Option.mem_toList, Option.bind_eq_bind, Option.bind_eq_some_iff, Option.pure_def,
    Option.some.injEq] at found
  rcases found with ⟨_, _, _, _, _, _, _, _, rfl⟩
  rfl

theorem featureEnvy_reportsOwnId : featureEnvy.ReportsOwnId := by
  refine reportsOwnId_of_eq_ok (fun _ _ => rfl) ?_
  intro context node violation found
  simp only [Option.mem_toList, Option.bind_eq_bind, Option.bind_eq_some_iff, Option.pure_def,
    Option.some.injEq] at found
  rcases found with ⟨_, _, _, _, _, _, _, _, rfl⟩
  rfl

theorem verticalSeparation_reportsOwnId : verticalSeparation.ReportsOwnId := by
  refine reportsOwnId_of_eq_ok (fun _ _ => rfl) ?_
  intro context node violation found
  simp only [Option.mem_toList, Option.bind_eq_bind, Option.bind_eq_some_iff, Option.pure_def,
    Option.some.injEq] at found
  rcases found with ⟨_, _, _, _, _, _, _, _, _, _, _, _, _, _, _, _, _, _, rfl⟩
  rfl

/-! ## Rules with several findings -/

theorem selectorArgument_reportsOwnId : selectorArgument.ReportsOwnId := by
  refine reportsOwnId_of_eq_ok (fun _ _ => rfl) ?_
  intro context node violation found
  simp only [List.mem_filterMap, Option.bind_eq_bind, Option.bind_eq_some_iff, Option.pure_def,
    Option.some.injEq] at found
  rcases found with ⟨_, _, _, _, _, _, _, _, rfl⟩
  rfl

theorem outputArgument_reportsOwnId : outputArgument.ReportsOwnId := by
  refine reportsOwnId_of_eq_ok (fun _ _ => rfl) ?_
  intro context node violation found
  simp only [List.mem_filterMap, Option.bind_eq_bind, Option.bind_eq_some_iff, Option.pure_def,
    Option.some.injEq] at found
  rcases found with ⟨_, _, _, _, _, _, _, _, rfl⟩
  rfl

theorem SimilarNames.ruleId_of_compare?_eq_some {context : Context} {maxDistance : Nat}
    {first second : Candidate} {violation : Violation}
    (found : compare? context maxDistance first second = some violation) :
    violation.ruleId = similarNames.id := by
  simp only [compare?, Option.ite_none_left_eq_some, Option.some.injEq] at found
  rw [← found.2]
  rfl

theorem SimilarNames.ruleId_of_mem_amongThemselves {context : Context} {maxDistance : Nat}
    {candidates : List Candidate} {violation : Violation}
    (found : violation ∈ amongThemselves context maxDistance candidates) :
    violation.ruleId = similarNames.id := by
  induction candidates with
  | nil => cases found
  | cons first rest induction =>
      rw [amongThemselves, List.mem_append, List.mem_filterMap] at found
      rcases found with ⟨_, _, similar⟩ | later
      · exact ruleId_of_compare?_eq_some similar
      · exact induction later

theorem similarNames_reportsOwnId : similarNames.ReportsOwnId := by
  refine reportsOwnId_of_eq_ok (fun _ _ => rfl) ?_
  intro context node violation found
  rw [SimilarNames.findings] at found
  split at found
  · cases found
  · simp only [SimilarNames.acrossScopes, List.mem_append, List.mem_flatMap,
      List.mem_filterMap] at found
    rcases found with among | ⟨_, _, _, _, _, _, similar⟩
    · exact SimilarNames.ruleId_of_mem_amongThemselves among
    · exact SimilarNames.ruleId_of_compare?_eq_some similar

theorem temporalCoupling_reportsOwnId : temporalCoupling.ReportsOwnId := by
  refine reportsOwnId_of_eq_ok (fun _ _ => rfl) ?_
  intro context node violation found
  rw [TemporalCoupling.findings, List.mem_ite_nil_left] at found
  rcases List.mem_filterMap.mp found.2 with ⟨_, _, reported⟩
  simp only [Option.ite_none_left_eq_some, Option.some.injEq] at reported
  rw [← reported.2]
  rfl

/-! ## All rules of the library -/

/-- Every rule of the library reports under its own id. -/
theorem reportsOwnId_of_mem_builtin {rule : Rule}
    (member : rule ∈ Rule.builtin) :
    rule.ReportsOwnId := by
  simp only [Rule.builtin, List.mem_cons, List.not_mem_nil, or_false] at member
  rcases member with rfl | rfl | rfl | rfl | rfl | rfl | rfl | rfl | rfl | rfl | rfl | rfl | rfl |
    rfl | rfl | rfl | rfl | rfl
  · exact longFunction_reportsOwnId
  · exact deepNesting_reportsOwnId
  · exact tooManyArguments_reportsOwnId
  · exact selectorArgument_reportsOwnId
  · exact outputArgument_reportsOwnId
  · exact queryAndMutate_reportsOwnId
  · exact mixedAbstraction_reportsOwnId
  · exact shortName_reportsOwnId
  · exact encodedName_reportsOwnId
  · exact similarNames_reportsOwnId
  · exact redundantComment_reportsOwnId
  · exact commentedOutCode_reportsOwnId
  · exact magicLiteral_reportsOwnId
  · exact featureEnvy_reportsOwnId
  · exact transitiveNavigation_reportsOwnId
  · exact verticalSeparation_reportsOwnId
  · exact temporalCoupling_reportsOwnId
  · exact negativeConditional_reportsOwnId

theorem ReportsOwnId.ruleId_of_reports {rule : Rule}
    (own : rule.ReportsOwnId)
    {context : Context} {node : Node} {violation : Violation}
    (found : rule.Reports context node violation) :
    violation.ruleId = rule.id := by
  rcases reports_iff.mp found with ⟨violations, evaluated, listed⟩ | ⟨reason, failed, _⟩
  · exact own.own context node violations evaluated violation listed
  · exact absurd failed (own.neverFails context node reason)

/-! ## Rules that come to an end -/

/-- A rule comes to an end at every node. -/
def AlwaysEnds (rule : Rule) : Prop :=
  ∀ context node, rule.evaluate context node ≠ .error .endless

theorem alwaysEnds_of_eq_ok {rule : Rule} {listed : Context → Node → List Violation}
    (evaluates : ∀ context node, rule.evaluate context node = .ok (listed context node)) :
    rule.AlwaysEnds := by
  intro context node
  rw [evaluates]
  nofun

/-- Of the rules of the library, all but the one on redundant comments come to an end. -/
theorem alwaysEnds_of_mem_builtin {rule : Rule}
    (member : rule ∈ Rule.builtin)
    (different : rule ≠ redundantComment) :
    rule.AlwaysEnds := by
  simp only [Rule.builtin, List.mem_cons, List.not_mem_nil, or_false] at member
  rcases member with rfl | rfl | rfl | rfl | rfl | rfl | rfl | rfl | rfl | rfl | rfl | rfl | rfl |
    rfl | rfl | rfl | rfl | rfl
  any_goals exact alwaysEnds_of_eq_ok fun _ _ => rfl
  exact absurd rfl different

/-- Only a rule that never ends contributes nothing. -/
theorem outcome_eq_error_iff {rule : Rule} {context : Context} {node : Node}
    {breakdown : Breakdown} :
    rule.outcome context node = .error breakdown ↔
      breakdown = .endless ∧ rule.evaluate context node = .error .endless := by
  rw [outcome]
  split <;> simp [*, eq_comm]

end StructuralLint.Rule
