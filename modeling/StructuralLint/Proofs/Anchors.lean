import Mathlib.Data.Option.Basic
import StructuralLint.Proofs.Breakdowns
import StructuralLint.Proofs.Tree
import StructuralLint.Rule.Builtin

/-!
# Findings point into the model

A rule looks at one node, but what it reports may stand at another: at a parameter, at the call
around a member, at the reader of a field.  This module shows of every rule of the library that all
it reports stands at a node of the model that it was given, and relates only to ranges of such
nodes.  The rules differ only in how they find these nodes; every way of finding one stays inside
the model.
-/

namespace StructuralLint

/-- A violation names a node of a model, stands at its range and relates to ranges of nodes. -/
structure Violation.AnchoredIn (violation : Violation) (model : Model) : Prop where
  anchor :
    ∃ node ∈ model.nodes, violation.node = some node.id ∧ violation.range = model.range node
  related : ∀ range ∈ violation.related, ∃ node ∈ model.nodes, range = model.range node

namespace Rule

theorem Context.violation_anchoredIn {context : Context} {node : Node}
    (member : node ∈ context.model.nodes)
    (ruleId : String) (severity : Severity) (message : String) :
    (context.violation ruleId severity node message).AnchoredIn context.model where
  anchor := ⟨node, member, rfl, rfl⟩
  related := by
    intro range related
    cases related

/-- A violation stays anchored when it is related to ranges of nodes. -/
theorem Context.violation_with_related_anchoredIn {context : Context} {node : Node}
    (member : node ∈ context.model.nodes)
    (ruleId : String) (severity : Severity) (message : String)
    {related : List Range}
    (relatedNodes : ∀ range ∈ related, ∃ other ∈ context.model.nodes, range = context.range other) :
    Violation.AnchoredIn { context.violation ruleId severity node message with related }
      context.model where
  anchor := ⟨node, member, rfl, rfl⟩
  related := relatedNodes

theorem Context.forall_mem_singleton_range {context : Context} {node : Node}
    (member : node ∈ context.model.nodes) :
    ∀ range ∈ [context.range node], ∃ other ∈ context.model.nodes, range = context.range other := by
  intro range single
  rw [List.mem_singleton] at single
  exact ⟨node, member, single⟩

/-- All that a rule reports at a node of a model is anchored in that model. -/
def IsAnchored (rule : Rule) : Prop :=
  ∀ context, ∀ node ∈ context.model.nodes,
    ∀ violations, rule.evaluate context node = .ok violations →
      ∀ violation ∈ violations, violation.AnchoredIn context.model

/-- A rule that never fails is anchored when the violations that it lists are. -/
theorem isAnchored_of_eq_ok {rule : Rule} {listed : Context → Node → List Violation}
    (evaluates : ∀ context node, rule.evaluate context node = .ok (listed context node))
    (anchored :
      ∀ context, ∀ node ∈ context.model.nodes, ∀ violation ∈ listed context node,
        violation.AnchoredIn context.model) :
    rule.IsAnchored := by
  intro context node member violations evaluated
  rw [evaluates] at evaluated
  cases evaluated
  exact anchored context node member

/-! ## Rules that report at the node itself -/

theorem aboveLimit_anchoredIn {context : Context} {node : Node}
    (member : node ∈ context.model.nodes)
    {ruleId : String} {limit : Threshold} {measure : Nat} {message : String → String → String}
    {violation : Violation}
    (found : violation ∈ aboveLimit context ruleId limit node measure message) :
    violation.AnchoredIn context.model := by
  simp only [aboveLimit, List.mem_ite_nil_left, List.mem_singleton] at found
  rw [found.2]
  exact Context.violation_anchoredIn member _ _ _

theorem longFunction_isAnchored : longFunction.IsAnchored := by
  refine isAnchored_of_eq_ok (fun _ _ => rfl) ?_
  intro context node member violation found
  split at found
  · cases found
  · exact aboveLimit_anchoredIn member found

theorem deepNesting_isAnchored : deepNesting.IsAnchored := by
  refine isAnchored_of_eq_ok (fun _ _ => rfl) ?_
  intro context node member violation found
  exact aboveLimit_anchoredIn member found

theorem tooManyArguments_isAnchored : tooManyArguments.IsAnchored := by
  refine isAnchored_of_eq_ok (fun _ _ => rfl) ?_
  intro context node member violation found
  exact aboveLimit_anchoredIn member found

theorem shortName_isAnchored : shortName.IsAnchored := by
  refine isAnchored_of_eq_ok (fun _ _ => rfl) ?_
  intro context node member violation found
  split at found
  · cases found
  · simp only [List.mem_ite_nil_left, List.mem_singleton] at found
    rw [found.2]
    exact Context.violation_anchoredIn member _ _ _

theorem encodedName_isAnchored : encodedName.IsAnchored := by
  refine isAnchored_of_eq_ok (fun _ _ => rfl) ?_
  intro context node member violation found
  split at found
  · cases found
  · simp only [List.mem_ite_nil_right, List.mem_singleton] at found
    rw [found.2]
    exact Context.violation_anchoredIn member _ _ _

theorem mixedAbstraction_isAnchored : mixedAbstraction.IsAnchored := by
  refine isAnchored_of_eq_ok (fun _ _ => rfl) ?_
  intro context node member violation found
  simp only [List.mem_ite_nil_left, List.mem_singleton] at found
  rw [found.2]
  exact Context.violation_anchoredIn member _ _ _

theorem commentedOutCode_isAnchored : commentedOutCode.IsAnchored := by
  refine isAnchored_of_eq_ok (fun _ _ => rfl) ?_
  intro context node member violation found
  simp only [List.mem_ite_nil_right, List.mem_singleton] at found
  rw [found.2]
  exact Context.violation_anchoredIn member _ _ _

theorem magicLiteral_isAnchored : magicLiteral.IsAnchored := by
  refine isAnchored_of_eq_ok (fun _ _ => rfl) ?_
  intro context node member violation found
  split at found
  · cases found
  · simp only [List.mem_ite_nil_left, List.mem_singleton] at found
    rw [found.2]
    exact Context.violation_anchoredIn member _ _ _

/-- Where the rule on redundant comments ends, it reports at the comment. -/
theorem exists_message_of_redundantComment_eq_ok {context : Context} {node : Node}
    {violations : List Violation}
    (evaluated : redundantComment.evaluate context node = .ok violations)
    {violation : Violation}
    (found : violation ∈ violations) :
    ∃ message, violation = context.violation "RedundantComment" .low node message := by
  simp only [redundantComment] at evaluated
  split at evaluated
  · cases evaluated
    cases found
  · split at evaluated
    · cases evaluated
    · cases evaluated
      simp only [Comments.restatements, List.mem_ite_nil_left, List.mem_singleton] at found
      exact ⟨_, found.2⟩

theorem redundantComment_isAnchored : redundantComment.IsAnchored := by
  intro context node member violations evaluated violation found
  rcases exists_message_of_redundantComment_eq_ok evaluated found with ⟨message, rfl⟩
  exact Context.violation_anchoredIn member _ _ _

/-! ## Rules that report at nodes around it -/

theorem selectorArgument_isAnchored : selectorArgument.IsAnchored := by
  refine isAnchored_of_eq_ok (fun _ _ => rfl) ?_
  intro context node member violation found
  simp only [List.mem_filterMap, Option.bind_eq_bind, Option.bind_eq_some_iff, Option.pure_def,
    Option.some.injEq] at found
  rcases found with ⟨parameter, isParameter, _, _, _, _, _, _, rfl⟩
  exact Context.violation_anchoredIn (Model.mem_of_mem_parameters isParameter) _ _ _

theorem outputArgument_isAnchored : outputArgument.IsAnchored := by
  refine isAnchored_of_eq_ok (fun _ _ => rfl) ?_
  intro context node member violation found
  simp only [List.mem_filterMap, Option.bind_eq_bind, Option.bind_eq_some_iff, Option.pure_def,
    Option.some.injEq] at found
  rcases found with ⟨parameter, isParameter, _, _, _, _, _, _, rfl⟩
  exact Context.violation_anchoredIn (Model.mem_of_mem_parameters isParameter) _ _ _

theorem negativeConditional_isAnchored : negativeConditional.IsAnchored := by
  refine isAnchored_of_eq_ok (fun _ _ => rfl) ?_
  intro context node member violation found
  simp only [Option.mem_toList, Option.bind_eq_bind, Option.bind_eq_some_iff, Option.pure_def,
    Option.some.injEq] at found
  rcases found with ⟨_, _, condition, isCondition, _, _, rfl⟩
  exact Context.violation_anchoredIn (Model.mem_of_child?_eq_some isCondition) _ _ _

theorem chainAnchor_mem {model : Model} {node : Node}
    (member : node ∈ model.nodes) :
    chainAnchor model node ∈ model.nodes := by
  rw [chainAnchor]
  split
  next parent isParent =>
    split
    · exact Model.mem_of_parent?_eq_some isParent
    · exact member
  next => exact member

theorem transitiveNavigation_isAnchored : transitiveNavigation.IsAnchored := by
  refine isAnchored_of_eq_ok (fun _ _ => rfl) ?_
  intro context node member violation found
  simp only [Option.mem_toList, Option.bind_eq_bind, Option.bind_eq_some_iff, Option.pure_def,
    Option.some.injEq] at found
  rcases found with ⟨_, _, _, _, _, _, _, _, rfl⟩
  exact Context.violation_anchoredIn (chainAnchor_mem member) _ _ _

/-! ## Rules that relate to other nodes -/

theorem queryAndMutate_isAnchored : queryAndMutate.IsAnchored := by
  refine isAnchored_of_eq_ok (fun _ _ => rfl) ?_
  intro context node member violation found
  rw [List.mem_ite_nil_left] at found
  rcases found with ⟨_, found⟩
  split at found
  next => cases found
  next answer isAnswer =>
    have answerMember := Model.mem_of_mem_ownCode (List.mem_of_find?_eq_some isAnswer)
    rw [List.mem_singleton.mp found]
    exact Context.violation_with_related_anchoredIn member _ _ _
      (Context.forall_mem_singleton_range answerMember)

theorem featureEnvy_isAnchored : featureEnvy.IsAnchored := by
  refine isAnchored_of_eq_ok (fun _ _ => rfl) ?_
  intro context node member violation found
  simp only [Option.mem_toList, Option.bind_eq_bind, Option.bind_eq_some_iff, Option.pure_def,
    Option.some.injEq] at found
  rcases found with ⟨_, _, _, _, _, _, symbol, _, rfl⟩
  apply Context.violation_with_related_anchoredIn member
  intro range related
  simp only [Option.mem_toList, Option.map_eq_some_iff] at related
  rcases related with ⟨declaration, isDeclaration, rfl⟩
  exact ⟨declaration, (Model.mem_of_node?_eq_some isDeclaration).1, rfl⟩

theorem verticalSeparation_isAnchored : verticalSeparation.IsAnchored := by
  refine isAnchored_of_eq_ok (fun _ _ => rfl) ?_
  intro context node member violation found
  simp only [Option.mem_toList, Option.bind_eq_bind, Option.bind_eq_some_iff, Option.pure_def,
    Option.some.injEq] at found
  rcases found with ⟨_, _, _, _, _, _, _, _, symbol, _, _, _, use, isUse, _, _, _, _, rfl⟩
  have useMember : use ∈ context.model.nodes := by
    rcases List.mem_filterMap.mp (List.mem_of_find?_eq_some isUse) with ⟨_, _, isNode⟩
    exact (Model.mem_of_node?_eq_some isNode).1
  exact Context.violation_with_related_anchoredIn member _ _ _
    (Context.forall_mem_singleton_range useMember)

namespace SimilarNames

theorem candidate_mem {context : Context} {minLength : Nat} {scope : Symbols.ScopeId}
    {candidate : Candidate}
    (member : candidate ∈ candidates context minLength scope) :
    candidate.declaration ∈ context.model.nodes := by
  rw [candidates] at member
  split at member
  · cases member
  · simp only [candidate?, List.mem_filterMap, Option.bind_eq_bind, Option.bind_eq_some_iff,
      Option.pure_def, Option.some.injEq] at member
    rcases member with ⟨_, _, _, _, _, _, _, _, declaration, isDeclaration, _, _, rfl⟩
    exact (Model.mem_of_node?_eq_some isDeclaration).1

theorem compare?_anchoredIn {context : Context} {maxDistance : Nat} {first second : Candidate}
    (firstMember : first.declaration ∈ context.model.nodes)
    (secondMember : second.declaration ∈ context.model.nodes)
    {violation : Violation}
    (found : compare? context maxDistance first second = some violation) :
    violation.AnchoredIn context.model := by
  simp only [compare?, Option.ite_none_left_eq_some, Option.some.injEq] at found
  rw [← found.2]
  exact Context.violation_with_related_anchoredIn secondMember _ _ _
    (Context.forall_mem_singleton_range firstMember)

theorem amongThemselves_anchoredIn {context : Context} {maxDistance : Nat}
    {candidates : List Candidate}
    (members : ∀ candidate ∈ candidates, candidate.declaration ∈ context.model.nodes)
    {violation : Violation}
    (found : violation ∈ amongThemselves context maxDistance candidates) :
    violation.AnchoredIn context.model := by
  induction candidates with
  | nil => cases found
  | cons first rest induction =>
      rw [List.forall_mem_cons] at members
      rw [amongThemselves, List.mem_append, List.mem_filterMap] at found
      rcases found with ⟨second, secondListed, similar⟩ | later
      · exact compare?_anchoredIn members.1 (members.2 second secondListed) similar
      · exact induction members.2 later

end SimilarNames

theorem similarNames_isAnchored : similarNames.IsAnchored := by
  refine isAnchored_of_eq_ok (fun _ _ => rfl) ?_
  intro context node member violation found
  rw [SimilarNames.findings] at found
  split at found
  · cases found
  · simp only [SimilarNames.acrossScopes, List.mem_append, List.mem_flatMap,
      List.mem_filterMap] at found
    rcases found with among | ⟨_, _, _, isVisible, _, isInner, similar⟩
    · exact SimilarNames.amongThemselves_anchoredIn
        (fun candidate isCandidate => SimilarNames.candidate_mem isCandidate) among
    · exact SimilarNames.compare?_anchoredIn (SimilarNames.candidate_mem isVisible)
        (SimilarNames.candidate_mem isInner) similar

namespace TemporalCoupling

theorem inIdOrder_subset (methods : List Node) : inIdOrder methods ⊆ methods := by
  have folded (ordered : List Node) :
      ordered.foldr
          (fun method rest => if rest.head?.any (·.id == method.id) then rest else method :: rest)
          [] ⊆ ordered := by
    induction ordered with
    | nil => exact List.Subset.refl []
    | cons method rest induction =>
        rw [List.foldr_cons]
        split
        · exact List.subset_cons_of_subset method induction
        · exact List.cons_subset_cons method induction
  intro method member
  exact List.mem_mergeSort.mp (folded _ member)

/-- Methods that use fields in some way are nodes of the model. -/
theorem accessing_mem {context : Context} {owner : Node}
    {keep : Node × Symbols.FieldAccess → Bool} {method : Node}
    (member : method ∈ inIdOrder (((relevantAccesses context owner).filter keep).map (·.1))) :
    method ∈ context.model.nodes := by
  rcases List.mem_map.mp (inIdOrder_subset _ member) with ⟨⟨_, access⟩, isAccess, rfl⟩
  have relevant := (List.mem_filter.mp isAccess).1
  simp only [relevantAccesses, List.mem_flatMap, List.mem_map, List.mem_filter,
    Prod.mk.injEq] at relevant
  rcases relevant with ⟨_, ⟨isChild, _⟩, _, _, rfl, _⟩
  exact Model.mem_of_mem_children isChild

/-- The methods of a coupling are nodes of the model. -/
theorem coupling_mem {context : Context} {owner : Node} {coupling : Coupling}
    (member : coupling ∈ couplings context owner) :
    coupling.writer ∈ context.model.nodes ∧ coupling.reader ∈ context.model.nodes := by
  rcases List.mem_flatMap.mp member with ⟨field, _, inField⟩
  split at inField
  next writer onlyWriter =>
    rw [List.mem_ite_nil_left] at inField
    rcases List.mem_map.mp inField.2 with ⟨reader, isReader, rfl⟩
    have isWriter : writer ∈ writersOf (relevantAccesses context owner) field := by
      rw [onlyWriter]
      exact List.mem_singleton_self writer
    exact ⟨accessing_mem isWriter, accessing_mem (List.mem_filter.mp isReader).1⟩
  next => cases inField

/-- Puts a coupling before some pairs: into the first of them, if that has the same methods. -/
def addCoupling (coupling : Coupling) (rest : List (Node × Node × List String)) :
    List (Node × Node × List String) :=
  match rest with
  | (writer, reader, fields) :: others =>
      if writer.id == coupling.writer.id && reader.id == coupling.reader.id then
        (writer, reader, coupling.field :: fields) :: others
      else (coupling.writer, coupling.reader, [coupling.field]) :: rest
  | [] => [(coupling.writer, coupling.reader, [coupling.field])]

theorem pairs_eq_foldr (couplings : List Coupling) :
    pairs couplings =
      (couplings.mergeSort fun left right =>
        left.writer.id.index < right.writer.id.index ||
          (left.writer.id == right.writer.id &&
            left.reader.id.index ≤ right.reader.id.index)).foldr addCoupling [] :=
  rfl

/-- A coupling brings in no methods but its own. -/
theorem mem_addCoupling {coupling : Coupling} {rest : List (Node × Node × List String)}
    {writer reader : Node} {fields : List String}
    (member : (writer, reader, fields) ∈ addCoupling coupling rest) :
    (coupling.writer = writer ∧ coupling.reader = reader) ∨
      ∃ earlier, (writer, reader, earlier) ∈ rest := by
  cases rest with
  | nil =>
      cases List.mem_singleton.mp member
      exact Or.inl ⟨rfl, rfl⟩
  | cons first others =>
      rw [addCoupling] at member
      split at member
      · rcases List.mem_cons.mp member with equal | later
        · cases equal
          exact Or.inr ⟨first.2.2, List.mem_cons_self⟩
        · exact Or.inr ⟨fields, List.mem_cons_of_mem first later⟩
      · rcases List.mem_cons.mp member with equal | later
        · cases equal
          exact Or.inl ⟨rfl, rfl⟩
        · exact Or.inr ⟨fields, later⟩

/-- The methods of a pair are those of some coupling. -/
theorem exists_coupling_of_mem_pairs {couplings : List Coupling} {writer reader : Node}
    {fields : List String}
    (member : (writer, reader, fields) ∈ pairs couplings) :
    ∃ coupling ∈ couplings, coupling.writer = writer ∧ coupling.reader = reader := by
  have folded (inOrder : List Coupling) (fields : List String)
      (inFold : (writer, reader, fields) ∈ inOrder.foldr addCoupling []) :
      ∃ coupling ∈ inOrder, coupling.writer = writer ∧ coupling.reader = reader := by
    induction inOrder generalizing fields with
    | nil => cases inFold
    | cons coupling rest induction =>
        rcases mem_addCoupling inFold with own | ⟨earlier, isEarlier⟩
        · exact ⟨coupling, List.mem_cons_self, own⟩
        · rcases induction earlier isEarlier with ⟨found, isFound, equal⟩
          exact ⟨found, List.mem_cons_of_mem coupling isFound, equal⟩
  rw [pairs_eq_foldr] at member
  rcases folded _ fields member with ⟨coupling, isSorted, equal⟩
  exact ⟨coupling, List.mem_mergeSort.mp isSorted, equal⟩

end TemporalCoupling

theorem temporalCoupling_isAnchored : temporalCoupling.IsAnchored := by
  refine isAnchored_of_eq_ok (fun _ _ => rfl) ?_
  intro context node member violation found
  rw [TemporalCoupling.findings, List.mem_ite_nil_left] at found
  rcases found with ⟨_, found⟩
  rcases List.mem_filterMap.mp found with ⟨⟨writer, reader, fields⟩, isPair, reported⟩
  rcases TemporalCoupling.exists_coupling_of_mem_pairs isPair with ⟨coupling, isCoupling, rfl, rfl⟩
  rcases TemporalCoupling.coupling_mem isCoupling with ⟨writerMember, readerMember⟩
  simp only [Option.ite_none_left_eq_some, Option.some.injEq] at reported
  rw [← reported.2]
  exact Context.violation_with_related_anchoredIn readerMember _ _ _
    (Context.forall_mem_singleton_range writerMember)

/-! ## All rules of the library -/

/-- Every rule of the library reports only what is anchored in the model. -/
theorem isAnchored_of_mem_builtin {rule : Rule}
    (member : rule ∈ Rule.builtin) :
    rule.IsAnchored := by
  simp only [Rule.builtin, List.mem_cons, List.not_mem_nil, or_false] at member
  rcases member with rfl | rfl | rfl | rfl | rfl | rfl | rfl | rfl | rfl | rfl | rfl | rfl | rfl |
    rfl | rfl | rfl | rfl | rfl
  · exact longFunction_isAnchored
  · exact deepNesting_isAnchored
  · exact tooManyArguments_isAnchored
  · exact selectorArgument_isAnchored
  · exact outputArgument_isAnchored
  · exact queryAndMutate_isAnchored
  · exact mixedAbstraction_isAnchored
  · exact shortName_isAnchored
  · exact encodedName_isAnchored
  · exact similarNames_isAnchored
  · exact redundantComment_isAnchored
  · exact commentedOutCode_isAnchored
  · exact magicLiteral_isAnchored
  · exact featureEnvy_isAnchored
  · exact transitiveNavigation_isAnchored
  · exact verticalSeparation_isAnchored
  · exact temporalCoupling_isAnchored
  · exact negativeConditional_isAnchored

/-- A rule comes to an end at a node and contributes a violation. -/
def Reports (rule : Rule) (context : Context) (node : Node) (violation : Violation) : Prop :=
  ∃ violations, rule.outcome context node = .ok violations ∧ violation ∈ violations

/-- What a rule contributes at a node is found by it there, or says that it failed there. -/
theorem reports_iff {rule : Rule} {context : Context} {node : Node} {violation : Violation} :
    rule.Reports context node violation ↔
      (∃ violations, rule.evaluate context node = .ok violations ∧ violation ∈ violations) ∨
        ∃ reason,
          rule.evaluate context node = .error (.failed reason) ∧
            violation = rule.failure context node reason := by
  rw [Reports, outcome]
  split <;> simp [*]

/-- What an anchored rule contributes at a node is anchored, also when it fails. -/
theorem IsAnchored.anchoredIn_of_reports {rule : Rule}
    (anchored : rule.IsAnchored)
    {context : Context} {node : Node}
    (member : node ∈ context.model.nodes)
    {violation : Violation}
    (found : rule.Reports context node violation) :
    violation.AnchoredIn context.model := by
  rcases reports_iff.mp found with ⟨violations, evaluated, listed⟩ | ⟨reason, _, rfl⟩
  · exact anchored context node member violations evaluated violation listed
  · exact Context.violation_anchoredIn member _ _ _

end Rule

namespace Registry

/-- Registering a rule adds nothing but that rule. -/
theorem mem_place {rule placed : Rule} {rules : List Rule}
    (member : rule ∈ place placed rules) :
    rule = placed ∨ rule ∈ rules := by
  induction rules with
  | nil => exact Or.inl (List.mem_singleton.mp member)
  | cons present rest induction =>
      rw [place] at member
      split at member
      · rcases List.mem_cons.mp member with equal | later
        · exact Or.inl equal
        · exact Or.inr (List.mem_cons_of_mem present later)
      · rcases List.mem_cons.mp member with equal | later
        · exact Or.inr (equal ▸ List.mem_cons_self)
        · exact (induction later).imp_right (List.mem_cons_of_mem present)

theorem mem_registerAll {registry : Registry} {rules : List Rule} {rule : Rule}
    (member : rule ∈ (registry.registerAll rules).rules) :
    rule ∈ rules ∨ rule ∈ registry.rules := by
  induction rules generalizing registry with
  | nil => exact Or.inr member
  | cons first rest induction =>
      rcases induction member with later | earlier
      · exact Or.inl (List.mem_cons_of_mem first later)
      · rcases mem_place earlier with equal | present
        · exact Or.inl (equal ▸ List.mem_cons_self)
        · exact Or.inr present

/-- The registry of the library holds only rules of the library. -/
theorem mem_builtin {rule : Rule}
    (member : rule ∈ Registry.builtin.rules) :
    rule ∈ Rule.builtin := by
  rcases mem_registerAll member with isBuiltin | isEarlier
  · exact isBuiltin
  · cases isEarlier

/-- The context of a rule is that of the file. -/
theorem model_of_context?_eq_some {settings : ResolvedSettings} {file : File} {rule : Rule}
    {context : Rule.Context}
    (on : context? settings file rule = some context) :
    context.model = file.model := by
  rw [context?] at on
  split at on
  · rw [Option.ite_none_right_eq_some] at on
    rw [← Option.some.inj on.2]
  · cases on

/-- The rule at a position is asked in its context, if it is on. -/
theorem outcomeAt_contexts (registry : Registry) (settings : ResolvedSettings) (file : File)
    (node : Node) (position : Nat) :
    registry.outcomeAt (registry.rules.map (context? settings file)) node position =
      registry.rules[position]?.elim (.ok []) fun rule =>
        (context? settings file rule).elim (.ok []) fun context => rule.outcome context node := by
  rw [outcomeAt, List.getElem?_map]
  cases registry.rules[position]? with
  | none => rfl
  | some rule =>
      rw [Option.map_some, Option.join_some, Option.elim_some]
      cases context? settings file rule <;> rfl

/-- What is found in a file some rule reports at some node. -/
theorem exists_reports_of_mem_evaluate {registry : Registry} {settings : ResolvedSettings}
    {file : File} {violations : List Violation}
    (evaluated : registry.evaluate settings file = .ok violations)
    {violation : Violation}
    (found : violation ∈ violations) :
    ∃ node ∈ file.model.nodes, ∃ rule ∈ registry.rules, ∃ context,
      context? settings file rule = some context ∧ rule.Reports context node violation := by
  rcases (mem_iff_of_gather_eq_ok evaluated).mp found with ⟨node, member, _, atNode, inPart⟩
  rcases (mem_iff_of_gather_eq_ok atNode).mp inPart with ⟨position, _, part, isPart, inOutcome⟩
  rw [outcomeAt_contexts] at isPart
  cases isRule : registry.rules[position]? with
  | none =>
      rw [isRule] at isPart
      cases isPart
      cases inOutcome
  | some rule =>
      rw [isRule, Option.elim_some] at isPart
      cases on : context? settings file rule with
      | none =>
          rw [on] at isPart
          cases isPart
          cases inOutcome
      | some context =>
          rw [on, Option.elim_some] at isPart
          exact ⟨node, member, rule, List.mem_of_getElem? isRule, context, on, part, isPart,
            inOutcome⟩

/-- What a registry of anchored rules finds in a file is anchored in the model of the file. -/
theorem evaluate_anchoredIn {registry : Registry}
    (anchored : ∀ rule ∈ registry.rules, rule.IsAnchored)
    {settings : ResolvedSettings} {file : File} {violations : List Violation}
    (evaluated : registry.evaluate settings file = .ok violations)
    {violation : Violation}
    (found : violation ∈ violations) :
    violation.AnchoredIn file.model := by
  rcases exists_reports_of_mem_evaluate evaluated found with
    ⟨node, member, rule, isRule, context, on, reported⟩
  have sameModel := model_of_context?_eq_some on
  rw [← sameModel] at member ⊢
  exact (anchored rule isRule).anchoredIn_of_reports member reported

end Registry

end StructuralLint
