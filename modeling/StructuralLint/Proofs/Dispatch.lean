import StructuralLint.Proofs.RuleIds

/-!
# Which rules look at which nodes

The evaluator asks an index for the rules of each kind of node.  However rules were registered, the
index lists a rule for a kind exactly when the rule names that kind, once and in the order of the
rules.  So the violations in a file are those of every rule that is on at every node of its kinds,
node by node and at each node in the order of the rules, unless one of them never ends.
-/

namespace StructuralLint

namespace Registry

/-! ## The index -/

section Index

/-- A position is listed behind the others of its kind, unless it is listed. -/
theorem positions_addPosition_self (index : List (NodeKind × List Nat)) (added : Nat)
    (kind : NodeKind) :
    positions (addPosition added index kind) kind =
      if added ∈ positions index kind then positions index kind
      else positions index kind ++ [added] := by
  rw [addPosition]
  by_cases present : added ∈ positions index kind
  · rw [if_pos present, if_pos (List.contains_iff_mem.mpr present)]
  · rw [if_neg present, if_neg fun contains => present (List.contains_iff_mem.mp contains)]
    simp only [positions, List.find?_cons, beq_self_eq_true, Option.map_some, Option.getD_some]

/-- Listing a position for one kind changes nothing for the others. -/
theorem positions_addPosition_of_ne (index : List (NodeKind × List Nat)) (added : Nat)
    {addedKind kind : NodeKind} (different : kind ≠ addedKind) :
    positions (addPosition added index addedKind) kind = positions index kind := by
  rw [addPosition]
  split
  next => rfl
  next =>
    have other : (addedKind == kind) = false := beq_false_of_ne different.symm
    simp only [positions, List.find?_cons, other, List.find?_filter]
    congr 3
    funext entry
    by_cases isKind : entry.1 = kind <;> simp [isKind, different]

/-- A position is listed once for a kind, however often the kind is named. -/
theorem positions_foldl_addPosition (index : List (NodeKind × List Nat)) (added : Nat)
    (kinds : List NodeKind) (kind : NodeKind) :
    positions (kinds.foldl (addPosition added) index) kind =
      positions index kind ++
        if kind ∈ kinds ∧ added ∉ positions index kind then [added] else [] := by
  induction kinds generalizing index with
  | nil => simp
  | cons first rest induction =>
      rw [List.foldl_cons, induction]
      by_cases isFirst : kind = first
      · subst isFirst
        rw [positions_addPosition_self]
        by_cases present : added ∈ positions index kind <;> simp [present]
      · rw [positions_addPosition_of_ne index added isFirst]
        simp [isFirst]

/-- The positions of the rules that look at a kind, counted from a start. -/
def positionsFrom (start : Nat) (rules : List Rule) (kind : NodeKind) : List Nat :=
  ((rules.zipIdx start).filter fun entry => entry.1.kinds.contains kind).map (·.2)

/-- More rules are listed behind those before them. -/
theorem positions_foldl_zipIdx {index : List (NodeKind × List Nat)} {kind : NodeKind} {start : Nat}
    (earlier : ∀ position ∈ positions index kind, position < start)
    (rules : List Rule) :
    positions
        ((rules.zipIdx start).foldl
          (fun index entry => entry.1.kinds.foldl (addPosition entry.2) index) index)
        kind =
      positions index kind ++ positionsFrom start rules kind := by
  induction rules generalizing index start with
  | nil => simp [positionsFrom]
  | cons rule rest induction =>
      have fresh : start ∉ positions index kind := fun listed =>
        Nat.lt_irrefl start (earlier start listed)
      have listed := positions_foldl_addPosition index start rule.kinds kind
      rw [List.zipIdx_cons, List.foldl_cons, induction, listed]
      · by_cases looks : kind ∈ rule.kinds <;>
          simp [looks, fresh, positionsFrom, List.zipIdx_cons]
      · intro position member
        rw [listed, List.mem_append, List.mem_ite_nil_right, List.mem_singleton] at member
        rcases member with before | ⟨_, rfl⟩
        · exact Nat.lt_succ_of_lt (earlier position before)
        · exact Nat.lt_succ_self _

/-- The index of some rules lists those that look at a kind, in their order. -/
theorem positions_indexOf (rules : List Rule) (kind : NodeKind) :
    positions (indexOf rules) kind = positionsFrom 0 rules kind := by
  have noneBefore : ∀ position ∈ positions [] kind, position < 0 := by
    intro position listed
    cases listed
  exact positions_foldl_zipIdx noneBefore rules

/-- The positions listed are those of the rules that look at the kind. -/
theorem mem_positionsFrom_zero_iff {rules : List Rule} {kind : NodeKind} {position : Nat} :
    position ∈ positionsFrom 0 rules kind ↔
      ∃ rule, rules[position]? = some rule ∧ kind ∈ rule.kinds := by
  rw [positionsFrom]
  simp [List.mem_zipIdx_iff_getElem?]

/-- Positions are listed in increasing order. -/
theorem pairwise_positionsFrom (start : Nat) (rules : List Rule) (kind : NodeKind) :
    (positionsFrom start rules kind).Pairwise (· < ·) := by
  have increasing : ((rules.zipIdx start).map (·.2)).Pairwise (· < ·) := by
    rw [List.zipIdx_map_snd]
    exact List.pairwise_lt_range'
  exact increasing.sublist (List.filter_sublist.map _)

end Index

/-- The index of a registry is the one of its rules. -/
def IsIndexed (registry : Registry) : Prop :=
  registry.index = indexOf registry.rules

theorem isIndexed_empty : IsIndexed {} :=
  rfl

theorem isIndexed_register (registry : Registry) (rule : Rule) :
    (registry.register rule).IsIndexed :=
  rfl

/-- However rules are registered, they are found under their kinds. -/
theorem IsIndexed.registerAll {registry : Registry}
    (indexed : registry.IsIndexed)
    (rules : List Rule) :
    (registry.registerAll rules).IsIndexed := by
  induction rules generalizing registry with
  | nil => exact indexed
  | cons rule rest induction => exact induction (isIndexed_register registry rule)

theorem isIndexed_builtin : Registry.builtin.IsIndexed :=
  isIndexed_empty.registerAll Rule.builtin

theorem IsIndexed.rulesFor_eq {registry : Registry}
    (indexed : registry.IsIndexed)
    (kind : NodeKind) :
    registry.rulesFor kind = positionsFrom 0 registry.rules kind := by
  rw [rulesFor, show registry.index = _ from indexed, positions_indexOf]

/-! ## Evaluation -/

/--
What a rule contributes at a node: its outcome, if it is on and looks at nodes of that kind.
-/
def contribution (settings : ResolvedSettings) (file : File) (node : Node) (rule : Rule) :
    Except Breakdown (List Violation) :=
  match settings.rule? rule.id with
  | some own =>
      if own.enabled ∧ node.kind ∈ rule.kinds then
        rule.outcome
          { model := file.model
            symbols := file.symbols
            metrics := file.metrics
            settings := own
            looksLikeCode := file.looksLikeCode }
          node
      else .ok []
  | none => .ok []

theorem contribution_of_mem {node : Node} {rule : Rule}
    (looks : node.kind ∈ rule.kinds)
    (settings : ResolvedSettings) (file : File) :
    contribution settings file node rule =
      (context? settings file rule).elim (.ok []) fun context => rule.outcome context node := by
  rw [contribution, context?]
  cases settings.rule? rule.id with
  | none => rfl
  | some own => cases enabled : own.enabled <;> simp [enabled, looks]

theorem contribution_of_notMem {node : Node} {rule : Rule}
    (ignores : node.kind ∉ rule.kinds)
    (settings : ResolvedSettings) (file : File) :
    contribution settings file node rule = .ok [] := by
  rw [contribution]
  cases settings.rule? rule.id with
  | none => rfl
  | some own => exact if_neg fun both => ignores both.2

/-- At a node the rules of its kind contribute in their order, and the others nothing. -/
theorem gather_positionsFrom (registry : Registry) (settings : ResolvedSettings) (file : File)
    (node : Node) :
    gather (registry.outcomeAt (registry.rules.map (context? settings file)) node)
        (positionsFrom 0 registry.rules node.kind) =
      gather (contribution settings file node) registry.rules := by
  let looks (entry : Rule × Nat) : Bool := entry.1.kinds.contains node.kind
  have nothing : ∀ entry ∈ registry.rules.zipIdx,
      looks entry = false → contribution settings file node entry.1 = .ok [] := by
    intro entry _ notLooking
    have ignores : node.kind ∉ entry.1.kinds := fun member =>
      Bool.false_ne_true (notLooking.symm.trans (List.contains_iff_mem.mpr member))
    exact contribution_of_notMem ignores settings file
  calc gather (registry.outcomeAt (registry.rules.map (context? settings file)) node)
        (positionsFrom 0 registry.rules node.kind)
    _ = gather (fun entry => contribution settings file node entry.1)
          (registry.rules.zipIdx.filter looks) := by
        rw [positionsFrom, gather_map]
        apply gather_congr
        intro entry member
        rw [List.mem_filter, List.mem_zipIdx_iff_getElem?] at member
        rw [outcomeAt_contexts, member.1, Option.elim_some,
          contribution_of_mem (List.contains_iff_mem.mp member.2)]
    _ = gather (fun entry => contribution settings file node entry.1) registry.rules.zipIdx :=
        gather_filter_of_nil nothing
    _ = gather (contribution settings file node) registry.rules := by
        rw [← gather_map Prod.fst, List.zipIdx_map_fst]

/-- The violations in a file are what all rules contribute, node by node. -/
theorem evaluate_eq_gather {registry : Registry}
    (indexed : registry.IsIndexed)
    (settings : ResolvedSettings) (file : File) :
    registry.evaluate settings file =
      gather (fun node => gather (contribution settings file node) registry.rules)
        file.model.nodes := by
  rw [evaluate]
  apply gather_congr
  intro node _
  rw [indexed.rulesFor_eq, gather_positionsFrom]

/-- The violations in a file are those of every rule that is on at every node of its kinds. -/
theorem mem_iff_of_evaluate_eq_ok {registry : Registry}
    (indexed : registry.IsIndexed)
    {settings : ResolvedSettings} {file : File} {violations : List Violation}
    (evaluated : registry.evaluate settings file = .ok violations)
    {violation : Violation} :
    violation ∈ violations ↔
      ∃ node ∈ file.model.nodes, ∃ rule ∈ registry.rules,
        node.kind ∈ rule.kinds ∧
          ∃ context,
            context? settings file rule = some context ∧
              rule.Reports context node violation := by
  have contributes_iff (node : Node) (rule : Rule) :
      (∃ part, contribution settings file node rule = .ok part ∧ violation ∈ part) ↔
        node.kind ∈ rule.kinds ∧
          ∃ context,
            context? settings file rule = some context ∧
              rule.Reports context node violation := by
    by_cases looks : node.kind ∈ rule.kinds
    · rw [contribution_of_mem looks]
      cases context? settings file rule <;> simp [looks, Rule.Reports]
    · simp [contribution_of_notMem looks, looks]
  rw [evaluate_eq_gather indexed] at evaluated
  rw [mem_iff_of_gather_eq_ok evaluated]
  refine exists_congr fun node => and_congr_right fun member => ?_
  rcases (gather_eq_ok_iff.mp evaluated).1 node member with ⟨atNode, isAtNode⟩
  simp [isAtNode, mem_iff_of_gather_eq_ok isAtNode, contributes_iff]

/-- Where the violations in a file are missing, a rule that is on never ends at some node. -/
theorem exists_endless_of_evaluate_eq_error {registry : Registry}
    (indexed : registry.IsIndexed)
    {settings : ResolvedSettings} {file : File} {breakdown : Breakdown}
    (broken : registry.evaluate settings file = .error breakdown) :
    breakdown = .endless ∧
      ∃ node ∈ file.model.nodes, ∃ rule ∈ registry.rules,
        node.kind ∈ rule.kinds ∧
          ∃ context,
            context? settings file rule = some context ∧
              rule.evaluate context node = .error .endless := by
  rw [evaluate_eq_gather indexed] at broken
  rcases exists_error_of_gather_eq_error broken with ⟨node, member, atNode⟩
  rcases exists_error_of_gather_eq_error atNode with ⟨rule, isRule, isBroken⟩
  by_cases looks : node.kind ∈ rule.kinds
  · rw [contribution_of_mem looks] at isBroken
    cases on : context? settings file rule with
    | none =>
        rw [on] at isBroken
        cases isBroken
    | some context =>
        rw [on, Option.elim_some] at isBroken
        rcases Rule.outcome_eq_error_iff.mp isBroken with ⟨rfl, endless⟩
        exact ⟨rfl, node, member, rule, isRule, looks, context, on, endless⟩
  · rw [contribution_of_notMem looks] at isBroken
    cases isBroken

/-- Where the violations in a file are found, every rule that is on ends at every node. -/
theorem ne_endless_of_evaluate_eq_ok {registry : Registry}
    (indexed : registry.IsIndexed)
    {settings : ResolvedSettings} {file : File} {violations : List Violation}
    (evaluated : registry.evaluate settings file = .ok violations)
    {node : Node}
    (member : node ∈ file.model.nodes)
    {rule : Rule}
    (isRule : rule ∈ registry.rules)
    (looks : node.kind ∈ rule.kinds)
    {context : Rule.Context}
    (on : context? settings file rule = some context) :
    rule.evaluate context node ≠ .error .endless := by
  intro endless
  rw [evaluate_eq_gather indexed] at evaluated
  rcases (gather_eq_ok_iff.mp evaluated).1 node member with ⟨atNode, gathered⟩
  rcases (gather_eq_ok_iff.mp gathered).1 rule isRule with ⟨part, contributed⟩
  rw [contribution_of_mem looks, on, Option.elim_some,
    Rule.outcome_eq_error_iff.mpr ⟨rfl, endless⟩] at contributed
  cases contributed

/--
With the rules of the library, violations are missing only where the rule on redundant comments is
on and never ends at some comment.
-/
theorem exists_endless_comment_of_evaluate_eq_error {settings : ResolvedSettings} {file : File}
    {breakdown : Breakdown}
    (broken : Registry.builtin.evaluate settings file = .error breakdown) :
    breakdown = .endless ∧
      ∃ node ∈ file.model.nodes,
        node.kind = .comment ∧
          ∃ context,
            context? settings file Rule.redundantComment = some context ∧
              Rule.redundantComment.evaluate context node = .error .endless := by
  rcases exists_endless_of_evaluate_eq_error isIndexed_builtin broken with
    ⟨isEndless, node, member, rule, isRule, looks, context, on, endless⟩
  have isRedundant : rule = Rule.redundantComment := by
    by_contra different
    exact Rule.alwaysEnds_of_mem_builtin (mem_builtin isRule) different context node endless
  subst isRedundant
  exact ⟨isEndless, node, member, List.mem_singleton.mp looks, context, on, endless⟩

theorem File.ofModel_eq_ok_iff {adapter : Adapter} {model : Model} {file : File} :
    File.ofModel adapter model = .ok file ↔
      ∃ metrics,
        Metrics.ofModel model (Symbols.resolve model) = .ok metrics ∧
          { model, symbols := Symbols.resolve model, metrics,
            looksLikeCode := adapter.looksLikeCode } = file := by
  simp only [File.ofModel, bind_eq_ok_iff, pure_eq_ok, Except.ok.injEq]

theorem File.model_of_ofModel_eq_ok {adapter : Adapter} {model : Model} {file : File}
    (isFile : File.ofModel adapter model = .ok file) :
    file.model = model := by
  rcases ofModel_eq_ok_iff.mp isFile with ⟨_, _, rfl⟩
  rfl

/-- A rule is on where it has a context. -/
theorem isEnabled_iff_exists_context? {settings : ResolvedSettings} {file : File}
    {rule : Rule} :
    settings.isEnabled rule.id = true ↔
      ∃ context, context? settings file rule = some context := by
  rw [ResolvedSettings.isEnabled, context?]
  cases settings.rule? rule.id with
  | none => simp
  | some own =>
      rw [Option.any_some]
      cases enabled : own.enabled <;> simp [enabled]

/-- The context of a rule has the measures of the file and the thresholds of the rule. -/
theorem of_context?_eq_some {settings : ResolvedSettings} {file : File} {rule : Rule}
    {context : Rule.Context}
    (on : context? settings file rule = some context) :
    context.model = file.model ∧ context.metrics = file.metrics ∧
      ∀ limit number,
        settings.threshold? rule.id limit.name = some number →
          context.threshold limit = number := by
  rw [context?] at on
  cases isOwn : settings.rule? rule.id with
  | none =>
      rw [isOwn] at on
      cases on
  | some own =>
      rw [isOwn] at on
      rw [← Option.some.inj (Option.ite_none_right_eq_some.mp on).2]
      refine ⟨rfl, rfl, ?_⟩
      intro limit number isNumber
      rw [ResolvedSettings.threshold?, isOwn, Option.bind_some] at isNumber
      rw [Rule.Context.threshold, isNumber]
      rfl

end Registry

end StructuralLint
