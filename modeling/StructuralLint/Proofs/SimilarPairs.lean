import Mathlib.Data.List.ProdSigma
import Mathlib.Data.Sym.Sym2
import StructuralLint.Proofs.Dispatch
import StructuralLint.Proofs.EditRows
import StructuralLint.Proofs.Measures
import StructuralLint.Proofs.ScopeChains

/-!
# Pairs of similar names

Names are compared at the nodes that open scopes: the declarations of the scope among each other,
and those of every scope around it with them.  Over all nodes each two declarations that see each
other are compared once, since the inner of their scopes is opened by one node, and in a scope only
the earlier one is compared with the later one.  Whether names are similar does not depend on the
order of the comparison, so no pair of similar names is missed.

A lambda opens a scope as well, but no rule looks at it there.
-/

namespace StructuralLint.Rule.SimilarNames

/-! ## Pairs of a list -/

section Pairs

variable {α : Type}

/-- The entries of a list in pairs, the earlier one first. -/
def pairsAmong : List α → List (α × α)
  | [] => []
  | first :: rest => rest.map (fun second => (first, second)) ++ pairsAmong rest

variable {values : List α} {first second : α}

theorem mem_pairsAmong_cons_iff {value : α} :
    (first, second) ∈ pairsAmong (value :: values) ↔
      first = value ∧ second ∈ values ∨ (first, second) ∈ pairsAmong values := by
  simp only [pairsAmong, List.mem_append, List.mem_map, Prod.mk.injEq, exists_eq_right_right]
  rw [and_comm, eq_comm]

theorem mem_of_mem_pairsAmong (isPair : (first, second) ∈ pairsAmong values) :
    first ∈ values ∧ second ∈ values := by
  induction values with
  | nil => cases isPair
  | cons value rest induction =>
      rcases mem_pairsAmong_cons_iff.mp isPair with ⟨rfl, later⟩ | further
      · exact ⟨List.mem_cons_self, List.mem_cons_of_mem _ later⟩
      · exact ⟨List.mem_cons_of_mem _ (induction further).1,
          List.mem_cons_of_mem _ (induction further).2⟩

theorem rel_of_mem_pairsAmong {relation : α → α → Prop} (ordered : values.Pairwise relation)
    (isPair : (first, second) ∈ pairsAmong values) :
    relation first second := by
  induction ordered with
  | nil => cases isPair
  | cons before _ induction =>
      rcases mem_pairsAmong_cons_iff.mp isPair with ⟨rfl, later⟩ | further
      · exact before second later
      · exact induction further

/-- Of two different entries one comes first. -/
theorem mem_pairsAmong_or_swap (isFirst : first ∈ values) (isSecond : second ∈ values)
    (different : first ≠ second) :
    (first, second) ∈ pairsAmong values ∨ (second, first) ∈ pairsAmong values := by
  induction values with
  | nil => cases isFirst
  | cons value rest induction =>
      rw [mem_pairsAmong_cons_iff, mem_pairsAmong_cons_iff]
      rcases List.mem_cons.mp isFirst with rfl | firstLater
      · rcases List.mem_cons.mp isSecond with rfl | secondLater
        · exact absurd rfl different
        · exact Or.inl (Or.inl ⟨rfl, secondLater⟩)
      · rcases List.mem_cons.mp isSecond with rfl | secondLater
        · exact Or.inr (Or.inl ⟨rfl, firstLater⟩)
        · exact (induction firstLater secondLater).imp Or.inr Or.inr

theorem swap_notMem_pairsAmong (distinct : values.Nodup)
    (isPair : (first, second) ∈ pairsAmong values) :
    (second, first) ∉ pairsAmong values := by
  induction values with
  | nil => cases isPair
  | cons value rest induction =>
      rcases List.nodup_cons.mp distinct with ⟨fresh, restDistinct⟩
      rw [mem_pairsAmong_cons_iff]
      rcases mem_pairsAmong_cons_iff.mp isPair with ⟨rfl, later⟩ | further
      · rintro (⟨rfl, again⟩ | earlier)
        · exact fresh again
        · exact fresh (mem_of_mem_pairsAmong earlier).2
      · rintro (⟨rfl, _⟩ | earlier)
        · exact fresh (mem_of_mem_pairsAmong further).2
        · exact induction restDistinct further earlier

theorem nodup_pairsAmong (distinct : values.Nodup) : (pairsAmong values).Nodup := by
  induction values with
  | nil => exact List.nodup_nil
  | cons value rest induction =>
      rcases List.nodup_cons.mp distinct with ⟨fresh, restDistinct⟩
      refine List.nodup_append.mpr ⟨?_, induction restDistinct, ?_⟩
      · exact restDistinct.map fun _ _ same => (Prod.mk.inj same).2
      · rintro pair isOwn other isLater rfl
        rcases List.mem_map.mp isOwn with ⟨second, _, rfl⟩
        exact fresh (mem_of_mem_pairsAmong isLater).1

/-- Pairs of which none is the reverse of another stay different without their order. -/
theorem nodup_map_unordered {pairs : List (α × α)} (distinct : pairs.Nodup)
    (oneWay : ∀ first second, (first, second) ∈ pairs → (second, first) ∉ pairs) :
    (pairs.map fun pair => s(pair.1, pair.2)).Nodup := by
  refine distinct.map_on ?_
  rintro ⟨first, second⟩ isPair ⟨other, another⟩ isOther same
  rcases Sym2.eq_iff.mp same with ⟨sameFirst, sameSecond⟩ | ⟨crossFirst, crossSecond⟩
  · exact Prod.ext sameFirst sameSecond
  · dsimp only at crossFirst crossSecond
    subst crossFirst crossSecond
    exact absurd isOther (oneWay _ _ isPair)

end Pairs

/-! ## Candidates -/

/-- A declaration whose name is compared. -/
structure IsEligible (context : Context) (candidate : Candidate) : Prop where
  declared : candidate.symbol ∈ context.symbols.symbols
  kind : candidate.symbol.kind = .function ∨ candidate.symbol.kind = .class
  longEnough : context.count minNameLength ≤ candidate.symbol.name.length
  declaration : context.model.node? candidate.symbol.declaration = some candidate.declaration
  noOverride : candidate.declaration.attributes.isOverride = false

/-- The candidates of a scope, by the thresholds of the rule. -/
def candidatesIn (context : Context) (scope : Symbols.ScopeId) : List Candidate :=
  candidates context (context.count minNameLength) scope

section Candidates

variable {context : Context}

theorem candidate?_eq_some_iff {symbol : Symbols.Symbol} {candidate : Candidate} :
    candidate? context (context.count minNameLength) symbol = some candidate ↔
      candidate.symbol = symbol ∧
        (symbol.kind = .function ∨ symbol.kind = .class) ∧
        context.count minNameLength ≤ symbol.name.length ∧
          context.model.node? symbol.declaration = some candidate.declaration ∧
          candidate.declaration.attributes.isOverride = false := by
  rcases candidate with ⟨ofSymbol, declaration⟩
  simp only [candidate?, Option.bind_eq_bind, Option.bind_eq_some_iff, Option.guard_eq_some',
    Option.pure_def, Option.some.injEq, Candidate.mk.injEq, Bool.or_eq_true, beq_iff_eq,
    Bool.not_eq_true', exists_const]
  constructor
  · rintro ⟨kind, longEnough, _, isDeclaration, noOverride, rfl, rfl⟩
    exact ⟨rfl, kind, longEnough, isDeclaration, noOverride⟩
  · rintro ⟨rfl, kind, longEnough, isDeclaration, noOverride⟩
    exact ⟨kind, longEnough, _, isDeclaration, noOverride, rfl, rfl⟩

variable (wellFormed :
    context.model.IsWellFormed)
  (isTable : context.symbols = Symbols.resolve context.model)

include wellFormed isTable

theorem isSound_symbols : context.symbols.toScoping.IsSound := by
  rw [isTable]
  exact Symbols.isSound_resolve wellFormed

theorem candidatesIn_eq (scope : Symbols.ScopeId) :
    candidatesIn context scope =
      (context.symbols.symbols.filter fun symbol => symbol.scope == scope).filterMap
        (candidate? context (context.count minNameLength)) := by
  rw [candidatesIn, candidates]
  cases found : context.symbols.scope? scope with
  | none =>
      have noSymbol :
          (context.symbols.symbols.filter fun symbol => symbol.scope == scope) = [] := by
        rw [List.filter_eq_nil_iff]
        intro symbol member inScope
        rcases List.mem_iff_getElem?.mp member with ⟨id, isSymbol⟩
        rcases (isSound_symbols wellFormed isTable).listedOnce id symbol isSymbol with
          ⟨record, isRecord, _⟩
        rw [beq_iff_eq.mp inScope, found] at isRecord
        cases isRecord
      rw [noSymbol]
      rfl
  | some record =>
      rw [isTable] at found ⊢
      rw [← Symbols.filterMap_symbols wellFormed found, List.filterMap_filterMap]

theorem mem_candidatesIn_iff {scope : Symbols.ScopeId} {candidate : Candidate} :
    candidate ∈ candidatesIn context scope ↔
      IsEligible context candidate ∧ candidate.symbol.scope = scope := by
  simp only [candidatesIn_eq wellFormed isTable, List.mem_filterMap, List.mem_filter, beq_iff_eq,
    candidate?_eq_some_iff]
  constructor
  · rintro ⟨_, ⟨declared, inScope⟩, rfl, kind, longEnough, declaration, noOverride⟩
    exact ⟨⟨declared, kind, longEnough, declaration, noOverride⟩, inScope⟩
  · rintro ⟨⟨declared, kind, longEnough, declaration, noOverride⟩, inScope⟩
    exact ⟨_, ⟨declared, inScope⟩, rfl, kind, longEnough, declaration, noOverride⟩

theorem exists_scope_of_isEligible {candidate : Candidate}
    (eligible : IsEligible context candidate) :
    ∃ record, context.symbols.scope? candidate.symbol.scope = some record := by
  rcases List.mem_iff_getElem?.mp eligible.declared with ⟨id, isSymbol⟩
  rcases (isSound_symbols wellFormed isTable).listedOnce id candidate.symbol isSymbol with
    ⟨record, found, _⟩
  exact ⟨record, found⟩

theorem nodup_candidatesIn (scope : Symbols.ScopeId) : (candidatesIn context scope).Nodup := by
  rw [candidatesIn_eq wellFormed isTable]
  refine List.Nodup.filterMap ?_ (List.Nodup.filter _ ?_)
  · intro first second candidate isFirst isSecond
    rw [← (candidate?_eq_some_iff.mp isFirst).1, ← (candidate?_eq_some_iff.mp isSecond).1]
  · rw [isTable]
    exact Symbols.nodup_table_symbols wellFormed

/-- The candidates of a scope stand in the order of their declarations. -/
theorem pairwise_candidatesIn (scope : Symbols.ScopeId) :
    (candidatesIn context scope).Pairwise fun first second =>
      Model.Precedes context.model.nodes first.symbol.declaration second.symbol.declaration := by
  have inOrder := Symbols.pairwise_precedes_symbols wellFormed
  rw [← isTable] at inOrder
  rw [candidatesIn_eq wellFormed isTable, List.pairwise_filterMap]
  refine (inOrder.filter _).imp ?_
  intro first second precedes firstCandidate isFirst secondCandidate isSecond
  rw [(candidate?_eq_some_iff.mp isFirst).1, (candidate?_eq_some_iff.mp isSecond).1]
  exact precedes

end Candidates

/-! ## Comparisons -/

/-- The number of edits between two names, whatever their case. -/
def distance (first second : Candidate) : Nat :=
  Text.editDistance (Text.lower first.symbol.name) (Text.lower second.symbol.name)

/-- The names differ by a few edits, and so do the signatures. -/
def AreAlike (context : Context) (first second : Candidate) : Prop :=
  1 ≤ distance first second ∧ distance first second ≤ context.count maxEditDistance ∧
    signature context.model first.symbol ≠ signature context.model second.symbol

instance (context : Context) (first second : Candidate) :
    Decidable (AreAlike context first second) :=
  inferInstanceAs (Decidable (_ ∧ _))

/-- What is reported at the second of two declarations. -/
def report (context : Context) (first second : Candidate) : Violation :=
  { context.violation "SimilarNames" .low second.declaration
      (quoted second.symbol.name ++ " differs from " ++ quoted first.symbol.name ++ " by " ++
        toString (distance first second) ++ " character" ++ plural (distance first second) ++
        "; choose names that make the difference obvious") with
    related := [context.range first.declaration] }

section Comparisons

variable {context : Context}

theorem areAlike_comm (first second : Candidate) :
    AreAlike context first second ↔ AreAlike context second first := by
  rw [AreAlike, AreAlike, distance, distance, Text.editDistance_comm, ne_comm]

theorem compare?_eq (first second : Candidate) :
    compare? context (context.count maxEditDistance) first second =
      if AreAlike context first second then some (report context first second) else none := by
  rw [compare?, ← ite_not]
  congr 1
  simp only [AreAlike, distance, Bool.or_eq_true, beq_iff_eq, decide_eq_true_eq, eq_iff_iff]
  by_cases same : signature context.model first.symbol = signature context.model second.symbol
  · simp [same]
  · simp only [same, or_false, ne_eq, not_false_eq_true, and_true]
    omega

/-- The comparisons of some pairs report on those that are alike. -/
theorem filterMap_compare? (pairs : List (Candidate × Candidate)) :
    pairs.filterMap (fun pair => compare? context (context.count maxEditDistance) pair.1 pair.2) =
      (pairs.filter fun pair => AreAlike context pair.1 pair.2).map fun pair =>
        report context pair.1 pair.2 := by
  induction pairs with
  | nil => rfl
  | cons pair rest induction =>
      rw [List.filterMap_cons, List.filter_cons, compare?_eq, induction]
      by_cases alike : AreAlike context pair.1 pair.2 <;> simp [alike]

theorem amongThemselves_eq (own : List Candidate) (maxDistance : Nat) :
    amongThemselves context maxDistance own =
      (pairsAmong own).filterMap fun pair => compare? context maxDistance pair.1 pair.2 := by
  induction own with
  | nil => rfl
  | cons first rest induction =>
      rw [amongThemselves, pairsAmong, List.filterMap_append, List.filterMap_map, induction]
      simp only [Function.comp_def]

theorem acrossScopes_eq (outer inner : List Candidate) (maxDistance : Nat) :
    acrossScopes context maxDistance outer inner =
      (outer ×ˢ inner).filterMap fun pair => compare? context maxDistance pair.1 pair.2 := by
  show _ = (outer.flatMap fun visible => inner.map (Prod.mk visible)).filterMap _
  rw [acrossScopes, List.filterMap_flatMap]
  simp only [List.filterMap_map, Function.comp_def]

end Comparisons

/-! ## Pairs of a scope -/

/--
The pairs that are compared in a scope: its declarations among each other, and those of the
scopes around it with them.
-/
def pairsAt (context : Context) (scope : Symbols.ScopeId) : List (Candidate × Candidate) :=
  pairsAmong (candidatesIn context scope) ++
    ((context.symbols.chain scope).drop 1).flatMap fun outer =>
      candidatesIn context outer ×ˢ candidatesIn context scope

/-- The scopes that are opened at nodes of the kinds that the rule looks at. -/
def scopesLookedAt (context : Context) : List Symbols.ScopeId :=
  (context.model.nodes.filter fun node => node.kind ∈ similarNames.kinds).filterMap fun node =>
    context.symbols.openedBy? node.id

/-- All pairs that are compared. -/
def comparedPairs (context : Context) : List (Candidate × Candidate) :=
  (scopesLookedAt context).flatMap (pairsAt context)

/-- The pairs that are reported. -/
def similarPairs (context : Context) : List (Candidate × Candidate) :=
  (comparedPairs context).filter fun pair => AreAlike context pair.1 pair.2

section PairsAt

variable {context : Context}

theorem findings_eq {node : Node} {scope : Symbols.ScopeId}
    (opens : context.symbols.openedBy? node.id = some scope) :
    findings context node =
      (pairsAt context scope).filterMap fun pair =>
        compare? context (context.count maxEditDistance) pair.1 pair.2 := by
  rw [findings, opens, pairsAt, List.filterMap_append, List.filterMap_flatMap]
  simp only [← acrossScopes_eq, ← amongThemselves_eq, candidatesIn]

theorem flatMap_filterMap_filter {α β γ : Type} {f : α → List γ} {keep : α → Bool}
    {made : α → Option β} {g : β → List γ}
    (each : ∀ value, f value = if keep value then (made value).elim [] g else [])
    (values : List α) :
    values.flatMap f = ((values.filter keep).filterMap made).flatMap g := by
  induction values with
  | nil => rfl
  | cons first rest induction =>
      rw [List.flatMap_cons, List.filter_cons, induction, each]
      cases keep first with
      | false => rfl
      | true =>
          rw [if_pos rfl, if_pos rfl, List.filterMap_cons]
          cases made first <;> rfl

/-- What the rule reports on a file where it is on. -/
theorem evaluate_similarNames {settings : ResolvedSettings} {file : Registry.File}
    (on : Registry.context? settings file similarNames = some context)
    (isModel : context.model = file.model) :
    (({} : Registry).register similarNames).evaluate settings file =
      .ok ((similarPairs context).map fun pair => report context pair.1 pair.2) := by
  have atNode (node : Node) :
      gather (Registry.contribution settings file node)
          (({} : Registry).register similarNames).rules =
        .ok (if decide (node.kind ∈ similarNames.kinds) then
          (context.symbols.openedBy? node.id).elim [] fun scope =>
            (pairsAt context scope).filterMap fun pair =>
              compare? context (context.count maxEditDistance) pair.1 pair.2
        else []) := by
    show gather (Registry.contribution settings file node) [similarNames] = _
    rw [gather_singleton]
    split
    next looks =>
      rw [Registry.contribution_of_mem (of_decide_eq_true looks), on]
      refine congrArg Except.ok ?_
      show findings context node = _
      cases opens : context.symbols.openedBy? node.id with
      | none => rw [findings, opens, Option.elim_none]
      | some scope => rw [findings_eq opens, Option.elim_some]
    next ignores =>
      exact Registry.contribution_of_notMem (fun looks => ignores (decide_eq_true looks)) _ _
  rw [Registry.evaluate_eq_gather (Registry.isIndexed_register _ _),
    gather_eq_ok fun node _ => atNode node, similarPairs, ← filterMap_compare?, comparedPairs,
    List.filterMap_flatMap, scopesLookedAt, isModel]
  exact congrArg Except.ok (flatMap_filterMap_filter (fun _ => rfl) file.model.nodes)

/-- The scope is opened by a lambda. -/
def IsOfLambda (context : Context) (scope : Symbols.ScopeId) : Prop :=
  ∃ node ∈ context.model.nodes,
    node.isExpression .lambda = true ∧ context.symbols.openedBy? node.id = some scope

variable (wellFormed :
    context.model.IsWellFormed)
  (isTable : context.symbols = Symbols.resolve context.model)

include wellFormed isTable

theorem nodup_scopesLookedAt : (scopesLookedAt context).Nodup := by
  have ids := wellFormed.distinctIds.sublist
    ((List.filter_sublist (p := fun node => decide (node.kind ∈ similarNames.kinds))).map Node.id)
  have byIds : scopesLookedAt context =
      ((context.model.nodes.filter fun node => node.kind ∈ similarNames.kinds).map
        Node.id).filterMap context.symbols.openedBy? := by
    rw [List.filterMap_map]
    rfl
  rw [byIds]
  refine ids.filterMap ?_
  intro first second scope isFirst isSecond
  rw [Option.mem_def, isTable, Symbols.openedBy?_resolve_eq_some_iff wellFormed] at isFirst isSecond
  rcases isFirst with ⟨record, found, rfl⟩
  rcases isSecond with ⟨_, again, rfl⟩
  rw [Option.some_inj.mp (found.symm.trans again)]

/-- The rule looks at every scope but those of lambdas. -/
theorem mem_scopesLookedAt_iff {scope : Symbols.ScopeId} :
    scope ∈ scopesLookedAt context ↔
      (∃ record, context.symbols.scope? scope = some record) ∧ ¬ IsOfLambda context scope := by
  simp only [scopesLookedAt, IsOfLambda, List.mem_filterMap, List.mem_filter, decide_eq_true_eq,
    isTable, Symbols.openedBy?_resolve_eq_some_iff wellFormed]
  constructor
  · rintro ⟨node, ⟨member, looks⟩, record, found, isOpener⟩
    refine ⟨⟨record, found⟩, ?_⟩
    rintro ⟨other, otherMember, isLambda, _, again, isOther⟩
    rw [Option.some_inj.mp (again.symm.trans found), isOpener] at isOther
    rw [← wellFormed.eq_of_id_eq member otherMember isOther, Node.isExpression] at isLambda
    rw [beq_iff_eq.mp (Bool.and_eq_true_iff.mp isLambda).1] at looks
    exact absurd looks (by decide)
  · rintro ⟨⟨record, found⟩, noLambda⟩
    rcases Symbols.exists_opener wellFormed found with ⟨node, member, isOpener, isLambda | looks⟩
    · exact absurd ⟨node, member, isLambda, record, found, isOpener.symm⟩ noLambda
    · exact ⟨node, ⟨member, looks⟩, record, found, isOpener.symm⟩

theorem mem_pairsAt_iff {scope : Symbols.ScopeId} {record : Symbols.Scope}
    (found : context.symbols.scope? scope = some record) {outer inner : Candidate} :
    (outer, inner) ∈ pairsAt context scope ↔
      (outer, inner) ∈ pairsAmong (candidatesIn context scope) ∨
        IsEligible context outer ∧ IsEligible context inner ∧ inner.symbol.scope = scope ∧
          context.symbols.Encloses outer.symbol.scope scope ∧ outer.symbol.scope ≠ scope := by
  have sound := isSound_symbols wellFormed isTable
  simp only [pairsAt, List.mem_append, List.mem_flatMap, List.mem_product,
    mem_candidatesIn_iff wellFormed isTable, sound.mem_drop_chain_iff found]
  apply or_congr_right
  constructor
  · rintro ⟨_, ⟨encloses, differs⟩, ⟨outerEligible, rfl⟩, innerEligible, inScope⟩
    exact ⟨outerEligible, innerEligible, inScope, encloses, differs⟩
  · rintro ⟨outerEligible, innerEligible, inScope, encloses, differs⟩
    exact ⟨_, ⟨encloses, differs⟩, ⟨outerEligible, rfl⟩, innerEligible, inScope⟩

theorem nodup_pairsAt {scope : Symbols.ScopeId} {record : Symbols.Scope}
    (found : context.symbols.scope? scope = some record) :
    (pairsAt context scope).Nodup := by
  have sound := isSound_symbols wellFormed isTable
  have distinct := nodup_candidatesIn wellFormed isTable
  have inScope {candidate : Candidate} {number : Symbols.ScopeId}
      (member : candidate ∈ candidatesIn context number) :
      candidate.symbol.scope = number :=
    ((mem_candidatesIn_iff wellFormed isTable).mp member).2
  refine List.nodup_append.mpr
    ⟨nodup_pairsAmong (distinct scope), List.nodup_flatMap.mpr ⟨?_, ?_⟩, ?_⟩
  · intro outer _
    exact (distinct outer).product (distinct scope)
  · refine (sound.nodup_drop_chain found).imp ?_
    rintro outer other different ⟨first, second⟩ isPair isOther
    have isOuter := inScope (List.mem_product.mp isPair).1
    exact different (isOuter.symm.trans (inScope (List.mem_product.mp isOther).1))
  · rintro ⟨first, second⟩ isOwn other isAcross rfl
    rcases List.mem_flatMap.mp isAcross with ⟨outer, around, isPair⟩
    have isOuter := inScope (List.mem_product.mp isPair).1
    exact ((sound.mem_drop_chain_iff found).mp around).2
      (isOuter.symm.trans (inScope (mem_of_mem_pairsAmong isOwn).1))

theorem mem_comparedPairs_iff {outer inner : Candidate} :
    (outer, inner) ∈ comparedPairs context ↔
      IsEligible context outer ∧ IsEligible context inner ∧
        context.symbols.Encloses outer.symbol.scope inner.symbol.scope ∧
        ¬ IsOfLambda context inner.symbol.scope ∧
          (outer.symbol.scope = inner.symbol.scope →
            (outer, inner) ∈ pairsAmong (candidatesIn context inner.symbol.scope)) := by
  rw [comparedPairs, List.mem_flatMap]
  constructor
  · rintro ⟨scope, looked, isPair⟩
    rcases (mem_scopesLookedAt_iff wellFormed isTable).mp looked with ⟨⟨record, found⟩, noLambda⟩
    rcases (mem_pairsAt_iff wellFormed isTable found).mp isPair with
      isOwn | ⟨outerEligible, innerEligible, rfl, encloses, differs⟩
    · rcases mem_of_mem_pairsAmong isOwn with ⟨isOuter, isInner⟩
      rcases (mem_candidatesIn_iff wellFormed isTable).mp isOuter with ⟨outerEligible, rfl⟩
      rcases (mem_candidatesIn_iff wellFormed isTable).mp isInner with ⟨innerEligible, same⟩
      rw [same]
      exact ⟨outerEligible, innerEligible, .refl, noLambda, fun _ => isOwn⟩
    · exact ⟨outerEligible, innerEligible, encloses, noLambda, fun same => absurd same differs⟩
  · rintro ⟨outerEligible, innerEligible, encloses, noLambda, inOrder⟩
    rcases exists_scope_of_isEligible wellFormed isTable innerEligible with ⟨record, found⟩
    refine ⟨_, (mem_scopesLookedAt_iff wellFormed isTable).mpr ⟨⟨record, found⟩, noLambda⟩, ?_⟩
    rw [mem_pairsAt_iff wellFormed isTable found]
    by_cases same : outer.symbol.scope = inner.symbol.scope
    · exact Or.inl (inOrder same)
    · exact Or.inr ⟨outerEligible, innerEligible, rfl, encloses, same⟩

theorem nodup_comparedPairs : (comparedPairs context).Nodup := by
  refine List.nodup_flatMap.mpr ⟨?_, ?_⟩
  · intro scope looked
    rcases (mem_scopesLookedAt_iff wellFormed isTable).mp looked with ⟨⟨record, found⟩, _⟩
    exact nodup_pairsAt wellFormed isTable found
  · -- The inner declaration of a pair tells the scope at which it is compared.
    have scopeOf {scope : Symbols.ScopeId} (looked : scope ∈ scopesLookedAt context)
        {pair : Candidate × Candidate} (isPair : pair ∈ pairsAt context scope) :
        pair.2.symbol.scope = scope := by
      rcases (mem_scopesLookedAt_iff wellFormed isTable).mp looked with ⟨⟨record, found⟩, _⟩
      rcases (mem_pairsAt_iff wellFormed isTable found).mp isPair with
        isOwn | ⟨_, _, inScope, _⟩
      · exact ((mem_candidatesIn_iff wellFormed isTable).mp (mem_of_mem_pairsAmong isOwn).2).2
      · exact inScope
    refine (nodup_scopesLookedAt wellFormed isTable).imp_of_mem ?_
    rintro scope other looked otherLooked different pair isPair isOther
    exact different ((scopeOf looked isPair).symm.trans (scopeOf otherLooked isOther))

end PairsAt

/-! ## Pairs of similar names -/

/-- The first declaration is visible where the second stands, and the rule looks there. -/
def Sees (context : Context) (outer inner : Candidate) : Prop :=
  context.symbols.Encloses outer.symbol.scope inner.symbol.scope ∧
    ¬ IsOfLambda context inner.symbol.scope

/-- Two declarations that are hard to tell apart, in any order. -/
structure AreSimilar (context : Context) (first second : Candidate) : Prop where
  different : first ≠ second
  firstEligible : IsEligible context first
  secondEligible : IsEligible context second
  visible : Sees context first second ∨ Sees context second first
  alike : AreAlike context first second

/-- Every two similar declarations are listed once, the outer or earlier one first. -/
structure ListsSimilar (context : Context) (pairs : List (Candidate × Candidate)) : Prop where
  once : (pairs.map fun pair => s(pair.1, pair.2)).Nodup
  complete :
    ∀ first second,
      s(first, second) ∈ pairs.map (fun pair => s(pair.1, pair.2)) ↔
        AreSimilar context first second
  outerFirst :
    ∀ outer inner, (outer, inner) ∈ pairs →
      context.symbols.Encloses outer.symbol.scope inner.symbol.scope ∧
        (outer.symbol.scope = inner.symbol.scope →
          Model.Precedes context.model.nodes outer.symbol.declaration inner.symbol.declaration)

section Similar

variable {context : Context}
  (wellFormed :
    context.model.IsWellFormed)
  (isTable : context.symbols = Symbols.resolve context.model)

include wellFormed isTable

/-- No two declarations are compared both ways. -/
theorem swap_notMem_comparedPairs {first second : Candidate}
    (compared : (first, second) ∈ comparedPairs context) :
    (second, first) ∉ comparedPairs context := by
  intro again
  rw [mem_comparedPairs_iff wellFormed isTable] at compared again
  rcases compared with ⟨_, _, encloses, _, inOrder⟩
  rcases again with ⟨_, _, enclosed, _, reversed⟩
  have sound := isSound_symbols wellFormed isTable
  have same : first.symbol.scope = second.symbol.scope :=
    Nat.le_antisymm (sound.le_of_encloses encloses) (sound.le_of_encloses enclosed)
  refine swap_notMem_pairsAmong (nodup_candidatesIn wellFormed isTable _) (inOrder same) ?_
  rw [← same]
  exact reversed same.symm

/-- Two declarations of which one sees the other are compared one way. -/
theorem mem_comparedPairs_or_swap {first second : Candidate}
    (different : first ≠ second)
    (firstEligible : IsEligible context first)
    (secondEligible : IsEligible context second)
    (sees : Sees context first second) :
    (first, second) ∈ comparedPairs context ∨ (second, first) ∈ comparedPairs context := by
  simp only [mem_comparedPairs_iff wellFormed isTable]
  rcases sees with ⟨encloses, noLambda⟩
  by_cases same : first.symbol.scope = second.symbol.scope
  · have isFirst := (mem_candidatesIn_iff wellFormed isTable).mpr ⟨firstEligible, same⟩
    have isSecond := (mem_candidatesIn_iff wellFormed isTable).mpr ⟨secondEligible, rfl⟩
    refine (mem_pairsAmong_or_swap isFirst isSecond different).imp ?_ ?_
    · intro inOrder
      exact ⟨firstEligible, secondEligible, encloses, noLambda, fun _ => inOrder⟩
    · intro inOrder
      rw [same]
      exact ⟨secondEligible, firstEligible, .refl, noLambda, fun _ => inOrder⟩
  · exact Or.inl ⟨firstEligible, secondEligible, encloses, noLambda, fun equal => absurd equal same⟩

theorem mem_similarPairs_iff {first second : Candidate} :
    (first, second) ∈ similarPairs context ∨ (second, first) ∈ similarPairs context ↔
      AreSimilar context first second := by
  have sees {outer inner : Candidate} (compared : (outer, inner) ∈ comparedPairs context) :
      outer ≠ inner ∧ IsEligible context outer ∧ IsEligible context inner ∧
        Sees context outer inner := by
    rcases (mem_comparedPairs_iff wellFormed isTable).mp compared with
      ⟨outerEligible, innerEligible, encloses, noLambda, _⟩
    refine ⟨?_, outerEligible, innerEligible, encloses, noLambda⟩
    rintro rfl
    exact swap_notMem_comparedPairs wellFormed isTable compared compared
  simp only [similarPairs, List.mem_filter, decide_eq_true_eq]
  rw [areAlike_comm second first, ← or_and_right]
  constructor
  · rintro ⟨compared | compared, alike⟩
    · rcases sees compared with ⟨different, firstEligible, secondEligible, visible⟩
      exact ⟨different, firstEligible, secondEligible, Or.inl visible, alike⟩
    · rcases sees compared with ⟨different, secondEligible, firstEligible, visible⟩
      exact ⟨different.symm, firstEligible, secondEligible, Or.inr visible, alike⟩
  · rintro ⟨different, firstEligible, secondEligible, visible | visible, alike⟩
    · exact ⟨mem_comparedPairs_or_swap wellFormed isTable different firstEligible secondEligible
        visible, alike⟩
    · exact ⟨(mem_comparedPairs_or_swap wellFormed isTable different.symm secondEligible
        firstEligible visible).symm, alike⟩

theorem listsSimilar_similarPairs : ListsSimilar context (similarPairs context) := by
  have compared {first second : Candidate} (reported : (first, second) ∈ similarPairs context) :
      (first, second) ∈ comparedPairs context :=
    (List.mem_filter.mp reported).1
  refine ⟨?_, ?_, ?_⟩
  · refine nodup_map_unordered ((nodup_comparedPairs wellFormed isTable).filter _) ?_
    intro first second reported again
    exact swap_notMem_comparedPairs wellFormed isTable (compared reported) (compared again)
  · intro first second
    rw [← mem_similarPairs_iff wellFormed isTable, List.mem_map]
    constructor
    · rintro ⟨⟨outer, inner⟩, reported, same⟩
      rcases Sym2.eq_iff.mp same with ⟨rfl, rfl⟩ | ⟨rfl, rfl⟩
      · exact Or.inl reported
      · exact Or.inr reported
    · rintro (reported | reported)
      · exact ⟨_, reported, rfl⟩
      · exact ⟨_, reported, Sym2.eq_swap⟩
  · intro outer inner reported
    rcases (mem_comparedPairs_iff wellFormed isTable).mp (compared reported) with
      ⟨_, _, encloses, _, inOrder⟩
    refine ⟨encloses, ?_⟩
    intro same
    have precedes :=
      rel_of_mem_pairsAmong (pairwise_candidatesIn wellFormed isTable _) (inOrder same)
    exact precedes

end Similar

/--
In every model that ingestion accepts, the rule on similar names reports every two similar
declarations once: at the inner one, or at the later one of one scope, with the other one as the
only related range.  The rule is asked unless some function has too many lines to count.
-/
theorem ingest_reports_similar_names_once
    (path : SourcePath)
    (root : NodeId)
    (nodes : List Node)
    (lineCount : Option UInt32)
    (model : Model)
    (accepted : Model.ingest path root nodes lineCount = .ok model) :
    (∀ settings adapter file context,
      Registry.File.ofModel adapter model = .ok file →
      Registry.context? settings file similarNames = some context →
        ∃ pairs : List (Candidate × Candidate),
          (({} : Registry).register similarNames).evaluate settings file =
              .ok (pairs.map fun pair => report context pair.1 pair.2) ∧
            ListsSimilar context pairs) ∧
    ((∀ function ∈ model.nodesOfKind .function, ¬ function.span.HasEveryLine) →
      ∀ adapter, ∃ file, Registry.File.ofModel adapter model = .ok file) := by
  refine ⟨?_, fun countable _ => Registry.File.exists_ofModel_eq_ok_iff.mpr countable⟩
  intro settings adapter file context isFile on
  have wellFormed := Model.IsWellFormed.of_ingest accepted
  rcases Registry.File.ofModel_eq_ok_iff.mp isFile with ⟨metrics, _, rfl⟩
  have isModel : context.model = model := Registry.model_of_context?_eq_some on
  have isTable : context.symbols = Symbols.resolve context.model := by
    rw [Registry.context?] at on
    split at on
    next =>
      rw [← Option.some.inj (Option.ite_none_right_eq_some.mp on).2]
    next => cases on
  refine ⟨similarPairs context, evaluate_similarNames on isModel, ?_⟩
  subst isModel
  exact listsSimilar_similarPairs wellFormed isTable

/-- A function, and a class with a method of nearly the same name. -/
def storeModule : Model :=
  let lines (startLine endLine : UInt32) : Span :=
    { startLine, startCol := 1, endLine, endCol := 9 }
  .linked
    { path := { text := "store.ir.json" }
      root := { index := 0 }
      lineCount := some 4
      nodes :=
        [{ id := { index := 0 }, kind := .module, span := lines 1 4
           children := [{ index := 1 }, { index := 2 }] },
          { id := { index := 1 }, kind := .function, span := lines 1 2, name := some "getUsers" },
          { id := { index := 2 }, kind := .class, span := lines 3 4, name := some "Store"
            children := [{ index := 3 }] },
          { id := { index := 3 }, kind := .function, span := lines 4 4, name := some "getUser"
            attributes := { returnType := some "User" } }] }

/-- An adapter that yields the module. -/
def storeAdapter : Adapter :=
  { name := "tree", extensions := ["tree"]
    attempt := fun _ _ => { outcome := .parsed storeModule } }

/-- Settings with nothing configured, for this rule alone. -/
def storeSettings : ResolvedSettings :=
  { workers := 1
    minDuplicateStatements := Settings.defaultMinDuplicateStatements
    duplicationSimilarityThreshold := Settings.defaultSimilarity
    perFileTimeoutMs := Settings.defaultPerFileTimeoutMs
    rules := Sorted.ofList [(similarNames.id, RuleSettings.ofInfo similarNames.info)] }

/-- The function and the method, with their symbols. -/
def storeCandidates : Candidate × Candidate :=
  ({ symbol := (Symbols.resolve storeModule).symbols[0], declaration := storeModule.nodes[1] },
    { symbol := (Symbols.resolve storeModule).symbols[2], declaration := storeModule.nodes[3] })

/-- The context of the rule, for some measures of the module. -/
def storeContext (metrics : Metrics) : Context :=
  { model := storeModule
    symbols := Symbols.resolve storeModule
    metrics
    settings := RuleSettings.ofInfo similarNames.info
    looksLikeCode := storeAdapter.looksLikeCode }

theorem areSimilar_storeCandidates {file : Registry.File} {context : Context}
    (isFile : Registry.File.ofModel storeAdapter storeModule = .ok file)
    (on : Registry.context? storeSettings file similarNames = some context) :
    AreSimilar context storeCandidates.1 storeCandidates.2 := by
  have noLambda : ∀ node ∈ storeModule.nodes, node.isExpression .lambda = false := by decide
  rcases Registry.File.ofModel_eq_ok_iff.mp isFile with ⟨metrics, _, rfl⟩
  cases on
  -- The measures play no part here, so they are left out of what is computed.
  have longFirst :
      (storeContext { entries := [] }).count minNameLength ≤
        storeCandidates.1.symbol.name.length := by
    decide +kernel
  have longSecond :
      (storeContext { entries := [] }).count minNameLength ≤
        storeCandidates.2.symbol.name.length := by
    decide +kernel
  have areAlike :
      AreAlike (storeContext { entries := [] }) storeCandidates.1 storeCandidates.2 := by
    decide +kernel
  refine
    { different := ?_
      firstEligible :=
        { declared := List.getElem_mem _
          kind := Or.inl rfl
          longEnough := longFirst
          declaration := rfl
          noOverride := rfl }
      secondEligible :=
        { declared := List.getElem_mem _
          kind := Or.inl rfl
          longEnough := longSecond
          declaration := rfl
          noOverride := rfl }
      visible := Or.inl ⟨Relation.ReflTransGen.single ⟨_, rfl, rfl⟩, ?_⟩
      alike := areAlike }
  · intro same
    have sameName := congrArg (fun candidate => candidate.symbol.name) same
    exact absurd sameName (by decide +kernel)
  · rintro ⟨node, member, isLambda, _⟩
    exact Bool.false_ne_true ((noLambda node member).symm.trans isLambda)

/-- The method is reported against the function. -/
theorem storeModule_reports_method :
    Model.ingest storeModule.path storeModule.root storeModule.nodes storeModule.lineCount =
        .ok storeModule ∧
      ∃ file context,
        Registry.File.ofModel storeAdapter storeModule = .ok file ∧
          Registry.context? storeSettings file similarNames = some context ∧
          ∃ pairs : List (Candidate × Candidate),
            (({} : Registry).register similarNames).evaluate storeSettings file =
                .ok (pairs.map fun pair => report context pair.1 pair.2) ∧
              ListsSimilar context pairs ∧
              s(storeCandidates.1, storeCandidates.2) ∈
                pairs.map fun pair => s(pair.1, pair.2) := by
  have accepted :
      Model.ingest storeModule.path storeModule.root storeModule.nodes storeModule.lineCount =
        .ok storeModule := rfl
  rcases ingest_reports_similar_names_once _ _ _ _ _ accepted with ⟨reportsOnce, measurable⟩
  rcases measurable (by decide) storeAdapter with ⟨file, isFile⟩
  have isOn : storeSettings.isEnabled similarNames.id = true := by decide
  rcases Registry.isEnabled_iff_exists_context?.mp isOn with ⟨context, on⟩
  rcases reportsOnce storeSettings storeAdapter file context isFile on with
    ⟨pairs, reported, lists⟩
  exact ⟨accepted, file, context, isFile, on, pairs, reported, lists,
    (lists.complete _ _).mpr (areSimilar_storeCandidates isFile on)⟩

end StructuralLint.Rule.SimilarNames
