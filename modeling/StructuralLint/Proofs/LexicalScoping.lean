import Mathlib.Data.List.Find
import StructuralLint.Proofs.ResolvedTable

/-!
# Lexical scoping with hoisting

What a name denotes is said here on the tree alone: of the scopes around a use, the innermost one
that declares the name anywhere, before or after the use, and in it the first declaration in
pre-order.  The main statement compares the resolved table with this reading.

The table finds symbols by numbers of scopes.  The scopes from a node outwards are those of the
openers around it, and in each of them a name finds the symbol of the first declaration there, so
both searches go through the same scopes and stop in the same one.
-/

namespace StructuralLint.Symbols

/--
A node declares a name: it is a class, a function, a parameter, a variable or a constant that
bears it.
-/
def Declares (node : Node) (name : String) : Prop :=
  (node.kind = .class ∨ node.kind = .function ∨ node.kind = .parameter ∨
      node.isStatement .varDecl = true ∨ node.isStatement .constDecl = true) ∧
    node.name = some name ∧ name ≠ ""

instance (node : Node) (name : String) : Decidable (Declares node name) :=
  inferInstanceAs (Decidable (_ ∧ _))

/-- The innermost scope around an id is that of an opener. -/
def LiesIn (model : Model) (id opener : NodeId) : Prop :=
  (openersAround model id).head?.map Node.id = some opener

instance (model : Model) (id opener : NodeId) : Decidable (LiesIn model id opener) :=
  inferInstanceAs (Decidable (_ = _))

/-- The first node in pre-order that declares a name directly in the scope of an opener. -/
def firstDeclaration? (model : Model) (opener : NodeId) (name : String) : Option Node :=
  (model.descendants model.root).find? fun node =>
    Declares node name ∧ LiesIn model node.id opener

/--
What a name denotes at an id: its first declaration in the innermost scope around the id that
declares it anywhere.
-/
def denoted? (model : Model) (id : NodeId) (name : String) : Option Node :=
  (openersAround model id).findSome? fun opener => firstDeclaration? model opener.id name

/-- A symbol stands for a declaration of a name. -/
def StandsFor (scoping : Scoping) (name : String) (id : SymbolId) (declaration : Node) : Prop :=
  scoping.declaredBy? declaration.id = some id ∧
    ∃ symbol, scoping.symbols[id]? = some symbol ∧ symbol.name = name ∧
      symbol.declaration = declaration.id

/-! ## Declarations in one scope -/

theorem declares_iff_symbolKind? {node : Node} {name : String} :
    Declares node name ↔
      (symbolKind? node).isSome = true ∧ node.name = some name ∧ name ≠ "" := by
  apply and_congr_left
  intro _
  rw [symbolKind?, Node.isStatement, Node.isStatement]
  cases node.kind with
  | statement =>
      cases node.statement with
      | none => simp
      | some kind => cases kind <;> simp
  | «module» | «class» | function | parameter | expression | identifier | comment | literal => simp

section Scopes

variable {model : Model} (wellFormed : model.IsWellFormed)

include wellFormed

theorem liesIn_visit_iff {visit : Visit} {opener : NodeId}
    (member : visit ∈ visits model) :
    LiesIn model visit.node.id opener ↔ visit.opener = opener := by
  rw [LiesIn, (isPlaced_of_mem_visits wellFormed member).1, Option.some_inj]

/--
At a visit the declaration has the number of an opener and a name exactly when the node declares
the name directly in the scope of the opener.
-/
theorem any_declaration?_iff {visit : Visit} {opener : NodeId} {name : String}
    (member : visit ∈ visits model) :
    (declaration? (numberOf model visit.opener) visit.node).any
        (·.key == (numberOf model opener, name)) = true ↔
      Declares visit.node name ∧ LiesIn model visit.node.id opener := by
  rw [Option.any_eq_true, declares_iff_symbolKind?, liesIn_visit_iff wellFormed member,
    ← numberOf_inj (mem_openerIds_of_mem_visits member)]
  constructor
  · rintro ⟨declaration, isDeclaration, isKey⟩
    rcases declaration?_eq_some_iff.mp isDeclaration with
      ⟨_, isScope, isKind, isName, notEmpty⟩
    rw [beq_iff_eq, Declaration.key, Prod.mk.injEq, isScope] at isKey
    rw [isKey.2] at isName notEmpty
    exact ⟨⟨by rw [isKind]; rfl, isName, notEmpty⟩, isKey.1⟩
  · rintro ⟨⟨hasKind, isName, notEmpty⟩, sameNumber⟩
    rcases Option.isSome_iff_exists.mp hasKind with ⟨kind, isKind⟩
    refine ⟨{ node := visit.node, kind, name, scope := numberOf model visit.opener }, ?_, ?_⟩
    · exact declaration?_eq_some_iff.mpr ⟨rfl, rfl, isKind, isName, notEmpty⟩
    · rw [beq_iff_eq, Declaration.key, sameNumber]

/--
The first declaration with the number of an opener and a name is at the first node that declares
the name directly in the scope of the opener.
-/
theorem find?_declarationsOf_eq {opener : NodeId} {name : String} :
    ((declarationsOf model).find? (·.key == (numberOf model opener, name))).map Declaration.node =
      firstDeclaration? model opener name := by
  rcases wellFormed.exists_node?_root with ⟨rootNode, found, _⟩
  have rootLiesNowhere : ¬ LiesIn model rootNode.id opener := by
    rw [LiesIn, (Model.mem_of_node?_eq_some found).2, openersAround_root wellFormed]
    simp
  have sameTest (visit : Visit) (member : visit ∈ visits model) :
      (declaration? (numberOf model visit.opener) visit.node).any
          (·.key == (numberOf model opener, name)) =
        decide (Declares visit.node name ∧ LiesIn model visit.node.id opener) := by
    rw [Bool.eq_iff_iff, any_declaration?_iff wellFormed member, decide_eq_true_iff]
  rw [firstDeclaration?, descendants_eq_cons_visits wellFormed found,
    List.find?_cons_of_neg (by simp [rootLiesNowhere]), List.find?_map, declarationsOf,
    List.find?_filterMap, List.find?_congr sameTest, Function.comp_def]
  cases isFirst : (visits model).find? _ with
  | none => rfl
  | some visit =>
      have passes := List.find?_some isFirst
      rw [← sameTest visit (List.mem_of_find?_eq_some isFirst), Option.any_eq_true] at passes
      rcases passes with ⟨declaration, isDeclaration, _⟩
      rw [Option.bind_some, isDeclaration, Option.map_some, Option.map_some,
        (declaration?_eq_some_iff.mp isDeclaration).1]

/-- In the scope of an opener a name finds the symbol of its first declaration there. -/
theorem rel_get?_firstDeclaration? {opener : NodeId} {name : String}
    (opens : opener ∈ openerIds model) :
    Option.Rel (StandsFor (scoping model) name)
      ((scoping model).get? (numberOf model opener) name)
      (firstDeclaration? model opener name) := by
  have bound := numberOf_lt_length wellFormed opens
  rw [← find?_declarationsOf_eq wellFormed]
  cases isFirst : (declarationsOf model).find? (·.key == (numberOf model opener, name)) with
  | none =>
      have undeclared : (scoping model).get? (numberOf model opener) name = none := by
        rw [Option.eq_none_iff_forall_ne_some]
        intro id found
        rcases (get?_eq_some_iff wellFormed bound).mp found with ⟨symbol, isSymbol, isKey⟩
        rcases exists_first_declaration wellFormed isSymbol with ⟨first, isFirstOfKey, _⟩
        rw [isKey, isFirst] at isFirstOfKey
        cases isFirstOfKey
      rw [undeclared]
      exact Option.Rel.none
  | some declaration =>
      have member := List.mem_of_find?_eq_some isFirst
      have isKey : declaration.key = (numberOf model opener, name) := by
        simpa using List.find?_some isFirst
      rcases exists_symbol_of_declaration wellFormed member with ⟨symbol, isSymbol, sameKey⟩
      rcases exists_first_declaration wellFormed isSymbol with ⟨first, isFirstOfKey, introduces⟩
      rw [sameKey, isKey, isFirst, Option.some_inj] at isFirstOfKey
      subst isFirstOfKey
      rw [(get?_eq_some_iff wellFormed bound).mpr ⟨symbol, isSymbol, sameKey.trans isKey⟩]
      refine Option.Rel.some ⟨?_, symbol, isSymbol, ?_, ?_⟩
      · exact (declaredBy?_eq_some_iff wellFormed).mpr
          ⟨declaration, member, rfl, symbol, isSymbol, sameKey⟩
      · exact congrArg Prod.snd (sameKey.trans isKey)
      · rw [introduces]
        rfl

/-! ## The scopes around a node -/

theorem mem_openerIds_of_opensScope {node : Node}
    (member : node ∈ model.descendants model.root)
    (opens : OpensScope model node) :
    node.id ∈ openerIds model := by
  rw [openerIds, List.mem_cons, List.mem_filterMap]
  by_cases isRoot : node.id = model.root
  · exact Or.inl isRoot
  · rcases exists_visit wellFormed member isRoot with ⟨visit, isVisit, rfl⟩
    rcases Option.isSome_iff_exists.mp ((scopeKind?_isSome_iff wellFormed isRoot).mpr opens) with
      ⟨kind, isKind⟩
    exact Or.inr ⟨visit, isVisit, by rw [opened?, isKind]; rfl⟩

theorem mem_openerIds_of_mem_openersAround {id : NodeId}
    (reachable : Model.Reachable model.nodes model.root id)
    {opener : Node}
    (around : opener ∈ openersAround model id) :
    opener.id ∈ openerIds model := by
  induction reachable with
  | refl =>
      rw [openersAround_root wellFormed] at around
      cases around
  | tail above listed induction =>
      rcases listed with ⟨parent, member, rfl, childListed⟩
      rw [openersAround_child wellFormed member above childListed] at around
      split at around
      next opens =>
        rcases List.mem_cons.mp around with rfl | further
        · exact mem_openerIds_of_opensScope wellFormed
            (wellFormed.mem_descendants_iff.mpr ⟨member, above⟩) opens
        · exact induction further
      next => exact induction around

end Scopes

/-! ## Looking outwards -/

/-- Searches that agree on every item agree on the list. -/
theorem rel_findSome? {α β γ : Type} {relation : β → γ → Prop} {first : α → Option β}
    {second : α → Option γ} {items : List α}
    (related : ∀ item ∈ items, Option.Rel relation (first item) (second item)) :
    Option.Rel relation (items.findSome? first) (items.findSome? second) := by
  induction items with
  | nil => exact Option.Rel.none
  | cons item rest induction =>
      have atItem := related item List.mem_cons_self
      rw [List.findSome?_cons, List.findSome?_cons]
      cases isFirst : first item with
      | none =>
          cases isSecond : second item with
          | none =>
              exact induction fun other member => related other (List.mem_cons_of_mem _ member)
          | some value =>
              rw [isFirst, isSecond] at atItem
              cases atItem
      | some value =>
          cases isSecond : second item with
          | none =>
              rw [isFirst, isSecond] at atItem
              cases atItem
          | some other => rwa [isFirst, isSecond] at atItem

section Outwards

variable {model : Model} (wellFormed : model.IsWellFormed)

include wellFormed

/-- From the scope around a node a name finds the symbol of what it denotes there. -/
theorem rel_lookup?_denoted? {visit : Visit}
    (member : visit ∈ visits model)
    (name : String) :
    Option.Rel (StandsFor (scoping model) name)
      ((scoping model).lookup? (numberOf model visit.opener) name)
      (denoted? model visit.node.id name) := by
  rw [lookup?_eq_findSome?, chain_visit wellFormed member, List.findSome?_map, denoted?]
  apply rel_findSome?
  intro opener around
  have reachable :=
    (wellFormed.mem_descendants_iff.mp (mem_descendants_of_mem_visits wellFormed member).1).2
  exact rel_get?_firstDeclaration? wellFormed
    (mem_openerIds_of_mem_openersAround wellFormed reachable around)

end Outwards

/-! ## What identifiers denote -/

/--
An identifier with a name of its own refers to the symbol that the name finds, and is unresolved
where it finds none.
-/
theorem exists_identifierResolution? {scoping : Scoping} {node : Node} {scope : ScopeId}
    (named : node.nameText ≠ "")
    (notSelf : isSelfName node.nameText = false)
    (isScope : scoping.scopeOf? node.id = some scope) :
    ∃ resolution,
      identifierResolution? scoping node = some resolution ∧
        resolution.symbol? = scoping.lookup? scope node.nameText ∧
        (resolution = .unresolved ↔ scoping.lookup? scope node.nameText = none) := by
  rw [identifierResolution?, beq_eq_false_iff_ne.mpr named, notSelf]
  rw [← map_fst_lookupFrom? isScope]
  cases found : lookupFrom? scoping node.id node.nameText with
  | none => exact ⟨.unresolved, rfl, rfl, by simp⟩
  | some entry =>
      rcases entry with ⟨id, foundIn⟩
      have looked : scoping.lookup? scope node.nameText = some id := by
        rw [← map_fst_lookupFrom? isScope, found]
        rfl
      simp only [Bool.false_eq_true, if_false]
      split
      · exact ⟨_, rfl, rfl, by simp⟩
      · exact ⟨_, rfl, rfl, by simp⟩

/-- The table keeps what symbols stand for. -/
theorem StandsFor.resolve {model : Model} {name : String} {id : SymbolId} {declaration : Node}
    (standsFor : StandsFor (scoping model) name id declaration) :
    StandsFor (resolve model).toScoping name id declaration := by
  rcases standsFor with ⟨isDeclared, symbol, isSymbol, isName, isDeclaration⟩
  exact ⟨(declaredBy?_resolve _).trans isDeclared, _,
    symbol?_resolve_eq_some_iff.mpr ⟨symbol, isSymbol, rfl⟩, isName, isDeclaration⟩

section Table

variable {model : Model} (wellFormed : model.IsWellFormed)

include wellFormed

/--
Below the root every node lies in the scope that the nearest opener above it opens, and in the
nearest function above it.
-/
theorem resolve_places {node : Node}
    (member : node ∈ model.descendants model.root)
    (notRoot : node.id ≠ model.root) :
    (∃ opener scope,
      (model.ancestors node.id).find? (fun above => OpensScope model above) = some opener ∧
        (resolve model).openedBy? opener.id = some scope ∧
        (resolve model).scopeOf? node.id = some scope) ∧
      (resolve model).enclosingFunction? node.id =
        (model.enclosing? node.id .function).map Node.id := by
  rcases exists_visit wellFormed member notRoot with ⟨visit, isVisit, rfl⟩
  have placed := isPlaced_of_mem_visits wellFormed isVisit
  rcases Option.map_eq_some_iff.mp placed.1 with ⟨opener, isHead, isOpener⟩
  rw [openersAround, List.head?_filter] at isHead
  refine ⟨⟨opener, numberOf model visit.opener, isHead, ?_, ?_⟩, ?_⟩
  · rw [openedBy?_resolve, isOpener]
    exact (openedBy?_eq_some_iff wellFormed).mpr
      (exists_scope wellFormed (mem_openerIds_of_mem_visits isVisit))
  · exact (scopeOf?_resolve _).trans (scopeOf?_visit wellFormed isVisit)
  · rw [placed.2]
    exact (enclosingFunction?_resolve _).trans (enclosingFunction?_visit wellFormed isVisit)

/-- An identifier with a name of its own refers to the symbol of what the name denotes there. -/
theorem resolve_binds {node : Node}
    (member : node ∈ model.descendants model.root)
    (isIdentifier : node.kind = .identifier)
    (named : node.nameText ≠ "")
    (notSelf : isSelfName node.nameText = false) :
    ∃ scope,
      (resolve model).scopeOf? node.id = some scope ∧
        (resolve model).lookup? scope node.nameText = (resolve model).referenced? node.id ∧
        Option.Rel (StandsFor (resolve model).toScoping node.nameText)
          ((resolve model).referenced? node.id) (denoted? model node.id node.nameText) ∧
        ((resolve model).resolution? node.id = some .unresolved ↔
          denoted? model node.id node.nameText = none) := by
  have notModule : node.kind ≠ .module := by simp [isIdentifier]
  have notRoot : node.id ≠ model.root :=
    wellFormed.ne_root_of_kind_ne_module (wellFormed.mem_descendants_iff.mp member).1 notModule
  rcases exists_visit wellFormed member notRoot with ⟨visit, isVisit, rfl⟩
  have isScope := scopeOf?_visit wellFormed isVisit
  rcases exists_identifierResolution? named notSelf isScope with
    ⟨resolution, isResolution, refersTo, unresolved_iff⟩
  have inTable : (resolve model).resolution? visit.node.id = some resolution := by
    rw [resolution?_resolve wellFormed member, resolution?, isIdentifier, ← isResolution]
    rfl
  have related := rel_lookup?_denoted? wellFormed isVisit visit.node.nameText
  have found :
      (resolve model).referenced? visit.node.id =
        (scoping model).lookup? (numberOf model visit.opener) visit.node.nameText := by
    rw [referenced?_eq_bind, inTable, Option.bind_some, refersTo]
  refine ⟨numberOf model visit.opener, (scopeOf?_resolve _).trans isScope,
    by rw [found, lookup?_resolve], ?_⟩
  rw [found, inTable, Option.some_inj, unresolved_iff]
  generalize (scoping model).lookup? (numberOf model visit.opener) visit.node.nameText = looked
    at related ⊢
  generalize denoted? model visit.node.id visit.node.nameText = denoted at related ⊢
  constructor
  · cases related with
    | none => exact Option.Rel.none
    | some standsFor => exact Option.Rel.some standsFor.resolve
  · cases related with
    | none => simp
    | some _ => simp

end Table

/--
Names are resolved by lexical scoping with hoisting.

Every node below the root lies in the scope of the nearest opener above it and in the nearest
function above it.  An identifier with a name of its own refers to the symbol of the first
declaration of the name in the innermost scope around it that declares the name, wherever in that
scope the declaration stands.  Looking the name up from the scope of the identifier gives the same
symbol, and the identifier is unresolved exactly where no scope around it declares the name.
-/
theorem resolve_isLexical {path : SourcePath} {root : NodeId} {nodes : List Node}
    {lineCount : Option UInt32} {model : Model}
    (accepted : Model.ingest path root nodes lineCount = .ok model) :
    (∀ node ∈ model.nodes,
      Model.Reachable model.nodes model.root node.id →
      node.id ≠ model.root →
        (∃ opener scope,
          (model.ancestors node.id).find? (fun above => OpensScope model above) = some opener ∧
            (resolve model).openedBy? opener.id = some scope ∧
            (resolve model).scopeOf? node.id = some scope) ∧
          (resolve model).enclosingFunction? node.id =
            (model.enclosing? node.id .function).map Node.id) ∧
      ∀ node ∈ model.nodes,
        node.kind = .identifier →
        node.nameText ≠ "" →
        isSelfName node.nameText = false →
          ∃ scope,
            (resolve model).scopeOf? node.id = some scope ∧
              (resolve model).lookup? scope node.nameText = (resolve model).referenced? node.id ∧
              Option.Rel (StandsFor (resolve model).toScoping node.nameText)
                ((resolve model).referenced? node.id) (denoted? model node.id node.nameText) ∧
              ((resolve model).resolution? node.id = some .unresolved ↔
                denoted? model node.id node.nameText = none) ∧
              (node.id ∈ (resolve model).unresolved ↔
                denoted? model node.id node.nameText = none) := by
  have wellFormed := Model.IsWellFormed.of_ingest accepted
  constructor
  · intro node isNode reachable notRoot
    exact resolve_places wellFormed (wellFormed.mem_descendants_iff.mpr ⟨isNode, reachable⟩) notRoot
  · intro node isNode isIdentifier named notSelf
    have notComment : node.kind ≠ .comment := by
      rw [isIdentifier]
      decide
    have member := wellFormed.mem_descendants_of_not_comment isNode notComment
    rcases resolve_binds wellFormed member isIdentifier named notSelf with
      ⟨scope, isScope, looked, bound, unresolved⟩
    exact ⟨scope, isScope, looked, bound, unresolved,
      (mem_unresolved_iff wellFormed).trans unresolved⟩

/-- A module with a variable, and a function that returns a name before it declares it. -/
def hoistingModule : Model :=
  let lines (startLine endLine : UInt32) : Span :=
    { startLine, startCol := 1, endLine, endCol := 9 }
  .linked
    { path := { text := "hoisting.ir.json" }
      root := { index := 0 }
      lineCount := some 5
      nodes :=
        [{ id := { index := 0 }, kind := .module, span := lines 1 5,
            children := [{ index := 1 }, { index := 2 }] },
          { id := { index := 1 }, kind := .statement, span := lines 1 1, name := some "limit"
            statement := some .varDecl },
          { id := { index := 2 }, kind := .function, span := lines 2 5, name := some "run"
            children := [{ index := 3 }] },
          { id := { index := 3 }, kind := .statement, span := lines 3 5, statement := some .block
            children := [{ index := 4 }, { index := 6 }] },
          { id := { index := 4 }, kind := .statement, span := lines 3 4, statement := some .return
            children := [{ index := 5 }] },
          { id := { index := 5 }, kind := .identifier, span := lines 4 4, name := some "limit" },
          { id := { index := 6 }, kind := .statement, span := lines 5 5, name := some "limit"
            statement := some .varDecl }] }

/--
The returned name is the variable that the function declares after it, not that of the
module.
-/
theorem hoistingModule_binds_later_declaration :
    Model.ingest hoistingModule.path hoistingModule.root hoistingModule.nodes
        hoistingModule.lineCount = .ok hoistingModule ∧
      ∃ scope symbol,
        (resolve hoistingModule).scopeOf? { index := 5 } = some scope ∧
          (resolve hoistingModule).openedBy? { index := 2 } = some scope ∧
          (resolve hoistingModule).lookup? scope "limit" = some symbol ∧
          (resolve hoistingModule).referenced? { index := 5 } = some symbol ∧
          (resolve hoistingModule).declaredBy? { index := 6 } = some symbol ∧
          (resolve hoistingModule).declaredBy? { index := 1 } ≠ some symbol := by
  have accepted :
      Model.ingest hoistingModule.path hoistingModule.root hoistingModule.nodes
        hoistingModule.lineCount = .ok hoistingModule := rfl
  have member : hoistingModule.nodes[5] ∈ hoistingModule.nodes := List.getElem_mem _
  have isLexical := resolve_isLexical accepted
  rcases isLexical.2 hoistingModule.nodes[5] member rfl (by decide) rfl with
    ⟨scope, isScope, looked, bound, _⟩
  have denoted :
      denoted? hoistingModule { index := 5 } "limit" = some hoistingModule.nodes[6] := by rfl
  change Option.Rel _ _ (denoted? hoistingModule { index := 5 } "limit") at bound
  rw [denoted] at bound
  generalize isReferenced : (resolve hoistingModule).referenced? _ = referenced at bound looked
  cases bound with
  | some standsFor =>
      have functionScope :
          (resolve hoistingModule).openedBy? { index := 2 } =
            (resolve hoistingModule).scopeOf? { index := 5 } := by rfl
      have declaredApart :
          (resolve hoistingModule).declaredBy? { index := 1 } ≠
            (resolve hoistingModule).declaredBy? { index := 6 } := by decide
      have isDeclared := standsFor.1
      exact ⟨accepted, scope, _, isScope, functionScope.trans isScope, looked, isReferenced,
        isDeclared, fun same => declaredApart (same.trans isDeclared.symm)⟩

end StructuralLint.Symbols
