import StructuralLint.Proofs.BuilderCalls

/-!
# Links to parents

A node is appended before its parent is looked up, so the id that is about to be given counts as
present.  A request that names an older parent is answered, and its node is linked to a smaller
position; a request that names a greater id fails.  Between the two stands the id of the node
itself: the node becomes its own parent, and the walk over its ancestors does not end.

No other walk is endless.  Parents stand before their children in every builder that requests lead
to, so the position of the walk falls at each step.
-/

namespace StructuralLint.Model.Builder

open Relation

/-! ## The walk over the ancestors -/

/--
Where the walk over a position and its ancestors stands after a number of steps, if it has not
ended.
-/
def walkedTo (parents : List (Option Nat)) (start : Nat) : Nat → Option Nat
  | 0 => some start
  | steps + 1 => (walkedTo parents start steps).bind fun index => parents[index]?.join

section Walk

variable {parents : List (Option Nat)} {start : Nat}

/-- The first step may be taken apart instead of the last one. -/
theorem walkedTo_succ_of_parent {parent : Nat} (isParent : HasParent parents parent start)
    (steps : Nat) :
    walkedTo parents start (steps + 1) = walkedTo parents parent steps := by
  induction steps with
  | zero => exact join_getElem?_eq_some_iff.mpr isParent
  | succ steps induction =>
      rw [walkedTo, induction]
      rfl

/-- Each step leads at least one position down. -/
theorem add_le_of_walkedTo (back : PointsBack parents) {steps index : Nat}
    (walked : walkedTo parents start steps = some index) :
    index + steps ≤ start := by
  induction steps generalizing index with
  | zero => exact Nat.le_of_eq (Option.some_inj.mp walked).symm
  | succ steps induction =>
      rcases Option.bind_eq_some_iff.mp walked with ⟨child, before, isParent⟩
      have less := back index child (join_getElem?_eq_some_iff.mp isParent)
      have bounded := induction before
      omega

theorem walkedTo_eq_none (back : PointsBack parents) {steps : Nat} (enough : start < steps) :
    walkedTo parents start steps = none := by
  cases walked : walkedTo parents start steps with
  | none => rfl
  | some index =>
      have bounded := add_le_of_walkedTo back walked
      omega

/-- A position that is its own parent is never left. -/
theorem walkedTo_of_own_parent (own : HasParent parents start start) (steps : Nat) :
    walkedTo parents start steps = some start := by
  induction steps with
  | zero => rfl
  | succ steps induction =>
      rw [walkedTo_succ_of_parent own]
      exact induction

/-- Once the walk has ended, more levels change nothing. -/
theorem growWithin_add_of_walked (stop : Position) {steps : Nat}
    (ended : walkedTo parents start steps = none) (further : Nat) (nodes : List Node) :
    growWithin parents stop (steps + further) start nodes =
      growWithin parents stop steps start nodes := by
  induction steps generalizing start nodes with
  | zero => cases ended
  | succ steps induction =>
      rw [Nat.add_right_comm, growWithin, growWithin]
      cases hasParent : parents[start]?.join with
      | none => rfl
      | some parent =>
          rw [walkedTo_succ_of_parent (join_getElem?_eq_some_iff.mp hasParent)] at ended
          exact induction ended _

end Walk

/-! ## One link -/

/--
A node is created and linked to an older one, or to none; no other link changes.  The walk over
its ancestors ends within as many steps as there are older nodes, so the bound on the levels that
grow cuts nothing off.
-/
structure LinksNode (before : Builder) (parent : Option Nat) (after : Builder) : Prop where
  ids : after.nodes.map Node.id = before.nodes.map Node.id ++ [idAt before.nodes.length]
  parents : after.parents = before.parents ++ [parent]
  older : ∀ index, parent = some index → index < before.nodes.length
  ends : ∀ index, parent = some index → walkedTo after.parents index before.nodes.length = none
  whole : ∀ index, parent = some index → ∀ stop further nodes,
    growWithin after.parents stop (before.nodes.length + further) index nodes =
      growWithin after.parents stop before.nodes.length index nodes

/-- Some node is created and linked to an older one. -/
def LinksFurther (before after : Builder) : Prop :=
  ∃ index, LinksNode before (some index) after

namespace LinksNode

variable {before after : Builder} {parent : Option Nat} (links : LinksNode before parent after)

include links

theorem length_eq : after.nodes.length = before.nodes.length + 1 := by
  have lengths := congrArg List.length links.ids
  rw [List.length_map, List.length_append, List.length_map] at lengths
  exact lengths

theorem isLinked (linked : before.IsLinked) : after.IsLinked := by
  constructor
  case length =>
    rw [links.parents, List.length_append, linked.length, links.length_eq]
    rfl
  case back =>
    rw [links.parents]
    apply linked.back.append
    rw [linked.length]
    exact links.older

/-- Neither the counters nor the contents of the nodes take part in a link. -/
theorem congr {earlier later : Builder}
    (sameNodes : earlier.nodes = before.nodes)
    (sameParents : earlier.parents = before.parents)
    (sameIds : later.nodes.map Node.id = after.nodes.map Node.id)
    (sameLinks : later.parents = after.parents) :
    LinksNode earlier parent later := by
  refine ⟨?_, ?_, ?_, ?_, ?_⟩
  · rw [sameIds, sameNodes]
    exact links.ids
  · rw [sameLinks, sameParents]
    exact links.parents
  · rw [sameNodes]
    exact links.older
  · rw [sameNodes, sameLinks]
    exact links.ends
  · rw [sameNodes, sameLinks]
    exact links.whole

end LinksNode

/-! ## One node below a parent -/

/-- A parent that is no older node is not taken. -/
structure RefusesNewer {α : Type} (builder : Builder) (parent : NodeId)
    (result : Except Fault α) : Prop where
  missing : builder.nodes.length < parent.index.toNat → result = .error (.missingParent parent)
  own : parent.index.toNat = builder.nodes.length → result = .error (.ownParent parent)

/-- What comes after a refusal is not reached. -/
theorem RefusesNewer.bind {α β : Type} {builder : Builder} {parent : NodeId}
    {result : Except Fault α} (refuses : RefusesNewer builder parent result)
    (next : α → Except Fault β) :
    RefusesNewer builder parent (result >>= next) where
  missing := by
    intro beyond
    rw [refuses.missing beyond]
    rfl
  own := by
    intro atEnd
    rw [refuses.own atEnd]
    rfl

/-- How the creation of one node below a parent ends. -/
structure CreatesOne (builder : Builder) (parent : NodeId)
    (result : Except Fault (NodeId × Builder)) : Prop
    extends RefusesNewer builder parent result where
  older : parent.index.toNat < builder.nodes.length →
    ∃ after,
      result = .ok (idAt builder.nodes.length, after) ∧
        LinksNode builder (some parent.index.toNat) after

section CreateOne

variable {builder : Builder} {parent : NodeId}

theorem createsOne_allocate (linked : builder.IsLinked) (kind : NodeKind) (span : Span) :
    CreatesOne builder parent (builder.allocate kind span (some parent)) where
  older := by
    intro present
    rcases exists_allocate_some linked present kind span with ⟨after, isAfter, adds, _⟩
    have ids := adds.map_eq (f := Node.id) fun kept => kept.id
    have older (index : Nat) (isParent : some parent.index.toNat = some index) :
        index < builder.nodes.length := by
      rw [← Option.some_inj.mp isParent]
      exact present
    have back : PointsBack after.parents := by
      rw [adds.parents]
      apply linked.back.append
      rw [linked.length]
      exact older
    have ends (index : Nat) (isParent : some parent.index.toNat = some index) :
        walkedTo after.parents index builder.nodes.length = none :=
      walkedTo_eq_none back (older index isParent)
    refine ⟨after, isAfter, ids, adds.parents, older, ends, ?_⟩
    intro index isParent stop further nodes
    exact growWithin_add_of_walked stop (ends index isParent) further nodes
  missing := by
    intro beyond
    rw [allocate]
    dsimp only
    rw [if_pos beyond]
  own := by
    intro atEnd
    rw [allocate]
    dsimp only
    rw [if_neg (Nat.not_lt.mpr (Nat.le_of_eq atEnd)), if_pos (beq_iff_eq.mpr atEnd)]

/-- What is written into the new node afterwards does not matter. -/
theorem CreatesOne.changed {moved : Builder} {result : Except Fault (NodeId × Builder)}
    (creates : CreatesOne moved parent result)
    (change : NodeId → Builder → Builder)
    (sameNodes : builder.nodes = moved.nodes)
    (sameParents : builder.parents = moved.parents)
    (sameIds : ∀ id after, (change id after).nodes.map Node.id = after.nodes.map Node.id)
    (sameLinks : ∀ id after, (change id after).parents = after.parents) :
    CreatesOne builder parent (do
      let (id, after) ← result
      return (id, change id after)) where
  toRefusesNewer := by
    constructor
    all_goals rw [sameNodes]
    case missing => exact (creates.bind _).missing
    case own => exact (creates.bind _).own
  older := by
    rw [sameNodes]
    intro present
    rcases creates.older present with ⟨after, rfl, links⟩
    exact ⟨change (idAt moved.nodes.length) after, rfl,
      links.congr sameNodes sameParents (sameIds _ _) (sameLinks _ _)⟩

theorem CreatesOne.written {result : Except Fault (NodeId × Builder)}
    (creates : CreatesOne builder parent result)
    (write : Node → Node)
    (keepsId : ∀ node, (write node).id = node.id) :
    CreatesOne builder parent (do
      let (id, after) ← result
      return (id, after.modify id write)) :=
  creates.changed (fun id after => after.modify id write) rfl rfl
    (fun id after => map_id_modify write keepsId after id) fun _ _ => rfl

variable (linked : builder.IsLinked)

include linked

theorem createsOne_lineNode (kind : NodeKind) (name : Option String) :
    CreatesOne builder parent (builder.lineNode parent kind name) := by
  let write (node : Node) : Node := { node with name, comments := builder.pendingComments }
  have moved : ({ builder with line := builder.line + 1, column := 1 } : Builder).IsLinked :=
    ⟨linked.length, linked.back⟩
  exact (createsOne_allocate moved kind _).changed
    (fun id added => { added.modify id write with pendingComments := [] }) rfl rfl
    (fun id added => map_id_modify write (fun _ => rfl) added id) fun _ _ => rfl

theorem createsOne_inlineNode (kind : NodeKind) (name : Option String) (width : UInt32) :
    CreatesOne builder parent (builder.inlineNode parent kind name width) := by
  let write (node : Node) : Node := { node with name }
  let last := builder.column + 1 + (if width == 0 then 1 else width) - 1
  have moved : ({ builder with column := last } : Builder).IsLinked := ⟨linked.length, linked.back⟩
  exact (createsOne_allocate moved kind _).changed (fun id added => added.modify id write) rfl rfl
    (fun id added => map_id_modify write (fun _ => rfl) added id) fun _ _ => rfl

theorem createsOne_addStatement (kind : StatementKind) :
    CreatesOne builder parent (builder.addStatement parent kind) :=
  (createsOne_lineNode linked .statement none).written
    (fun node => { node with statement := some kind }) fun _ => rfl

theorem createsOne_addExpr (kind : ExprKind) :
    CreatesOne builder parent (builder.addExpr parent kind) :=
  (createsOne_inlineNode linked .expression none 1).written
    (fun node => { node with expression := some kind }) fun _ => rfl

theorem createsOne_addIdentifier (name : String) :
    CreatesOne builder parent (builder.addIdentifier parent name) :=
  createsOne_inlineNode linked .identifier (some name) _

theorem createsOne_addMember (name : String) :
    CreatesOne builder parent (builder.addMember parent name) :=
  (createsOne_inlineNode linked .expression (some name) _).written
    (fun node => { node with expression := some .member }) fun _ => rfl

end CreateOne

/-! ## Requests -/

/--
How a request that names a parent ends: its first node is linked to the parent if the parent is
older, and further nodes are linked one after another.
-/
structure CreatesBelow {α : Type} (builder : Builder) (parent : NodeId)
    (result : Except Fault (α × Builder)) : Prop
    extends RefusesNewer builder parent result where
  older : parent.index.toNat < builder.nodes.length →
    ∃ value first after,
      result = .ok (value, after) ∧ LinksNode builder (some parent.index.toNat) first ∧
        ReflTransGen LinksFurther first after

section Requests

variable {builder : Builder} {parent : NodeId}

theorem CreatesOne.below {result : Except Fault (NodeId × Builder)}
    (creates : CreatesOne builder parent result) :
    CreatesBelow builder parent result where
  toRefusesNewer := creates.toRefusesNewer
  older := by
    intro present
    rcases creates.older present with ⟨after, isAfter, links⟩
    exact ⟨_, after, after, isAfter, links, ReflTransGen.refl⟩

theorem CreatesBelow.map {α β : Type} {result : Except Fault (α × Builder)}
    (creates : CreatesBelow builder parent result) (f : α → β) :
    CreatesBelow builder parent (do
      let (value, after) ← result
      return (f value, after)) where
  toRefusesNewer := creates.bind _
  older := by
    intro present
    rcases creates.older present with ⟨value, first, after, rfl, links, more⟩
    exact ⟨f value, first, after, rfl, links, more⟩

/-- What follows the first node of a request creates further ones. -/
theorem CreatesOne.followed {α : Type} {result : Except Fault (NodeId × Builder)}
    (creates : CreatesOne builder parent result)
    (next : NodeId × Builder → Except Fault (α × Builder))
    (further : ∀ first, LinksNode builder (some parent.index.toNat) first →
      ∃ value after,
        next (idAt builder.nodes.length, first) = .ok (value, after) ∧
          ReflTransGen LinksFurther first after) :
    CreatesBelow builder parent (result >>= next) where
  toRefusesNewer := creates.bind next
  older := by
    intro present
    rcases creates.older present with ⟨first, rfl, links⟩
    rcases further first links with ⟨value, after, isAfter, more⟩
    exact ⟨value, first, after, isAfter, links, more⟩

/-- A node that has just been created is an older one for the next. -/
theorem CreatesOne.afterwards {before after : Builder} {above : Option Nat}
    {result : Except Fault (NodeId × Builder)}
    (links : LinksNode before above after)
    (creates : CreatesOne after (idAt before.nodes.length) result) :
    ∃ later, result = .ok (idAt after.nodes.length, later) ∧
      LinksNode after (some (idAt before.nodes.length).index.toNat) later := by
  apply creates.older
  rw [links.length_eq]
  exact Nat.lt_succ_of_le (toNat_idAt_le _)

variable (linked : builder.IsLinked)

include linked

theorem createsBelow_addCall (name : String) :
    CreatesBelow builder parent (builder.addCall parent name) := by
  refine (createsOne_addExpr linked .call).followed _ ?_
  intro first links
  rcases (createsOne_addIdentifier (links.isLinked linked) name).afterwards links with
    ⟨later, isLater, further⟩
  refine ⟨idAt builder.nodes.length, later, ?_, ReflTransGen.single ⟨_, further⟩⟩
  dsimp only
  rw [isLater]
  rfl

theorem createsBelow_addChainedCall (method : String) :
    CreatesBelow builder parent (builder.addChainedCall parent method) := by
  refine (createsOne_addExpr linked .call).followed _ ?_
  intro first links
  rcases (createsOne_addMember (links.isLinked linked) method).afterwards links with
    ⟨later, isLater, further⟩
  refine ⟨(idAt builder.nodes.length, idAt first.nodes.length), later, ?_,
    ReflTransGen.single ⟨_, further⟩⟩
  dsimp only
  rw [isLater]
  rfl

theorem createsBelow_addMethodCall (object method : String) :
    CreatesBelow builder parent (builder.addMethodCall parent object method) := by
  rw [addMethodCall, addChainedCall, bind_assoc]
  refine (createsOne_addExpr linked .call).followed _ ?_
  intro first links
  have firstLinked := links.isLinked linked
  rcases (createsOne_addMember firstLinked method).afterwards links with
    ⟨second, isSecond, further⟩
  rcases (createsOne_addIdentifier (further.isLinked firstLinked) object).afterwards further with
    ⟨third, isThird, more⟩
  refine ⟨idAt builder.nodes.length, third, ?_,
    (ReflTransGen.single ⟨_, further⟩).tail ⟨_, more⟩⟩
  dsimp only
  rw [isSecond]
  show (second.addIdentifier (idAt first.nodes.length) object >>= _) = _
  rw [isThird]
  rfl

/-- A request is answered unless the parent that it names is not older than its first node. -/
theorem createsBelow_run {call : Call} (below : call.parent? = some parent) :
    CreatesBelow builder parent (builder.run call) := by
  cases call with
  | module name => cases below
  | comment text => cases below
  | declaration kind parent name =>
      cases below
      exact (createsOne_lineNode linked kind (some name)).below
  | parameter parent name typeName =>
      cases below
      exact ((createsOne_lineNode linked .parameter (some name)).written
        (fun node => { node with attributes := { node.attributes with typeName } })
        fun _ => rfl).below
  | statement parent kind =>
      cases below
      exact (createsOne_addStatement linked kind).below
  | binding parent kind name =>
      cases below
      exact ((createsOne_addStatement linked kind).written
        (fun node => { node with name := some name }) fun _ => rfl).below
  | expr parent kind =>
      cases below
      exact (createsOne_addExpr linked kind).below
  | identifier parent name =>
      cases below
      exact (createsOne_addIdentifier linked name).below
  | member parent name =>
      cases below
      exact (createsOne_addMember linked name).below
  | operator parent kind operator =>
      cases below
      exact ((createsOne_addExpr linked kind).written
        (fun node => { node with operator := some operator }) fun _ => rfl).below
  | call parent name =>
      cases below
      exact createsBelow_addCall linked name
  | methodCall parent object method =>
      cases below
      exact createsBelow_addMethodCall linked object method
  | chainedCall parent method =>
      cases below
      exact (createsBelow_addChainedCall linked method).map Prod.snd
  | literal parent value =>
      cases below
      exact ((createsOne_inlineNode linked .literal none _).written
        (fun node => { node with literal := some value }) fun _ => rfl).below

omit linked

/-- A request that names no parent is answered, and its node has none. -/
theorem exists_run_of_no_parent {call : Call} (below : call.parent? = none) :
    ∃ id after, builder.run call = .ok (id, after) ∧ LinksNode builder none after := by
  have unlinked (kind : NodeKind) (span : Span) (write : Node → Node)
      (keepsId : ∀ node, (write node).id = node.id) {later : Builder}
      (nodes : later.nodes =
        (builder.nodes ++ [({ id := idAt builder.nodes.length, kind, span } : Node)]).modify
          (idAt builder.nodes.length).index.toNat write)
      (parents : later.parents = builder.parents ++ [none]) :
      LinksNode builder none later := by
    refine ⟨?_, parents, ?_, ?_, ?_⟩
    · rw [nodes, map_modify_eq keepsId, List.map_append]
      rfl
    all_goals
      intro index isParent
      cases isParent
  cases call with
  | module name =>
      exact ⟨_, _, rfl, unlinked .module _ (fun node => { node with name := some name })
        (fun _ => rfl) rfl rfl⟩
  | comment text =>
      exact ⟨_, _, rfl, unlinked .comment _ (fun node => { node with text := some text })
        (fun _ => rfl) rfl rfl⟩
  | _ => cases below

end Requests

/-! ## Runs -/

/--
How a request ends.  Where the node would be its own parent, the position of the walk never
falls.
-/
structure LinksBack (builder : Builder) (call : Call) : Prop where
  unnamed : call.parent? = none →
    ∃ id after, builder.run call = .ok (id, after) ∧ LinksNode builder none after
  older : ∀ parent, call.parent? = some parent → parent.index.toNat < builder.nodes.length →
    ∃ id first after,
      builder.run call = .ok (id, after) ∧ LinksNode builder (some parent.index.toNat) first ∧
        ReflTransGen LinksFurther first after
  missing : ∀ parent, call.parent? = some parent → builder.nodes.length < parent.index.toNat →
    builder.run call = .error (.missingParent parent)
  own : ∀ parent, call.parent? = some parent → parent.index.toNat = builder.nodes.length →
    builder.run call = .error (.ownParent parent) ∧
      ∀ steps,
        walkedTo (builder.parents ++ [some parent.index.toNat]) parent.index.toNat steps =
          some builder.nodes.length

section Runs

variable {builder : Builder}

theorem IsLinked.linksBack (linked : builder.IsLinked) (call : Call) : LinksBack builder call where
  unnamed := exists_run_of_no_parent
  older := fun _ below => (createsBelow_run linked below).older
  missing := fun _ below => (createsBelow_run linked below).missing
  own := by
    intro parent below atEnd
    refine ⟨(createsBelow_run linked below).own atEnd, ?_⟩
    intro steps
    rw [atEnd]
    apply walkedTo_of_own_parent
    rw [← linked.length]
    exact hasParent_append_iff.mpr (Or.inr ⟨rfl, rfl⟩)

theorem IsLinked.further {after : Builder} (linked : builder.IsLinked)
    (further : ReflTransGen LinksFurther builder after) :
    after.IsLinked := by
  induction further with
  | refl => exact linked
  | tail _ links induction =>
      rcases links with ⟨_, links⟩
      exact links.isLinked induction

/-- What a request that is answered leaves behind is linked again. -/
theorem IsLinked.run (linked : builder.IsLinked) {call : Call} {id : NodeId} {after : Builder}
    (answered : builder.run call = .ok (id, after)) :
    after.IsLinked := by
  have links := linked.linksBack call
  cases below : call.parent? with
  | none =>
      rcases links.unnamed below with ⟨_, _, isAfter, linksNode⟩
      rw [isAfter] at answered
      cases answered
      exact linksNode.isLinked linked
  | some parent =>
      rcases Nat.lt_trichotomy parent.index.toNat builder.nodes.length with present | atEnd | beyond
      · rcases links.older parent below present with ⟨_, first, _, isAfter, linksNode, more⟩
        rw [isAfter] at answered
        cases answered
        exact (linksNode.isLinked linked).further more
      · rw [(links.own parent below atEnd).1] at answered
        cases answered
      · rw [links.missing parent below beyond] at answered
        cases answered

/-- Edits do not touch the links. -/
theorem IsLinked.act (linked : builder.IsLinked) {action : Action} {after : Builder}
    (answered : builder.act action = .ok after) :
    after.IsLinked := by
  cases action with
  | create call =>
      rw [Builder.act] at answered
      cases ran : builder.run call with
      | error fault =>
          rw [ran] at answered
          cases answered
      | ok result =>
          rw [ran] at answered
          cases answered
          exact linked.run ran
  | edit id change =>
      cases answered
      constructor
      case length => exact linked.length.trans (List.length_modify _ _ _).symm
      case back => exact linked.back

theorem IsLinked.actAll (linked : builder.IsLinked) {actions : List Action} {after : Builder}
    (answered : builder.actAll actions = .ok after) :
    after.IsLinked := by
  induction actions generalizing builder with
  | nil =>
      cases answered
      exact linked
  | cons action actions induction =>
      rw [Builder.actAll, List.foldlM_cons] at answered
      cases acted : builder.act action with
      | error fault =>
          rw [acted] at answered
          cases answered
      | ok next =>
          rw [acted] at answered
          exact induction (linked.act acted) answered

end Runs

/--
After any actions, each request is answered and links its nodes to older ones, fails since the
parent that it names is not there, or names the node that it creates and is caught in the walk over
the ancestors.
-/
theorem actAll_linksBack
    (path : SourcePath)
    (actions : List Action)
    (builder : Builder)
    (answered : ({ path } : Builder).actAll actions = .ok builder) :
    builder.IsLinked ∧ ∀ call, LinksBack builder call := by
  have linked : ({ path } : Builder).IsLinked := by
    constructor
    case length => rfl
    case back =>
      intro parent child isParent
      cases isParent
  exact ⟨linked.actAll answered, (linked.actAll answered).linksBack⟩

/-- A module with one class, which is renamed. -/
def classActions : List Action :=
  [.create (.module "m"), .create (.declaration .class { index := 0 } "C"),
    .edit { index := 1 } fun node => { node with name := some "D" }]

theorem classActions_linksBack :
    ∃ builder,
      ({ path := { text := "m.ir.json" } } : Builder).actAll classActions = .ok builder ∧
        builder.parents = [none, some 0] ∧ builder.IsLinked ∧ ∀ call, LinksBack builder call :=
  ⟨_, rfl, rfl, actAll_linksBack _ classActions _ rfl⟩

/--
The first class is placed below the id that it is about to get: that id counts as present, and
the walk over its ancestors stays where it is.
-/
theorem exists_class_below_itself :
    ∃ builder,
      ({ path := { text := "m.ir.json" } } : Builder).actAll [.create (.module "m")] =
          .ok builder ∧
        builder.parents = [none] ∧
        builder.run (.declaration .class { index := 1 } "C") =
          .error (.ownParent { index := 1 }) ∧
        ∀ steps, walkedTo (builder.parents ++ [some 1]) 1 steps = some 1 :=
  ⟨_, rfl, rfl, rfl, walkedTo_of_own_parent rfl⟩

end StructuralLint.Model.Builder
