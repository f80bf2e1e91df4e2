import StructuralLint.Proofs.NodeCreation

/-!
# Requests in source order

Nodes are created in source order when each is added below the node that was created last, comments
apart, or below one of its ancestors.  Every request creates one, two or three nodes one after
another, and each of them is placed in the same way: it starts no earlier than the cursor, the
cursor moves to its end, and it takes the comments that wait if it starts a line.  Requests in
source order are therefore answered, and what holds after a run has only to be kept by a step.
-/

namespace StructuralLint

/-- A declaration, a parameter or a statement: it starts a line and owns the comments before it. -/
def Node.startsLine (node : Node) : Bool :=
  [NodeKind.class, .function, .parameter, .statement].contains node.kind

namespace Model.Builder

/-! ## Source order -/

/-- The node that was created last, comments apart. -/
def IsLatest (builder : Builder) (node : Node) : Prop :=
  ∃ front comments,
    builder.nodes = front ++ node :: comments ∧ node.kind ≠ .comment ∧
      ∀ comment ∈ comments, comment.kind = .comment

/--
The latest node and its ancestors are open: a node that is added below one of them stands behind
everything that was created before.
-/
def IsOpen (builder : Builder) (id : NodeId) : Prop :=
  ∃ latest, builder.IsLatest latest ∧ Reachable builder.nodes id latest.id

/-- The lines that a request starts. -/
def Call.lines : Call → Nat
  | .declaration .. | .parameter .. | .statement .. | .binding .. | .comment _ => 1
  | _ => 0

/-- The columns that a name or a literal takes: at least one. -/
def columnsOf (width : UInt32) : Nat :=
  max 1 width.toNat

/-- The columns that a request takes on the current line. -/
def Call.columns : Call → Nat
  | .expr .. | .operator .. => 1
  | .identifier _ name | .member _ name => columnsOf name.utf8ByteSize.toUInt32
  | .call _ name => 1 + columnsOf name.utf8ByteSize.toUInt32
  | .chainedCall _ method => 1 + columnsOf method.utf8ByteSize.toUInt32
  | .methodCall _ object method =>
      1 + columnsOf method.utf8ByteSize.toUInt32 + columnsOf object.utf8ByteSize.toUInt32
  | .literal _ value => columnsOf value.text.length.toUInt32
  | _ => 0

/-- The node below which a request creates another. -/
def Call.parent? : Call → Option NodeId
  | .module _ | .comment _ => none
  | .declaration _ parent _ | .parameter parent _ _ | .statement parent _ | .binding parent _ _
  | .expr parent _ | .identifier parent _ | .member parent _ | .operator parent _ _
  | .call parent _ | .methodCall parent _ _ | .chainedCall parent _ | .literal parent _ =>
      some parent

/--
A request that keeps the source order: the module has been created, declarations are of classes
and functions, the parent is open, and the counters of lines and columns stay below `UInt32.size`.
-/
structure Allows (builder : Builder) (call : Call) : Prop where
  notModule : ∀ name, call ≠ .module name
  declares : ∀ kind parent name, call = .declaration kind parent name →
    kind = .class ∨ kind = .function
  below : ∀ parent, call.parent? = some parent → builder.IsOpen parent
  lines : builder.line.toNat + call.lines < UInt32.size
  columns : builder.column.toNat + call.columns < UInt32.size

/-- What the tree and the layout are read from: a node without its names, texts and attributes. -/
def outline (node : Node) : Node :=
  { id := node.id, kind := node.kind, span := node.span, children := node.children
    comments := node.comments }

/--
An action that keeps the source order: a request that does, or an edit that leaves the tree and
the layout alone.
-/
def Permits (builder : Builder) : Action → Prop
  | .create call => builder.Allows call
  | .edit id change =>
      ∀ node, builder.node? id = some node → outline (change node) = outline node

/-- Each action keeps the source order when it is taken. -/
def InSourceOrder : Builder → List Action → Prop
  | _, [] => True
  | builder, action :: actions =>
      builder.Permits action ∧
        ∀ next, builder.act action = .ok next → next.InSourceOrder actions

/-! ## Placing a node -/

/-- Where the next node stands at the earliest. -/
def cursor (builder : Builder) : Position :=
  { line := builder.line, column := builder.column }

/-- How a node but a comment is placed. -/
structure PlacesInTree (before : Builder) (node : Node) (after : Builder) : Prop where
  below : ∃ parent, before.IsOpen parent ∧ Adds before (some parent.index.toNat) node after
  starts : before.cursor ≤ node.span.start
  stops : node.span.stop = after.cursor
  owns : node.startsLine = true →
    node.comments = before.pendingComments ∧ after.pendingComments = []
  passes : node.startsLine = false →
    node.comments = [] ∧ after.pendingComments = before.pendingComments

/-- How a comment is placed. -/
structure PlacesComment (before : Builder) (node : Node) (after : Builder) : Prop where
  adds : Adds before none node after
  advances : before.cursor ≤ after.cursor
  endsInFile : node.span.endLine ≤ after.line
  comments : node.comments = []
  waits : after.pendingComments = before.pendingComments ++ [node.id]

/-- How a node is placed. -/
structure Places (before : Builder) (node : Node) (after : Builder) : Prop where
  id : node.id = idAt before.nodes.length
  childless : node.children = []
  ordered : node.span.start ≤ node.span.stop
  inTree : node.kind ≠ .comment → PlacesInTree before node after
  comment : node.kind = .comment → PlacesComment before node after

/-- A node of a kind is created.  How it is placed is said only while its id is not taken. -/
structure Creates (before : Builder) (kind : NodeKind) (after : Builder) : Prop where
  root : after.root = before.root
  ids : after.nodes.map Node.id = before.nodes.map Node.id ++ [idAt before.nodes.length]
  parents : ∃ parent, after.parents = before.parents ++ [parent] ∧
    ∀ index, parent = some index → index < before.nodes.length
  places : before.nodes.length < UInt32.size →
    ∃ node, node.kind = kind ∧ Places before node after

/-- Some node is created. -/
def Step (before after : Builder) : Prop :=
  ∃ kind, Creates before kind after

theorem outline_eq_iff {first second : Node} :
    outline first = outline second ↔
      first.id = second.id ∧ first.kind = second.kind ∧ first.span = second.span ∧
        first.children = second.children ∧ first.comments = second.comments := by
  simp only [outline, Node.mk.injEq, and_true]

/-- A change of a node that concerns neither the tree nor the layout. -/
def IsHarmless (change : Node → Node) : Prop :=
  ∀ node, outline (change node) = outline node

theorem map_id_modify (change : Node → Node) (same : ∀ node, (change node).id = node.id)
    (builder : Builder) (id : NodeId) :
    (builder.modify id change).nodes.map Node.id = builder.nodes.map Node.id :=
  map_modify_eq same builder.nodes id.index.toNat

namespace Creates

variable {before after : Builder} {kind : NodeKind} (creates : Creates before kind after)

include creates

theorem length_eq : after.nodes.length = before.nodes.length + 1 := by
  have lengths := congrArg List.length creates.ids
  rw [List.length_map, List.length_append, List.length_map] at lengths
  exact lengths

theorem isLinked (linked : before.IsLinked) : after.IsLinked := by
  rcases creates.parents with ⟨parent, parents, isBefore⟩
  constructor
  case length =>
    rw [parents, List.length_append, linked.length, creates.length_eq]
    rfl
  case back =>
    rw [parents]
    apply linked.back.append
    rw [linked.length]
    exact isBefore

/-- The new node may be changed where neither the tree nor the layout depends on it. -/
theorem modify (change : Node → Node) (harmless : IsHarmless change) :
    Creates before kind (after.modify (idAt before.nodes.length) change) := by
  refine ⟨creates.root, ?_, creates.parents, ?_⟩
  · rw [map_id_modify change fun node => (outline_eq_iff.mp (harmless node)).1]
    exact creates.ids
  · intro small
    rcases creates.places small with ⟨node, isKind, places⟩
    rcases outline_eq_iff.mp (harmless node) with
      ⟨sameId, sameKind, sameSpan, sameChildren, sameComments⟩
    have sameLine : (change node).startsLine = node.startsLine := by
      rw [Node.startsLine, Node.startsLine, sameKind]
    refine ⟨change node, sameKind.trans isKind, sameId.trans places.id,
      sameChildren.trans places.childless, ?_, ?_, ?_⟩
    · rw [sameSpan]
      exact places.ordered
    · intro notComment
      rw [sameKind] at notComment
      have inTree := places.inTree notComment
      rcases inTree.below with ⟨parent, isOpen, adds⟩
      refine ⟨⟨parent, isOpen, adds.modify change small sameId sameSpan⟩, ?_, ?_, ?_, ?_⟩
      · rw [sameSpan]
        exact inTree.starts
      · rw [sameSpan]
        exact inTree.stops
      · rw [sameLine, sameComments]
        exact inTree.owns
      · rw [sameLine, sameComments]
        exact inTree.passes
    · intro isComment
      rw [sameKind] at isComment
      have comment := places.comment isComment
      refine ⟨comment.adds.modify change small sameId sameSpan, comment.advances, ?_, ?_, ?_⟩
      · rw [sameSpan]
        exact comment.endsInFile
      · rw [sameComments]
        exact comment.comments
      · rw [sameId]
        exact comment.waits

/-- The new node is open unless it is a comment. -/
theorem isOpen (small : before.nodes.length < UInt32.size) (notComment : kind ≠ .comment) :
    after.IsOpen (idAt before.nodes.length) := by
  rcases creates.places small with ⟨node, rfl, places⟩
  rcases (places.inTree notComment).below with ⟨_, _, adds⟩
  rw [← places.id]
  refine ⟨node, ⟨after.nodes.take before.nodes.length, [], ?_, notComment, ?_⟩,
    Relation.ReflTransGen.refl⟩
  · rcases List.getElem?_eq_some_iff.mp adds.added with ⟨within, isNode⟩
    rw [← isNode, ← List.take_succ_eq_append_getElem within, ← adds.length, List.take_length]
  · intro comment member
    cases member

end Creates

/-! ## One node at a time -/

theorem cursor_le_of_next_line {before : Builder} {position : Position}
    (room : before.line.toNat + 1 < UInt32.size)
    (onNextLine : position.line = before.line + 1) :
    before.cursor ≤ position := by
  refine (Position.le_iff _ _).mpr (Or.inl ?_)
  show before.line < position.line
  rw [onNextLine, UInt32.lt_iff_toNat_lt, UInt32.toNat_add]
  show before.line.toNat < (before.line.toNat + 1) % UInt32.size
  rw [Nat.mod_eq_of_lt room]
  exact Nat.lt_succ_self _

theorem le_of_same_line {first second : Position}
    (sameLine : first.line = second.line)
    (noEarlier : first.column ≤ second.column) :
    first ≤ second :=
  (Position.le_iff _ _).mpr (Or.inr ⟨sameLine, noEarlier⟩)

section Requests

variable {builder : Builder}

/-- A node is created by adding it, changing what is new and giving the waiting comments away. -/
theorem creates_below {added : Builder} {parent : NodeId} {waiting : List NodeId}
    (node : Node)
    (change : Node → Node)
    (present : parent.index.toNat < builder.nodes.length)
    (isOpen : builder.nodes.length < UInt32.size → builder.IsOpen parent)
    (adds : Adds builder (some parent.index.toNat) node added)
    (isNew : node.id = idAt builder.nodes.length)
    (sameId : ∀ other, (change other).id = other.id)
    (sameKind : (change node).kind = node.kind)
    (sameSpan : (change node).span = node.span)
    (childless : (change node).children = [])
    (notComment : node.kind ≠ .comment)
    (starts : builder.cursor ≤ node.span.start)
    (ordered : node.span.start ≤ node.span.stop)
    (stops : node.span.stop = added.cursor)
    (owns : node.startsLine = true →
      (change node).comments = builder.pendingComments ∧ waiting = [])
    (passes : node.startsLine = false →
      (change node).comments = [] ∧ waiting = builder.pendingComments) :
    Creates builder node.kind
      { added.modify (idAt builder.nodes.length) change with pendingComments := waiting } := by
  have sameLine : (change node).startsLine = node.startsLine := by
    rw [Node.startsLine, Node.startsLine, sameKind]
  refine ⟨adds.root, ?_, ⟨_, adds.parents, ?_⟩, ?_⟩
  · rw [← isNew]
    exact (map_id_modify change sameId _ _).trans (adds.map_eq fun kept => kept.id)
  · rintro _ ⟨⟩
    exact present
  · intro small
    have changed := adds.modify change small (sameId node) sameSpan
    refine ⟨change node, sameKind, (sameId node).trans isNew, childless, ?_, ?_, ?_⟩
    · rw [sameSpan]
      exact ordered
    · intro _
      refine ⟨⟨parent, isOpen small, ?_⟩, ?_, ?_, ?_, ?_⟩
      · exact ⟨changed.root, changed.parents, changed.length, changed.added, changed.kept⟩
      · rw [sameSpan]
        exact starts
      · rw [sameSpan]
        exact stops
      · rw [sameLine]
        exact owns
      · rw [sameLine]
        exact passes
    · intro isComment
      rw [sameKind] at isComment
      exact absurd isComment notComment

/-- A node that starts a line is created. -/
theorem exists_lineNode (linked : builder.IsLinked) {parent : NodeId} (kind : NodeKind)
    (name : Option String)
    (present : parent.index.toNat < builder.nodes.length)
    (isOpen : builder.nodes.length < UInt32.size → builder.IsOpen parent)
    (room : builder.line.toNat + 1 < UInt32.size)
    (startsLine : kind ∈ [NodeKind.class, .function, .parameter, .statement]) :
    ∃ after,
      builder.lineNode parent kind name = .ok (idAt builder.nodes.length, after) ∧
        Creates builder kind after := by
  let moved : Builder := { builder with line := builder.line + 1, column := 1 }
  let span : Span :=
    { startLine := builder.line + 1, startCol := 1, endLine := builder.line + 1, endCol := 1 }
  let node : Node := { id := idAt builder.nodes.length, kind, span }
  let change (other : Node) : Node := { other with name, comments := builder.pendingComments }
  have linkedMoved : moved.IsLinked := ⟨linked.length, linked.back⟩
  rcases exists_allocate_some linkedMoved present kind span with
    ⟨added, isAdded, adds, line, column, _⟩
  refine ⟨{ added.modify (idAt builder.nodes.length) change with pendingComments := [] }, ?_, ?_⟩
  · rw [lineNode]
    show (moved.allocate kind span (some parent) >>= _) = _
    rw [isAdded]
    rfl
  · have isLine : node.startsLine = true := List.contains_iff_mem.mpr startsLine
    refine creates_below node change present isOpen
      ⟨adds.root, adds.parents, adds.length, adds.added, adds.kept⟩ rfl (fun _ => rfl) rfl rfl rfl
      ?_ (cursor_le_of_next_line room rfl) (Position.le_refl _) ?_ (fun _ => ⟨rfl, rfl⟩) ?_
    · rintro rfl
      exact absurd startsLine (by decide)
    · show _ = ({ line := added.line, column := added.column } : Position)
      rw [line, column]
      rfl
    · rw [isLine]
      exact Bool.noConfusion

/-- An expression of a width on the current line. -/
structure Continues (before : Builder) (columns : Nat) (after : Builder) : Prop where
  creates : ∃ kind, kind ≠ .comment ∧ Creates before kind after
  line : after.line = before.line
  column : after.column.toNat = before.column.toNat + columns

theorem toNat_columns (width : UInt32) :
    (if width == 0 then 1 else width).toNat = columnsOf width := by
  rw [columnsOf]
  split
  next isZero =>
    rw [beq_iff_eq.mp isZero]
    rfl
  next notZero =>
    have positive : width.toNat ≠ 0 := by
      intro zero
      exact notZero (beq_iff_eq.mpr (UInt32.toNat_inj.mp zero))
    exact (Nat.max_eq_right (Nat.one_le_iff_ne_zero.mpr positive)).symm

theorem one_le_columnsOf (width : UInt32) : 1 ≤ columnsOf width :=
  Nat.le_max_left 1 width.toNat

theorem toNat_last_column {column width : UInt32}
    (room : column.toNat + columnsOf width < UInt32.size) :
    (column + 1 + (if width == 0 then 1 else width) - 1).toNat =
        column.toNat + columnsOf width ∧
      column ≤ column + 1 ∧
        column + 1 ≤ column + 1 + (if width == 0 then 1 else width) - 1 := by
  have least := toNat_columns width
  have positive := one_le_columnsOf width
  generalize (if width == 0 then 1 else width) = columns at *
  simp only [UInt32.le_iff_toNat_le, UInt32.toNat_sub, UInt32.toNat_add, least]
  simp only [UInt32.toNat_one]
  have size : UInt32.size = 4294967296 := rfl
  omega

/-- A node on the current line is created. -/
theorem exists_inlineNode (linked : builder.IsLinked) {parent : NodeId} (kind : NodeKind)
    (name : Option String)
    (width : UInt32)
    (present : parent.index.toNat < builder.nodes.length)
    (isOpen : builder.nodes.length < UInt32.size → builder.IsOpen parent)
    (isInline : kind ∈ [NodeKind.expression, .identifier, .literal])
    (room : builder.column.toNat + columnsOf width < UInt32.size) :
    ∃ after,
      builder.inlineNode parent kind name width = .ok (idAt builder.nodes.length, after) ∧
        Continues builder (columnsOf width) after := by
  rcases toNat_last_column room with ⟨last, first, ordered⟩
  let moved : Builder :=
    { builder with column := builder.column + 1 + (if width == 0 then 1 else width) - 1 }
  let span : Span :=
    { startLine := builder.line, startCol := builder.column + 1, endLine := builder.line
      endCol := moved.column }
  let node : Node := { id := idAt builder.nodes.length, kind, span }
  let change (other : Node) : Node := { other with name }
  have linkedMoved : moved.IsLinked := ⟨linked.length, linked.back⟩
  rcases exists_allocate_some linkedMoved present kind span with
    ⟨added, isAdded, adds, line, column, pending⟩
  refine ⟨added.modify (idAt builder.nodes.length) change, ?_, ⟨kind, ?_, ?_⟩, line, ?_⟩
  · rw [inlineNode]
    show (moved.allocate kind span (some parent) >>= _) = _
    rw [isAdded]
    rfl
  · rintro rfl
    exact absurd isInline (by decide)
  · have notLine : node.startsLine = false := by
      show [NodeKind.class, .function, .parameter, .statement].contains kind = false
      simp only [List.mem_cons, List.not_mem_nil, or_false] at isInline
      rcases isInline with rfl | rfl | rfl <;> rfl
    refine creates_below node change present isOpen
      ⟨adds.root, adds.parents, adds.length, adds.added, adds.kept⟩ rfl (fun _ => rfl) rfl rfl rfl
      ?_ (le_of_same_line rfl first) (le_of_same_line rfl ordered) ?_ ?_ (fun _ => ⟨rfl, pending⟩)
    · rintro rfl
      exact absurd isInline (by decide)
    · show _ = ({ line := added.line, column := added.column } : Position)
      rw [line, column]
      rfl
    · rw [notLine]
      exact Bool.noConfusion
  · show added.column.toNat = _
    rw [column]
    exact last

/-- A comment is created. -/
theorem exists_addComment (room : builder.line.toNat + 1 < UInt32.size) (text : String) :
    ∃ after,
      builder.addComment text = .ok (idAt builder.nodes.length, after) ∧
        Creates builder .comment after := by
  let width := text.length.toUInt32
  let span : Span :=
    { startLine := builder.line + 1, startCol := 1, endLine := builder.line + 1
      endCol := if width == 0 then 1 else width }
  let node : Node := { id := idAt builder.nodes.length, kind := .comment, span }
  let change (other : Node) : Node := { other with text := some text }
  let moved : Builder := { builder with line := builder.line + 1, column := 1 }
  let added : Builder :=
    { moved with nodes := moved.nodes ++ [node], parents := moved.parents ++ [none] }
  have adds : Adds moved none node added := adds_none moved node
  refine
    ⟨{ added.modify node.id change with pendingComments := builder.pendingComments ++ [node.id] },
      rfl, rfl, ?_, ⟨none, rfl, fun _ isParent => Option.noConfusion rfl (heq_of_eq isParent)⟩, ?_⟩
  · exact (map_id_modify change (fun _ => rfl) _ _).trans
      (adds.map_eq fun kept => kept.id)
  · intro small
    have changed := adds.modify change small rfl rfl
    have wide : 1 ≤ span.endCol := by
      show 1 ≤ if width == 0 then 1 else width
      rw [UInt32.le_iff_toNat_le, toNat_columns]
      exact one_le_columnsOf width
    refine ⟨change node, rfl, rfl, rfl, le_of_same_line rfl wide,
      fun notComment => absurd rfl notComment, fun _ => ?_⟩
    exact ⟨⟨changed.root, changed.parents, changed.length, changed.added, changed.kept⟩,
      cursor_le_of_next_line room rfl, UInt32.le_refl _, rfl, rfl⟩

end Requests

/-! ## Whole requests -/

theorem Continues.modify {before after : Builder} {columns : Nat}
    (continues : Continues before columns after)
    (change : Node → Node) (harmless : IsHarmless change) :
    Continues before columns (after.modify (idAt before.nodes.length) change) := by
  rcases continues.creates with ⟨kind, notComment, creates⟩
  exact ⟨⟨kind, notComment, creates.modify change harmless⟩, continues.line, continues.column⟩

theorem Continues.step {before after : Builder} {columns : Nat}
    (continues : Continues before columns after) :
    Step before after := by
  rcases continues.creates with ⟨kind, _, creates⟩
  exact ⟨kind, creates⟩

/-- Below a node that was just created on the line another may be created. -/
theorem Continues.opens {before after : Builder} {columns : Nat}
    (continues : Continues before columns after)
    (linked : before.IsLinked) :
    after.IsLinked ∧
      (idAt before.nodes.length).index.toNat < after.nodes.length ∧
        (after.nodes.length < UInt32.size → after.IsOpen (idAt before.nodes.length)) := by
  rcases continues.creates with ⟨kind, notComment, creates⟩
  have length := creates.length_eq
  refine ⟨creates.isLinked linked, ?_, ?_⟩
  · have atMost := toNat_idAt_le before.nodes.length
    omega
  · intro small
    exact creates.isOpen (by omega) notComment

section Requests

variable {builder : Builder} (linked : builder.IsLinked) {parent : NodeId}
  (present : parent.index.toNat < builder.nodes.length)
  (isOpen : builder.nodes.length < UInt32.size → builder.IsOpen parent)

include linked present isOpen

theorem exists_addStatement (room : builder.line.toNat + 1 < UInt32.size) (kind : StatementKind) :
    ∃ after,
      builder.addStatement parent kind = .ok (idAt builder.nodes.length, after) ∧
        Creates builder .statement after := by
  rcases exists_lineNode linked .statement none present isOpen room (by decide) with
    ⟨after, isAfter, creates⟩
  refine ⟨_, ?_, creates.modify (fun node => { node with statement := some kind })
    fun _ => rfl⟩
  rw [addStatement, isAfter]
  rfl

theorem exists_addExpr (room : builder.column.toNat + 1 < UInt32.size) (kind : ExprKind) :
    ∃ after,
      builder.addExpr parent kind = .ok (idAt builder.nodes.length, after) ∧
        Continues builder 1 after := by
  rcases exists_inlineNode linked .expression none 1 present isOpen (by decide) room with
    ⟨after, isAfter, continues⟩
  refine ⟨_, ?_, continues.modify (fun node => { node with expression := some kind })
    fun _ => rfl⟩
  rw [addExpr, isAfter]
  rfl

theorem exists_addIdentifier (name : String)
    (room : builder.column.toNat + columnsOf name.utf8ByteSize.toUInt32 < UInt32.size) :
    ∃ after,
      builder.addIdentifier parent name = .ok (idAt builder.nodes.length, after) ∧
        Continues builder (columnsOf name.utf8ByteSize.toUInt32) after :=
  exists_inlineNode linked .identifier (some name) _ present isOpen (by decide) room

theorem exists_addMember (name : String)
    (room : builder.column.toNat + columnsOf name.utf8ByteSize.toUInt32 < UInt32.size) :
    ∃ after,
      builder.addMember parent name = .ok (idAt builder.nodes.length, after) ∧
        Continues builder (columnsOf name.utf8ByteSize.toUInt32) after := by
  rcases exists_inlineNode linked .expression (some name) _ present isOpen (by decide) room
    with ⟨after, isAfter, continues⟩
  refine ⟨_, ?_, continues.modify (fun node => { node with expression := some .member })
    fun _ => rfl⟩
  rw [addMember, isAfter]
  rfl

theorem exists_addChainedCall (method : String)
    (room : builder.column.toNat + (1 + columnsOf method.utf8ByteSize.toUInt32) < UInt32.size) :
    ∃ called, Continues builder 1 called ∧
      ∃ after,
        builder.addChainedCall parent method =
            .ok ((idAt builder.nodes.length, idAt called.nodes.length), after) ∧
          Continues called (columnsOf method.utf8ByteSize.toUInt32) after := by
  rcases exists_addExpr linked present isOpen (by omega) .call with ⟨called, isCalled, continues⟩
  rcases continues.opens linked with ⟨calledLinked, calledPresent, calledOpen⟩
  have column := continues.column
  rcases exists_addMember calledLinked calledPresent calledOpen method (by omega) with
    ⟨after, isAfter, further⟩
  refine ⟨called, continues, after, ?_, further⟩
  rw [addChainedCall, isCalled]
  show (called.addMember (idAt builder.nodes.length) method >>= _) = _
  rw [isAfter]
  rfl

open Relation

/-- The name that is called is below the call. -/
theorem exists_addCall (name : String)
    (room : builder.column.toNat + (1 + columnsOf name.utf8ByteSize.toUInt32) < UInt32.size) :
    ∃ id after,
      builder.addCall parent name = .ok (id, after) ∧ ReflTransGen Step builder after := by
  rcases exists_addExpr linked present isOpen (by omega) .call with ⟨called, isCalled, continues⟩
  rcases continues.opens linked with ⟨calledLinked, calledPresent, calledOpen⟩
  have column := continues.column
  rcases exists_addIdentifier calledLinked calledPresent calledOpen name (by omega) with
    ⟨after, isAfter, further⟩
  refine ⟨idAt builder.nodes.length, after, ?_,
    (ReflTransGen.single continues.step).tail further.step⟩
  rw [addCall, isCalled]
  show (called.addIdentifier (idAt builder.nodes.length) name >>= _) = _
  rw [isAfter]
  rfl

/-- The object is below the member, and the member below the call. -/
theorem exists_addMethodCall (object method : String)
    (room : builder.column.toNat + (1 + columnsOf method.utf8ByteSize.toUInt32 +
      columnsOf object.utf8ByteSize.toUInt32) < UInt32.size) :
    ∃ id after,
      builder.addMethodCall parent object method = .ok (id, after) ∧
        ReflTransGen Step builder after := by
  rcases exists_addChainedCall linked present isOpen method (by omega) with
    ⟨called, continues, chained, isChained, further⟩
  rcases further.opens (continues.opens linked).1 with
    ⟨chainedLinked, chainedPresent, chainedOpen⟩
  have firstColumn := continues.column
  have secondColumn := further.column
  rcases exists_addIdentifier chainedLinked chainedPresent chainedOpen object (by omega) with
    ⟨after, isAfter, last⟩
  refine ⟨idAt builder.nodes.length, after, ?_,
    ((ReflTransGen.single continues.step).tail further.step).tail last.step⟩
  rw [addMethodCall, isChained]
  show (chained.addIdentifier (idAt called.nodes.length) object >>= _) = _
  rw [isAfter]
  rfl

end Requests

open Relation

/-- A request that keeps the source order is answered, one created node after another. -/
theorem exists_run_eq_ok {builder : Builder} (linked : builder.IsLinked) {call : Call}
    (present : ∀ parent, call.parent? = some parent → parent.index.toNat < builder.nodes.length)
    (allowed : builder.Allows call) :
    ∃ id after, builder.run call = .ok (id, after) ∧ ReflTransGen Step builder after := by
  have isOpen (parent : NodeId) (below : call.parent? = some parent)
      (_ : builder.nodes.length < UInt32.size) : builder.IsOpen parent := allowed.below parent below
  have lines := allowed.lines
  have columns := allowed.columns
  cases call with
  | module name => exact absurd rfl (allowed.notModule name)
  | declaration kind parent name =>
      have startsLine : kind ∈ [NodeKind.class, .function, .parameter, .statement] := by
        rcases allowed.declares kind parent name rfl with rfl | rfl <;> decide
      rcases exists_lineNode linked kind (some name) (present parent rfl) (isOpen parent rfl) lines
        startsLine with ⟨after, isAfter, creates⟩
      exact ⟨_, after, isAfter, ReflTransGen.single ⟨_, creates⟩⟩
  | parameter parent name typeName =>
      rcases exists_lineNode linked .parameter (some name) (present parent rfl) (isOpen parent rfl)
        lines (by decide) with ⟨after, isAfter, creates⟩
      have changed := creates.modify
        (fun node => { node with attributes := { node.attributes with typeName } })
        fun _ => rfl
      refine ⟨idAt builder.nodes.length, _, ?_, ReflTransGen.single ⟨_, changed⟩⟩
      rw [run, addParameter, isAfter]
      rfl
  | statement parent kind =>
      rcases exists_addStatement linked (present parent rfl) (isOpen parent rfl) lines kind with
        ⟨after, isAfter, creates⟩
      exact ⟨_, after, isAfter, ReflTransGen.single ⟨_, creates⟩⟩
  | binding parent kind name =>
      rcases exists_addStatement linked (present parent rfl) (isOpen parent rfl) lines kind with
        ⟨after, isAfter, creates⟩
      have changed := creates.modify (fun node => { node with name := some name })
        fun _ => rfl
      refine ⟨idAt builder.nodes.length, _, ?_, ReflTransGen.single ⟨_, changed⟩⟩
      rw [run, addBinding, isAfter]
      rfl
  | comment text =>
      rcases exists_addComment lines text with ⟨after, isAfter, creates⟩
      exact ⟨_, after, isAfter, ReflTransGen.single ⟨_, creates⟩⟩
  | expr parent kind =>
      rcases exists_addExpr linked (present parent rfl) (isOpen parent rfl) columns kind with
        ⟨after, isAfter, continues⟩
      exact ⟨_, after, isAfter, ReflTransGen.single continues.step⟩
  | identifier parent name =>
      rcases exists_addIdentifier linked (present parent rfl) (isOpen parent rfl) name columns with
        ⟨after, isAfter, continues⟩
      exact ⟨_, after, isAfter, ReflTransGen.single continues.step⟩
  | member parent name =>
      rcases exists_addMember linked (present parent rfl) (isOpen parent rfl) name columns with
        ⟨after, isAfter, continues⟩
      exact ⟨_, after, isAfter, ReflTransGen.single continues.step⟩
  | operator parent kind operator =>
      rcases exists_addExpr linked (present parent rfl) (isOpen parent rfl) columns kind with
        ⟨after, isAfter, continues⟩
      have changed := continues.modify (fun node => { node with operator := some operator })
        fun _ => rfl
      refine ⟨idAt builder.nodes.length, _, ?_, ReflTransGen.single changed.step⟩
      rw [run, addOperator, isAfter]
      rfl
  | call parent name =>
      exact exists_addCall linked (present parent rfl) (isOpen parent rfl) name columns
  | methodCall parent object method =>
      exact exists_addMethodCall linked (present parent rfl) (isOpen parent rfl) object method
        columns
  | chainedCall parent method =>
      rcases exists_addChainedCall linked (present parent rfl) (isOpen parent rfl) method columns
        with ⟨called, continues, after, isAfter, further⟩
      refine ⟨idAt called.nodes.length, after, ?_,
        (ReflTransGen.single continues.step).tail further.step⟩
      rw [run, isAfter]
      rfl
  | literal parent value =>
      rcases exists_inlineNode linked .literal none _ (present parent rfl) (isOpen parent rfl)
        (by decide) columns with ⟨after, isAfter, continues⟩
      have changed := continues.modify (fun node => { node with literal := some value })
        fun _ => rfl
      refine ⟨idAt builder.nodes.length, _, ?_, ReflTransGen.single changed.step⟩
      rw [run, addLiteral, isAfter]
      rfl

/-! ## Open nodes -/

theorem isOpen_latest {builder : Builder} {id : NodeId} (front : List Node)
    {comments : List Node} {node : Node}
    (nodes : builder.nodes = front ++ node :: comments)
    (isId : node.id = id)
    (inTree : (node.kind != .comment) = true)
    (areComments : comments.all (·.kind == .comment) = true) :
    builder.IsOpen id := by
  rw [← isId]
  refine ⟨node, ⟨front, comments, nodes, bne_iff_ne.mp inTree, ?_⟩, ReflTransGen.refl⟩
  intro comment member
  exact beq_iff_eq.mp (List.all_eq_true.mp areComments comment member)

/-- What lists an open node is open. -/
theorem isOpen_above {builder : Builder} {parent : NodeId} (id : NodeId) (position : Nat)
    {node : Node}
    (found : builder.nodes[position]? = some node)
    (isId : node.id = parent)
    (lists : node.children.contains id = true)
    (isOpen : builder.IsOpen id) :
    builder.IsOpen parent := by
  rcases isOpen with ⟨latest, isLatest, reachable⟩
  refine ⟨latest, isLatest, ReflTransGen.head ?_ reachable⟩
  exact ⟨node, List.mem_of_getElem? found, isId, List.contains_iff_mem.mp lists⟩

/-- Comments hang nowhere. -/
theorem allows_comment {builder : Builder} {text : String}
    (room : builder.line.toNat + 1 < UInt32.size) :
    builder.Allows (.comment text) where
  notModule := by rintro _ ⟨⟩
  declares := by rintro _ _ _ ⟨⟩
  below := by rintro _ ⟨⟩
  lines := room
  columns := builder.column.toNat_lt

theorem allows_below {builder : Builder} {call : Call} {parent : NodeId}
    (isParent : call.parent? = some parent)
    (undeclared : ∀ kind parent name, call ≠ .declaration kind parent name)
    (isOpen : builder.IsOpen parent)
    (lines : builder.line.toNat + call.lines < UInt32.size)
    (columns : builder.column.toNat + call.columns < UInt32.size) :
    builder.Allows call where
  notModule := by
    rintro _ rfl
    cases isParent
  declares kind parent name isDeclaration := absurd isDeclaration (undeclared kind parent name)
  below := by
    intro other isOther
    rw [isParent, Option.some_inj] at isOther
    rw [← isOther]
    exact isOpen
  lines := lines
  columns := columns

/-! ## Runs -/

/-- The node at each position has the id of the position. -/
def IsNumbered (builder : Builder) : Prop :=
  builder.nodes.map Node.id = (List.range builder.nodes.length).map idAt

theorem Step.isNumbered {before after : Builder} (step : Step before after)
    (numbered : before.IsNumbered) :
    after.IsNumbered := by
  rcases step with ⟨kind, creates⟩
  rw [IsNumbered, creates.ids, creates.length_eq, List.range_succ, List.map_append, numbered]
  rfl

theorem Step.isLinked {before after : Builder} (step : Step before after)
    (linked : before.IsLinked) :
    after.IsLinked := by
  rcases step with ⟨kind, creates⟩
  exact creates.isLinked linked

/-- What is open exists. -/
theorem IsOpen.lt_length {builder : Builder} (numbered : builder.IsNumbered) {id : NodeId}
    (isOpen : builder.IsOpen id) :
    id.index.toNat < builder.nodes.length := by
  rcases isOpen with ⟨latest, ⟨front, comments, nodes, _⟩, reachable⟩
  have isId : id ∈ builder.nodes.map Node.id := by
    rcases Relation.ReflTransGen.cases_head reachable with rfl | ⟨_, listed, _⟩
    · rw [nodes]
      exact List.mem_map.mpr ⟨latest, List.mem_append_right _ List.mem_cons_self, rfl⟩
    · rcases listed with ⟨node, member, rfl, _⟩
      exact List.mem_map.mpr ⟨node, member, rfl⟩
  rw [numbered] at isId
  rcases List.mem_map.mp isId with ⟨position, isPosition, rfl⟩
  exact Nat.lt_of_le_of_lt (toNat_idAt_le position) (List.mem_range.mp isPosition)

end Model.Builder

end StructuralLint
