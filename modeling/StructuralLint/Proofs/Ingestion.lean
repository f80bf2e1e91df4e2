import StructuralLint.Model.Ingest
import StructuralLint.Proofs.Order
import StructuralLint.Proofs.Tree

/-!
# Ingestion accepts exactly the well-formed models

`Model.ingest` checks the nodes one after another and collects on the way which ids were listed as
children and as comments.  The main statement compares it with `WellFormed`, which says what a model
is without any order of checks: ingestion yields a model if and only if the nodes are well formed.

The checks of children, comments and nodes are described one step at a time by the exact condition
under which they pass and the links that they leave behind.  What a whole pass accepts follows by
induction: an id passes where it was not listed before, so over the whole pass no id is listed
twice.
-/

namespace StructuralLint

/-- A computation that may fail succeeds when both of its parts do. -/
theorem bind_eq_ok_iff {ε α β : Type} {first : Except ε α} {next : α → Except ε β} {result : β} :
    (first >>= next) = .ok result ↔ ∃ value, first = .ok value ∧ next value = .ok result := by
  cases first with
  | error fault => simp [bind, Except.bind]
  | ok value => simp [bind, Except.bind]

@[simp]
theorem throw_eq_error {ε α : Type} (fault : ε) : (throw fault : Except ε α) = .error fault :=
  rfl

@[simp]
theorem error_bind {ε α β : Type} (fault : ε) (next : α → Except ε β) :
    (Except.error fault >>= next) = .error fault :=
  rfl

@[simp]
theorem pure_eq_ok {ε α : Type} (value : α) : (pure value : Except ε α) = .ok value :=
  rfl

namespace Model

/-- The node with the first id ends no later than the node with the second one starts. -/
def Follows (nodes : List Node) (first second : NodeId) : Prop :=
  ∀ earlier ∈ nodes, ∀ later ∈ nodes,
    earlier.id = first → later.id = second → earlier.span.stop ≤ later.span.start

/-- What a root, a list of nodes and perhaps a number of lines have to be to form a model. -/
structure WellFormed (root : NodeId) (nodes : List Node) (lineCount : Option UInt32) : Prop where
  nonempty : nodes ≠ []
  distinctIds : (nodes.map Node.id).Nodup
  rootIsModule : ∃ node ∈ nodes, node.id = root ∧ node.kind = .module
  spansOrdered : ∀ node ∈ nodes, node.span.start ≤ node.span.stop
  spansBounded : ∀ limit, lineCount = some limit → ∀ node ∈ nodes, node.span.endLine ≤ limit
  childrenExist : ∀ parent ∈ nodes, ∀ id ∈ parent.children, ∃ child ∈ nodes, child.id = id
  rootUnlisted : ∀ parent ∈ nodes, root ∉ parent.children
  /-- No id occurs twice over all child lists together. -/
  childrenOnce : (nodes.flatMap Node.children).Nodup
  childrenInside :
    ∀ parent ∈ nodes, ∀ child ∈ nodes, child.id ∈ parent.children →
      parent.span.start ≤ child.span.start ∧ child.span.stop ≤ parent.span.stop
  /-- Consecutive children do not overlap and stand in the order of the source. -/
  childrenInOrder : ∀ parent ∈ nodes, parent.children.IsChain (Follows nodes)
  commentsExist :
    ∀ owner ∈ nodes, ∀ id ∈ owner.comments, ∃ comment ∈ nodes,
      comment.id = id ∧ comment.kind = .comment
  /-- No id occurs twice over all lists of comments together. -/
  commentsOnce : (nodes.flatMap Node.comments).Nodup
  reachable : ∀ node ∈ nodes, node.kind ≠ .comment → Reachable nodes root node.id

namespace Ingest

/-! ## Links -/

/-- The ids that links were recorded for. -/
def Links.ids (links : Links) : List NodeId :=
  links.map Prod.fst

/-- Records that a node lists some ids. -/
def Links.recordAll (links : Links) (owner : NodeId) (ids : List NodeId) : Links :=
  ids.foldl (fun links id => links.record id owner) links

/-- Some ids can be recorded one after another: none was recorded before, and none comes twice. -/
def Links.Fresh (links : Links) (ids : List NodeId) : Prop :=
  ids.Nodup ∧ ∀ id ∈ ids, id ∉ links.ids

theorem Links.get?_eq_none_iff (links : Links) (id : NodeId) :
    links.get? id = none ↔ id ∉ links.ids := by
  simp only [Lookup.get?, Option.map_eq_none_iff, List.find?_eq_none, Links.ids, List.mem_map,
    beq_iff_eq, not_exists, not_and]

theorem Links.fresh_nil (links : Links) : links.Fresh [] :=
  ⟨List.nodup_nil, fun _ member => absurd member List.not_mem_nil⟩

theorem Links.fresh_cons_iff (links : Links) (owner id : NodeId) (rest : List NodeId) :
    links.Fresh (id :: rest) ↔ id ∉ links.ids ∧ Links.Fresh (links.record id owner) rest := by
  rw [Links.Fresh, Links.Fresh, List.nodup_cons, List.forall_mem_cons]
  simp only [Links.ids, Lookup.record, List.map_cons, List.mem_cons, not_or]
  constructor
  · rintro ⟨⟨notAgain, nodup⟩, new, restNew⟩
    refine ⟨new, nodup, ?_⟩
    intro other member
    refine ⟨?_, restNew other member⟩
    intro equal
    rw [equal] at member
    exact notAgain member
  · rintro ⟨new, nodup, restNew⟩
    refine ⟨⟨?_, nodup⟩, new, fun other member => (restNew other member).2⟩
    intro again
    exact (restNew id again).1 rfl

theorem Links.fresh_append_iff (links : Links) (owner : NodeId) (first second : List NodeId) :
    links.Fresh (first ++ second) ↔
      links.Fresh first ∧ (links.recordAll owner first).Fresh second := by
  induction first generalizing links with
  | nil => simp [Links.recordAll, Links.fresh_nil]
  | cons head rest induction =>
      rw [List.cons_append, Links.fresh_cons_iff links owner, Links.fresh_cons_iff links owner,
        induction, and_assoc]
      rfl

theorem Links.fresh_empty_iff (ids : List NodeId) : Links.Fresh [] ids ↔ ids.Nodup := by
  simp [Links.Fresh, Links.ids]

theorem Links.recordAll_eq (links : Links) (owner : NodeId) (ids : List NodeId) :
    links.recordAll owner ids = (ids.map fun id => (id, owner)).reverse ++ links := by
  induction ids generalizing links with
  | nil => rfl
  | cons id rest induction =>
      have step :
          links.recordAll owner (id :: rest) =
            Links.recordAll (links.record id owner) owner rest := rfl
      rw [step, induction, List.map_cons, List.reverse_cons, List.append_assoc]
      rfl

/-- What some nodes list, latest first. -/
def linksOf (list : Node → List NodeId) (nodes : List Node) : Links :=
  (nodes.flatMap fun node => (list node).map fun id => (id, node.id)).reverse

theorem linksOf_cons (list : Node → List NodeId) (node : Node) (rest : List Node) :
    linksOf list (node :: rest) =
      linksOf list rest ++ ((list node).map fun id => (id, node.id)).reverse := by
  rw [linksOf, List.flatMap_cons, List.reverse_append, linksOf]

theorem mem_linksOf_iff {list : Node → List NodeId} {nodes : List Node} {id owner : NodeId} :
    (id, owner) ∈ linksOf list nodes ↔ ∃ node ∈ nodes, node.id = owner ∧ id ∈ list node := by
  simp only [linksOf, List.mem_reverse, List.mem_flatMap, List.mem_map, Prod.mk.injEq]
  constructor
  · rintro ⟨node, member, _, listed, rfl, isOwner⟩
    exact ⟨node, member, isOwner, listed⟩
  · rintro ⟨node, member, isOwner, listed⟩
    exact ⟨node, member, id, listed, rfl, isOwner⟩

theorem ids_linksOf (list : Node → List NodeId) (nodes : List Node) :
    (linksOf list nodes).ids = (nodes.flatMap list).reverse := by
  simp only [Links.ids, linksOf, List.map_reverse, List.map_flatMap, List.map_map,
    Function.comp_def, List.map_id']

/-- Where nothing is listed twice, looking up an id finds the node that lists it. -/
theorem get?_linksOf_eq_some_iff {list : Node → List NodeId} {nodes : List Node}
    (once : (nodes.flatMap list).Nodup)
    {id owner : NodeId} :
    (linksOf list nodes).get? id = some owner ↔
      ∃ node ∈ nodes, node.id = owner ∧ id ∈ list node := by
  have distinct : ((linksOf list nodes).map Prod.fst).Nodup := by
    rw [← Links.ids, ids_linksOf, List.nodup_reverse]
    exact once
  rw [← mem_linksOf_iff]
  exact Lookup.get?_eq_some_iff distinct

/-! ## Children -/

/-- A child exists, is not the root, and lies inside its parent. -/
def FitsAsChild (model : Model) (parent : Node) (id : NodeId) : Prop :=
  id ≠ model.root ∧
    ∃ child, model.node? id = some child ∧ parent.span.contains child.span = true

/-- The exact condition under which a child passes, and what is recorded then. -/
theorem checkChild_eq_ok_iff {model : Model} {node : Node} {parents : Links}
    {previous : Option Node} {id : NodeId} {result : Links × Option Node} :
    checkChild model node (parents, previous) id = .ok result ↔
      ∃ child,
        model.node? id = some child ∧ id ≠ model.root ∧ id ∉ parents.ids ∧
          node.span.contains child.span = true ∧
          (∀ earlier, previous = some earlier → earlier.span.stop ≤ child.span.start) ∧
          (parents.record id node.id, some child) = result := by
  rw [checkChild, ← Links.get?_eq_none_iff]
  cases model.node? id with
  | none => simp
  | some child =>
      by_cases isRoot : id = model.root
      · simp [isRoot]
      · cases parents.get? id with
        | some first => simp [isRoot]
        | none =>
            cases inside : node.span.contains child.span with
            | false => simp [isRoot, inside]
            | true =>
                cases previous with
                | none => simp [isRoot, inside]
                | some earlier =>
                    cases before : child.span.start.isBefore earlier.span.stop with
                    | true =>
                        have overlap : ¬ earlier.span.stop ≤ child.span.start := by
                          rw [← Position.isBefore_eq_false_iff, before]
                          decide
                        simp [isRoot, inside, before, overlap]
                    | false =>
                        have apart : earlier.span.stop ≤ child.span.start :=
                          (Position.isBefore_eq_false_iff _ _).mp before
                        simp [isRoot, inside, before, apart]

/-- Between nodes of the model, following is a matter of their spans. -/
theorem follows_iff {model : Model}
    (distinct : (model.nodes.map Node.id).Nodup)
    {earlier later : Node}
    (earlierMember : earlier ∈ model.nodes)
    (laterMember : later ∈ model.nodes) :
    Follows model.nodes earlier.id later.id ↔ earlier.span.stop ≤ later.span.start := by
  constructor
  · intro follows
    exact follows earlier earlierMember later laterMember rfl rfl
  · intro apart first firstMember second secondMember firstId secondId
    rw [List.inj_on_of_nodup_map distinct firstMember earlierMember firstId,
      List.inj_on_of_nodup_map distinct secondMember laterMember secondId]
    exact apart

/-- A chain goes on behind the child before, if there is one. -/
theorem isChain_after_iff {model : Model}
    (distinct : (model.nodes.map Node.id).Nodup)
    {previous : Option Node}
    (known : ∀ earlier, previous = some earlier → earlier ∈ model.nodes)
    {child : Node}
    (childMember : child ∈ model.nodes)
    (rest : List NodeId) :
    ((previous.map Node.id).toList ++ child.id :: rest).IsChain (Follows model.nodes) ↔
      (∀ earlier, previous = some earlier → earlier.span.stop ≤ child.span.start) ∧
        (child.id :: rest).IsChain (Follows model.nodes) := by
  cases previous with
  | none => simp
  | some earlier =>
      have follows := follows_iff distinct (known earlier rfl) childMember
      simp [follows]

/--
The children of a node pass when each of them fits, none of them was listed before, and they stand
in order behind the child before; then all of them are recorded.
-/
theorem foldlM_checkChild_eq_ok_iff {model : Model}
    (distinct : (model.nodes.map Node.id).Nodup)
    {node : Node} {children : List NodeId} {parents recorded : Links} {previous : Option Node}
    (known : ∀ earlier, previous = some earlier → earlier ∈ model.nodes) :
    (∃ last,
        children.foldlM (checkChild model node) (parents, previous) = .ok (recorded, last)) ↔
      (∀ id ∈ children, FitsAsChild model node id) ∧ parents.Fresh children ∧
        ((previous.map Node.id).toList ++ children).IsChain (Follows model.nodes) ∧
        recorded = parents.recordAll node.id children := by
  induction children generalizing parents previous with
  | nil =>
      have chain : (previous.map Node.id).toList.IsChain (Follows model.nodes) := by
        cases previous <;> simp
      simp [Links.fresh_nil, Links.recordAll, chain, eq_comm]
  | cons id rest induction =>
      simp only [List.foldlM_cons, bind_eq_ok_iff, checkChild_eq_ok_iff, List.forall_mem_cons,
        Links.fresh_cons_iff parents node.id]
      constructor
      · rintro ⟨last, _, ⟨child, found, notRoot, new, inside, apart, rfl⟩, passed⟩
        rcases mem_of_node?_eq_some found with ⟨childMember, rfl⟩
        have childKnown : ∀ earlier, some child = some earlier → earlier ∈ model.nodes := by
          rintro earlier ⟨rfl⟩
          exact childMember
        rcases (induction childKnown).mp ⟨last, passed⟩ with
          ⟨restFits, restFresh, restChain, restRecorded⟩
        refine ⟨⟨⟨notRoot, child, found, inside⟩, restFits⟩, ⟨new, restFresh⟩, ?_, restRecorded⟩
        exact (isChain_after_iff distinct known childMember rest).mpr ⟨apart, restChain⟩
      · rintro ⟨⟨⟨notRoot, child, found, inside⟩, restFits⟩, ⟨new, restFresh⟩, chain, equal⟩
        rcases mem_of_node?_eq_some found with ⟨childMember, rfl⟩
        have childKnown : ∀ earlier, some child = some earlier → earlier ∈ model.nodes := by
          rintro earlier ⟨rfl⟩
          exact childMember
        rcases (isChain_after_iff distinct known childMember rest).mp chain with ⟨apart, restChain⟩
        rcases (induction childKnown).mpr ⟨restFits, restFresh, restChain, equal⟩ with
          ⟨last, passed⟩
        exact ⟨last, _, ⟨child, found, notRoot, new, inside, apart, rfl⟩, passed⟩

/-! ## Comments -/

/-- An id denotes a comment of the model. -/
def FitsAsComment (model : Model) (id : NodeId) : Prop :=
  ∃ comment, model.node? id = some comment ∧ comment.kind = .comment

/-- The exact condition under which a comment passes, and what is recorded then. -/
theorem checkComment_eq_ok_iff {model : Model} {node : Node} {owners result : Links}
    {id : NodeId} :
    checkComment model node owners id = .ok result ↔
      FitsAsComment model id ∧ id ∉ owners.ids ∧ owners.record id node.id = result := by
  rw [checkComment, FitsAsComment, ← Links.get?_eq_none_iff]
  cases model.node? id with
  | none => simp
  | some comment =>
      by_cases isComment : comment.kind = .comment
      · cases owners.get? id with
        | none => simp [isComment]
        | some first => simp [isComment]
      · simp [isComment]

/-- The comments of a node pass when each of them fits and none of them was listed before. -/
theorem foldlM_checkComment_eq_ok_iff {model : Model} {node : Node} {comments : List NodeId}
    {owners recorded : Links} :
    comments.foldlM (checkComment model node) owners = .ok recorded ↔
      (∀ id ∈ comments, FitsAsComment model id) ∧ owners.Fresh comments ∧
        recorded = owners.recordAll node.id comments := by
  induction comments generalizing owners with
  | nil => simp [Links.fresh_nil, Links.recordAll, eq_comm]
  | cons id rest induction =>
      simp only [List.foldlM_cons, bind_eq_ok_iff, checkComment_eq_ok_iff, List.forall_mem_cons,
        Links.fresh_cons_iff owners node.id]
      constructor
      · rintro ⟨_, ⟨fits, new, rfl⟩, passed⟩
        rcases induction.mp passed with ⟨restFits, restFresh, restRecorded⟩
        exact ⟨⟨fits, restFits⟩, ⟨new, restFresh⟩, restRecorded⟩
      · rintro ⟨⟨fits, restFits⟩, ⟨new, restFresh⟩, equal⟩
        exact ⟨_, ⟨fits, new, rfl⟩, induction.mpr ⟨restFits, restFresh, equal⟩⟩

/-! ## Nodes -/

/-- What is asked of a node apart from what other nodes list. -/
structure Fits (model : Model) (node : Node) : Prop where
  spanOrdered : node.span.start ≤ node.span.stop
  spanBounded : ∀ limit, model.lineCount = some limit → node.span.endLine ≤ limit
  children : ∀ id ∈ node.children, FitsAsChild model node id
  childrenInOrder : node.children.IsChain (Follows model.nodes)
  comments : ∀ id ∈ node.comments, FitsAsComment model id

/-- The links after a node passed. -/
def State.after (state : State) (node : Node) : State :=
  { parents := state.parents.recordAll node.id node.children
    owners := state.owners.recordAll node.id node.comments }

/-- A node passes when its span, its children and its comments do. -/
theorem checkNode_eq_ok_iff_parts {model : Model} {state result : State} {node : Node} :
    checkNode model state node = .ok result ↔
      node.span.start ≤ node.span.stop ∧
        (∀ limit, model.lineCount = some limit → node.span.endLine ≤ limit) ∧
        ∃ found,
          node.children.foldlM (checkChild model node) (state.parents, none) = .ok found ∧
            ∃ owners,
              node.comments.foldlM (checkComment model node) state.owners = .ok owners ∧
                ({ parents := found.1, owners } : State) = result := by
  rw [checkNode, ← Span.isOrdered_iff]
  cases node.span.isOrdered with
  | false => simp
  | true =>
      cases model.lineCount with
      | none => simp [bind_eq_ok_iff]
      | some limit =>
          by_cases beyond : limit < node.span.endLine
          · have notBounded : ¬ node.span.endLine ≤ limit := UInt32.not_le.mpr beyond
            simp [beyond, notBounded]
          · have bounded : node.span.endLine ≤ limit := UInt32.not_lt.mp beyond
            simp [beyond, bounded, bind_eq_ok_iff]

/-- The exact condition under which a node passes, and what is recorded then. -/
theorem checkNode_eq_ok_iff {model : Model}
    (distinct : (model.nodes.map Node.id).Nodup)
    {state result : State} {node : Node} :
    checkNode model state node = .ok result ↔
      Fits model node ∧ state.parents.Fresh node.children ∧ state.owners.Fresh node.comments ∧
        result = state.after node := by
  have noneKnown : ∀ earlier, (none : Option Node) = some earlier → earlier ∈ model.nodes := by
    rintro earlier ⟨⟩
  rw [checkNode_eq_ok_iff_parts]
  constructor
  · rintro ⟨ordered, bounded, ⟨parents, last⟩, childrenPass, owners, commentsPass, rfl⟩
    rcases (foldlM_checkChild_eq_ok_iff distinct noneKnown).mp ⟨last, childrenPass⟩ with
      ⟨childrenFit, childrenFresh, chain, rfl⟩
    rcases foldlM_checkComment_eq_ok_iff.mp commentsPass with ⟨commentsFit, commentsFresh, rfl⟩
    exact ⟨⟨ordered, bounded, childrenFit, chain, commentsFit⟩, childrenFresh, commentsFresh, rfl⟩
  · rintro ⟨fits, childrenFresh, commentsFresh, rfl⟩
    rcases
        (foldlM_checkChild_eq_ok_iff distinct noneKnown).mpr
          ⟨fits.children, childrenFresh, fits.childrenInOrder, rfl⟩ with
      ⟨last, childrenPass⟩
    have commentsPass :
        node.comments.foldlM (checkComment model node) state.owners =
          .ok (state.owners.recordAll node.id node.comments) :=
      foldlM_checkComment_eq_ok_iff.mpr ⟨fits.comments, commentsFresh, rfl⟩
    exact ⟨fits.spanOrdered, fits.spanBounded, _, childrenPass, _, commentsPass, rfl⟩

/--
All nodes pass when each of them fits and no id is listed twice, nor was listed before; then the
links are those of their lists.
-/
theorem foldlM_checkNode_eq_ok_iff {model : Model}
    (distinct : (model.nodes.map Node.id).Nodup)
    {nodes : List Node} {state result : State} :
    nodes.foldlM (checkNode model) state = .ok result ↔
      ((∀ node ∈ nodes, Fits model node) ∧ state.parents.Fresh (nodes.flatMap Node.children) ∧
        state.owners.Fresh (nodes.flatMap Node.comments)) ∧
        result =
          { parents := linksOf Node.children nodes ++ state.parents
            owners := linksOf Node.comments nodes ++ state.owners } := by
  induction nodes generalizing state with
  | nil => simp [Links.fresh_nil, linksOf, eq_comm]
  | cons node rest induction =>
      have step :
          (node :: rest).foldlM (checkNode model) state = .ok result ↔
            (Fits model node ∧ state.parents.Fresh node.children ∧
                state.owners.Fresh node.comments) ∧
              rest.foldlM (checkNode model) (state.after node) = .ok result := by
        simp only [List.foldlM_cons, bind_eq_ok_iff, checkNode_eq_ok_iff distinct]
        constructor
        · rintro ⟨_, ⟨fits, childrenFresh, commentsFresh, rfl⟩, passed⟩
          exact ⟨⟨fits, childrenFresh, commentsFresh⟩, passed⟩
        · rintro ⟨⟨fits, childrenFresh, commentsFresh⟩, passed⟩
          exact ⟨_, ⟨fits, childrenFresh, commentsFresh, rfl⟩, passed⟩
      rw [step, induction, List.forall_mem_cons, List.flatMap_cons, List.flatMap_cons,
        Links.fresh_append_iff state.parents node.id,
        Links.fresh_append_iff state.owners node.id, linksOf_cons, linksOf_cons]
      simp only [State.after, Links.recordAll_eq, List.append_assoc]
      tauto

/-! ## Ids and orphans -/

theorem firstRepeated?_eq_none_iff (seen : List NodeId) (nodes : List Node) :
    firstRepeated? seen nodes = none ↔
      (nodes.map Node.id).Nodup ∧ ∀ node ∈ nodes, node.id ∉ seen := by
  induction nodes generalizing seen with
  | nil => simp [firstRepeated?]
  | cons node rest induction =>
      rw [firstRepeated?, List.map_cons, List.nodup_cons, List.forall_mem_cons]
      by_cases again : node.id ∈ seen
      · simp [again]
      · simp only [List.contains_iff_mem, again, if_false, induction, List.mem_cons, not_or,
          List.mem_map, not_exists, not_and]
        constructor
        · rintro ⟨nodup, apart⟩
          exact ⟨⟨fun other member => (apart other member).1, nodup⟩, not_false,
            fun other member => (apart other member).2⟩
        · rintro ⟨⟨notAgain, nodup⟩, _, unseen⟩
          exact ⟨nodup, fun other member => ⟨notAgain other member, unseen other member⟩⟩

theorem firstOrphan?_eq_none_iff (model : Model) :
    firstOrphan? model = none ↔
      ∀ node ∈ model.nodes, node.kind ≠ .comment →
        ∃ reached ∈ model.descendants model.root, reached.id = node.id := by
  simp [firstOrphan?, List.find?_eq_none]

end Ingest

/-! ## Acceptance -/

open Ingest

/-- A model with the parents and owners that its lists of children and comments give. -/
def linked (model : Model) : Model :=
  { model with
    parents := linksOf Node.children model.nodes
    owners := linksOf Node.comments model.nodes }

@[simp]
theorem nodes_linked (model : Model) : (linked model).nodes = model.nodes :=
  rfl

/--
Ingestion yields a model when every check passes, and then the model of what it was given, with
the links that the checks recorded.
-/
theorem ingest_eq_ok_iff {path : SourcePath} {root : NodeId} {nodes : List Node}
    {lineCount : Option UInt32} {result : Model} :
    ingest path root nodes lineCount = .ok result ↔
      nodes ≠ [] ∧ firstRepeated? [] nodes = none ∧
        (∃ rootNode,
          Model.node? { path, root, lineCount, nodes } root = some rootNode ∧
            rootNode.kind = .module) ∧
        firstOrphan? { path, root, lineCount, nodes } = none ∧
        ∃ state,
          nodes.foldlM (checkNode { path, root, lineCount, nodes }) {} = .ok state ∧
            { path, root, lineCount, nodes, parents := state.parents, owners := state.owners } =
              result := by
  rw [ingest]
  cases nodes with
  | nil => simp
  | cons first rest =>
      cases firstRepeated? [] (first :: rest) with
      | some id => simp
      | none =>
          cases Model.node? { path, root, lineCount, nodes := first :: rest } root with
          | none => simp
          | some rootNode =>
              by_cases isModule : rootNode.kind = .module
              · generalize
                  (first :: rest).foldlM
                    (checkNode { path, root, lineCount, nodes := first :: rest }) {} = checked
                cases firstOrphan? { path, root, lineCount, nodes := first :: rest } with
                | some orphan => simp [isModule, bind_eq_ok_iff]
                | none => simp [isModule, bind_eq_ok_iff]
              · simp [isModule]

/-- The links of an accepted model are those of its lists. -/
theorem eq_linked_of_ingest {path : SourcePath} {root : NodeId} {nodes : List Node}
    {lineCount : Option UInt32} {result : Model}
    (accepted : ingest path root nodes lineCount = .ok result) :
    result = linked { path, root, lineCount, nodes } := by
  rcases ingest_eq_ok_iff.mp accepted with ⟨_, unrepeated, _, _, state, passed, rfl⟩
  have distinct : (nodes.map Node.id).Nodup :=
    ((firstRepeated?_eq_none_iff [] nodes).mp unrepeated).1
  rcases (foldlM_checkNode_eq_ok_iff distinct).mp passed with ⟨_, rfl⟩
  simp [linked]

/-- What passes the checks of ingestion is well formed. -/
theorem wellFormed_of_ingest {path : SourcePath} {root : NodeId} {nodes : List Node}
    {lineCount : Option UInt32} {result : Model}
    (accepted : ingest path root nodes lineCount = .ok result) :
    WellFormed root nodes lineCount := by
  let model : Model := { path, root, lineCount, nodes }
  rcases ingest_eq_ok_iff.mp accepted with
    ⟨nonempty, unrepeated, ⟨rootNode, rootFound, rootKind⟩, noOrphan, _, passed, _⟩
  have distinct : (model.nodes.map Node.id).Nodup :=
    ((firstRepeated?_eq_none_iff [] nodes).mp unrepeated).1
  rcases (foldlM_checkNode_eq_ok_iff distinct).mp passed with
    ⟨⟨fits, childrenFresh, commentsFresh⟩, _⟩
  rcases mem_of_node?_eq_some rootFound with ⟨rootMember, rootId⟩
  constructor
  case nonempty => exact nonempty
  case distinctIds => exact distinct
  case rootIsModule => exact ⟨rootNode, rootMember, rootId, rootKind⟩
  case spansOrdered => exact fun node member => (fits node member).spanOrdered
  case spansBounded =>
    intro limit given node member
    exact (fits node member).spanBounded limit given
  case childrenExist =>
    intro parent member id listed
    rcases (fits parent member).children id listed with ⟨_, child, found, _⟩
    rcases mem_of_node?_eq_some found with ⟨childMember, childId⟩
    exact ⟨child, childMember, childId⟩
  case rootUnlisted =>
    intro parent member listed
    exact ((fits parent member).children root listed).1 rfl
  case childrenOnce => exact (Links.fresh_empty_iff _).mp childrenFresh
  case childrenInside =>
    intro parent member child childMember listed
    rcases (fits parent member).children child.id listed with ⟨_, found, foundEqual, inside⟩
    have present : model.node? child.id = some child := exists_node?_eq_some distinct childMember
    rw [present] at foundEqual
    cases foundEqual
    exact (Span.contains_iff _ _).mp inside
  case childrenInOrder => exact fun parent member => (fits parent member).childrenInOrder
  case commentsExist =>
    intro owner member id listed
    rcases (fits owner member).comments id listed with ⟨comment, found, kind⟩
    rcases mem_of_node?_eq_some found with ⟨commentMember, commentId⟩
    exact ⟨comment, commentMember, commentId, kind⟩
  case commentsOnce => exact (Links.fresh_empty_iff _).mp commentsFresh
  case reachable =>
    intro node member notComment
    rcases (firstOrphan?_eq_none_iff model).mp noOrphan node member notComment with
      ⟨reached, below, sameId⟩
    rw [← sameId]
    exact (reachable_of_mem_descendantsWithin below).2

/-- What is well formed passes every check of ingestion. -/
theorem WellFormed.ingest_eq_ok {root : NodeId} {nodes : List Node} {lineCount : Option UInt32}
    (wellFormed : WellFormed root nodes lineCount) (path : SourcePath) :
    ingest path root nodes lineCount = .ok (linked { path, root, lineCount, nodes }) := by
  let model : Model := { path, root, lineCount, nodes }
  have distinct : (model.nodes.map Node.id).Nodup := wellFormed.distinctIds
  rcases wellFormed.rootIsModule with ⟨rootNode, rootMember, rootId, rootKind⟩
  have present (parent : Node) (member : parent ∈ nodes) (id : NodeId)
      (listed : id ∈ parent.children) :
      id ∈ nodes.map Node.id := by
    rcases wellFormed.childrenExist parent member id listed with ⟨child, childMember, childId⟩
    exact List.mem_map.mpr ⟨child, childMember, childId⟩
  have fits (node : Node) (member : node ∈ nodes) : Fits model node := by
    constructor
    case spanOrdered => exact wellFormed.spansOrdered node member
    case spanBounded => exact fun limit given => wellFormed.spansBounded limit given node member
    case children =>
      intro id listed
      rcases wellFormed.childrenExist node member id listed with ⟨child, childMember, rfl⟩
      refine ⟨?_, child, exists_node?_eq_some distinct childMember, ?_⟩
      · intro isRoot
        rw [isRoot] at listed
        exact wellFormed.rootUnlisted node member listed
      · exact (Span.contains_iff _ _).mpr
          (wellFormed.childrenInside node member child childMember listed)
    case childrenInOrder => exact wellFormed.childrenInOrder node member
    case comments =>
      intro id listed
      rcases wellFormed.commentsExist node member id listed with ⟨comment, commentMember, rfl, kind⟩
      exact ⟨comment, exists_node?_eq_some distinct commentMember, kind⟩
  have passed :
      nodes.foldlM (checkNode model) {} =
        .ok
          { parents := linksOf Node.children nodes ++ []
            owners := linksOf Node.comments nodes ++ [] } :=
    (foldlM_checkNode_eq_ok_iff distinct).mpr
      ⟨⟨fits, (Links.fresh_empty_iff _).mpr wellFormed.childrenOnce,
        (Links.fresh_empty_iff _).mpr wellFormed.commentsOnce⟩, rfl⟩
  refine ingest_eq_ok_iff.mpr ⟨wellFormed.nonempty, ?_, ?_, ?_, _, passed, by simp [linked]⟩
  · exact (firstRepeated?_eq_none_iff [] nodes).mpr ⟨distinct, by simp⟩
  · exact ⟨rootNode, (node?_eq_some_iff distinct).mpr ⟨rootMember, rootId⟩, rootKind⟩
  · rw [firstOrphan?_eq_none_iff]
    intro node member notComment
    refine ⟨node, ?_, rfl⟩
    exact (mem_descendants_root_iff distinct wellFormed.childrenOnce wellFormed.rootUnlisted
      (List.mem_map.mpr ⟨rootNode, rootMember, rootId⟩) present).mpr
      ⟨member, wellFormed.reachable node member notComment⟩

/-- Ingestion yields a model if and only if the nodes are well formed. -/
theorem exists_ingest_eq_ok_iff_wellFormed
    (path : SourcePath)
    (root : NodeId)
    (nodes : List Node)
    (lineCount : Option UInt32) :
    (∃ model, ingest path root nodes lineCount = .ok model) ↔
      WellFormed root nodes lineCount := by
  constructor
  · rintro ⟨model, accepted⟩
    exact wellFormed_of_ingest accepted
  · intro wellFormed
    exact ⟨linked { path, root, lineCount, nodes }, wellFormed.ingest_eq_ok path⟩

/-! ## Accepted models -/

/-- A model is well formed when its nodes are, and when its links are what their lists say. -/
structure IsWellFormed (model : Model) : Prop
    extends WellFormed model.root model.nodes model.lineCount where
  linksParents :
    ∀ child parent,
      model.parents.get? child = some parent ↔
        ∃ node ∈ model.nodes, node.id = parent ∧ child ∈ node.children
  linksOwners :
    ∀ comment owner,
      model.owners.get? comment = some owner ↔
        ∃ node ∈ model.nodes, node.id = owner ∧ comment ∈ node.comments

/-- What ingestion yields is well formed. -/
theorem IsWellFormed.of_ingest {path : SourcePath} {root : NodeId} {nodes : List Node}
    {lineCount : Option UInt32} {model : Model}
    (accepted : ingest path root nodes lineCount = .ok model) :
    model.IsWellFormed := by
  have wellFormed := wellFormed_of_ingest accepted
  rw [eq_linked_of_ingest accepted]
  exact
    { wellFormed with
      linksParents := fun _ _ => get?_linksOf_eq_some_iff wellFormed.childrenOnce
      linksOwners := fun _ _ => get?_linksOf_eq_some_iff wellFormed.commentsOnce }

theorem WellFormed.children_mem_ids {root : NodeId} {nodes : List Node} {lineCount : Option UInt32}
    (wellFormed : WellFormed root nodes lineCount)
    (parent : Node) (member : parent ∈ nodes) (id : NodeId)
    (listed : id ∈ parent.children) :
    id ∈ nodes.map Node.id := by
  rcases wellFormed.childrenExist parent member id listed with ⟨child, childMember, rfl⟩
  exact List.mem_map_of_mem childMember

/-- Where links are what some lists say, following one leads to the node that lists an id. -/
theorem bind_node?_eq_some_iff {model : Model}
    (distinct : (model.nodes.map Node.id).Nodup)
    {links : Lookup NodeId NodeId} {list : Node → List NodeId}
    (agree :
      ∀ id owner,
        links.get? id = some owner ↔ ∃ node ∈ model.nodes, node.id = owner ∧ id ∈ list node)
    {id : NodeId} {node : Node} :
    (links.get? id).bind model.node? = some node ↔ node ∈ model.nodes ∧ id ∈ list node := by
  rw [Option.bind_eq_some_iff]
  constructor
  · rintro ⟨owner, linked, found⟩
    rcases (agree id owner).mp linked with ⟨other, member, rfl, listed⟩
    rw [exists_node?_eq_some distinct member, Option.some_inj] at found
    exact ⟨found ▸ member, found ▸ listed⟩
  · rintro ⟨member, listed⟩
    exact ⟨node.id, (agree id node.id).mpr ⟨node, member, rfl, listed⟩,
      exists_node?_eq_some distinct member⟩

namespace IsWellFormed

variable {model : Model} (wellFormed : model.IsWellFormed)

include wellFormed

theorem parent?_eq_some_iff {child : NodeId} {parent : Node} :
    model.parent? child = some parent ↔ parent ∈ model.nodes ∧ child ∈ parent.children :=
  bind_node?_eq_some_iff wellFormed.distinctIds wellFormed.linksParents

theorem commentOwner?_eq_some_iff {comment : NodeId} {owner : Node} :
    model.commentOwner? comment = some owner ↔
      owner ∈ model.nodes ∧ comment ∈ owner.comments :=
  bind_node?_eq_some_iff wellFormed.distinctIds wellFormed.linksOwners

/-- Below a node stand the ids of which it is the parent. -/
theorem listsChild_iff_parent? {parent child : NodeId} :
    ListsChild model.nodes parent child ↔
      ∃ node, model.parent? child = some node ∧ node.id = parent := by
  simp only [wellFormed.parent?_eq_some_iff]
  constructor
  · rintro ⟨node, member, isParent, listed⟩
    exact ⟨node, ⟨member, listed⟩, isParent⟩
  · rintro ⟨node, ⟨member, listed⟩, isParent⟩
    exact ⟨node, member, isParent, listed⟩

end IsWellFormed

end Model

end StructuralLint
