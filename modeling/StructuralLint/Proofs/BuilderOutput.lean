import Mathlib.Data.List.Sort
import StructuralLint.Proofs.BuilderEdits
import StructuralLint.Proofs.PreOrder

/-!
# What a builder builds

A run of actions in source order keeps the tree, the layout and the owners of comments, and from
these the nodes are well formed: ingestion accepts them.  The walk down from the root then meets the
nodes in the order of their creation, because every subtree is a stretch of the nodes.

Ids have 32 bits.  Beyond `UInt32.size` nodes an id is given twice, and ingestion says so.  It also
says so when an edit has turned a span around: edits have to leave outlines alone.
-/

namespace StructuralLint.Model.Builder

open Relation

/-! ## Runs -/

/-- What a builder keeps while there are ids. -/
structure IsGrown (builder : Builder) : Prop where
  tree : builder.HasTree
  layout : builder.HasLayout
  owners : builder.HasOwners

/-- What a builder keeps from the module on, also when there are no more ids. -/
structure IsSound (builder : Builder) : Prop where
  root : builder.root = some (idAt 0)
  linked : builder.IsLinked
  numbered : builder.IsNumbered
  grown : builder.nodes.length ≤ UInt32.size → builder.IsGrown

theorem Step.isSound {before after : Builder} (step : Step before after)
    (sound : before.IsSound) :
    after.IsSound := by
  refine ⟨?_, step.isLinked sound.linked, step.isNumbered sound.numbered, ?_⟩
  · rcases step with ⟨kind, creates⟩
    rw [creates.root]
    exact sound.root
  intro small
  rcases step with ⟨kind, creates⟩
  rw [creates.length_eq] at small
  have room : before.nodes.length < UInt32.size := small
  have grown := sound.grown (Nat.le_of_lt room)
  rcases creates.places room with ⟨node, _, places⟩
  rcases places.exists_hangs sound.linked sound.numbered grown.tree (Nat.le_of_lt room) with
    ⟨parent, hangs, adds⟩
  exact
    ⟨grown.tree.grows sound.linked adds hangs room places.id places.childless,
      grown.layout.grows sound.linked adds hangs places grown.tree,
      grown.owners.grows adds places⟩

theorem isSound_of_steps {before after : Builder} (steps : ReflTransGen Step before after)
    (sound : before.IsSound) :
    after.IsSound := by
  induction steps with
  | refl => exact sound
  | tail _ step induction => exact step.isSound induction

theorem Agrees.isSound {before after : Builder} (agrees : Agrees before after)
    (sound : before.IsSound) :
    after.IsSound := by
  refine ⟨agrees.root.trans sound.root, agrees.isLinked sound.linked,
    agrees.isNumbered sound.numbered, ?_⟩
  rw [agrees.length_eq]
  intro small
  have grown := sound.grown small
  exact ⟨agrees.hasTree grown.tree, agrees.hasLayout grown.layout, agrees.hasOwners grown.owners⟩

/-- An action in source order is answered. -/
theorem IsSound.exists_act_eq_ok {builder : Builder} (sound : builder.IsSound) {action : Action}
    (permitted : builder.Permits action) :
    ∃ next, builder.act action = .ok next ∧ next.IsSound := by
  cases action with
  | create call =>
      have present (parent : NodeId) (below : call.parent? = some parent) :
          parent.index.toNat < builder.nodes.length :=
        (permitted.below parent below).lt_length sound.numbered
      rcases exists_run_eq_ok sound.linked present permitted with ⟨id, next, isNext, steps⟩
      refine ⟨next, ?_, isSound_of_steps steps sound⟩
      rw [act, isNext]
      rfl
  | edit id change =>
      exact ⟨builder.modify id change, rfl, (agrees_modify permitted).isSound sound⟩

/-- Actions in source order are answered. -/
theorem IsSound.exists_actAll_eq_ok {builder : Builder} (sound : builder.IsSound)
    {actions : List Action} (inOrder : builder.InSourceOrder actions) :
    ∃ built, builder.actAll actions = .ok built ∧ built.IsSound := by
  induction actions generalizing builder with
  | nil => exact ⟨builder, rfl, sound⟩
  | cons action actions induction =>
      rcases inOrder with ⟨permitted, further⟩
      rcases sound.exists_act_eq_ok permitted with ⟨next, isNext, nextSound⟩
      rcases induction nextSound (further next isNext) with ⟨built, isBuilt, builtSound⟩
      refine ⟨built, ?_, builtSound⟩
      rw [actAll, List.foldlM_cons, isNext]
      exact isBuilt

section Module

/-- The node that the first request creates. -/
def moduleNode (name : String) : Node :=
  { id := idAt 0, kind := .module, name := some name
    span := { startLine := 1, startCol := 1, endLine := 1, endCol := 1 } }

/-- A builder of which only the module was requested. -/
def ofModule (path : SourcePath) (name : String) : Builder :=
  { path, nodes := [moduleNode name], parents := [none], root := some (idAt 0) }

variable (path : SourcePath) (name : String)

theorem eq_moduleNode {position : Nat} {node : Node}
    (found : (ofModule path name).nodes[position]? = some node) :
    position = 0 ∧ node = moduleNode name := by
  rw [ofModule, List.getElem?_singleton] at found
  split at found
  next isFirst => exact ⟨isFirst, (Option.some_inj.mp found).symm⟩
  next => cases found

theorem not_hasParent_ofModule (parent child : Nat) :
    ¬ HasParent (ofModule path name).parents parent child := by
  intro isParent
  rw [HasParent, ofModule, List.getElem?_singleton] at isParent
  split at isParent
  next => cases isParent
  next => cases isParent

theorem hasTree_ofModule : (ofModule path name).HasTree := by
  have noParent := not_hasParent_ofModule path name
  constructor
  case rootIsModule => exact ⟨moduleNode name, rfl, rfl⟩
  case loose =>
    intro position node found
    rcases eq_moduleNode path name found with ⟨rfl, rfl⟩
    exact ⟨fun _ => Or.inl rfl, fun _ => rfl⟩
  case parentsInTree => exact fun parent child isParent => absurd isParent (noParent parent child)
  case listed =>
    intro position node found id
    rcases eq_moduleNode path name found with ⟨rfl, rfl⟩
    constructor
    · intro member
      cases member
    · rintro ⟨child, isParent, _⟩
      exact absurd isParent (noParent 0 child)
  case ascending =>
    intro node member
    rw [List.mem_singleton.mp member]
    exact List.Pairwise.nil
  case nested =>
    intro above between below _ fromAbove toBelow encloses
    have same := eq_of_encloses_of_no_parent encloses fun parent => noParent parent below
    rw [← same] at toBelow
    rw [Nat.le_antisymm fromAbove toBelow]
    exact ReflTransGen.refl

theorem hasLayout_ofModule : (ofModule path name).HasLayout := by
  constructor
  case ordered =>
    intro node member
    rw [List.mem_singleton.mp member]
    exact Position.le_refl _
  case endsInFile =>
    intro node member
    rw [List.mem_singleton.mp member]
    exact UInt32.le_refl _
  case behindCursor =>
    intro node member _
    rw [List.mem_singleton.mp member]
    exact Position.le_refl _
  case inside =>
    intro position index parent child isParent
    exact absurd isParent (not_hasParent_ofModule path name position index)
  case apart =>
    intro first second earlier later _ laterFound _ _ less
    rw [(eq_moduleNode path name laterFound).1] at less
    exact absurd less (Nat.not_lt_zero first)

theorem hasOwners_ofModule : (ofModule path name).HasOwners := by
  refine ⟨rfl, ?_⟩
  intro front comment back split isComment
  have member : comment ∈ (ofModule path name).nodes.map bare := by
    rw [split]
    exact List.mem_append_right _ List.mem_cons_self
  rw [List.mem_singleton.mp member] at isComment
  cases isComment

theorem isSound_ofModule : (ofModule path name).IsSound := by
  refine ⟨rfl, ⟨rfl, ?_⟩, rfl, fun _ => ?_⟩
  · intro parent child isParent
    exact absurd isParent (not_hasParent_ofModule path name parent child)
  · exact ⟨hasTree_ofModule path name, hasLayout_ofModule path name, hasOwners_ofModule path name⟩

end Module

/-! ## The nodes are well formed -/

section Output

variable {builder : Builder} (linked : builder.IsLinked) (numbered : builder.IsNumbered)
  (small : builder.nodes.length ≤ UInt32.size)

include linked in
/-- Comments have no parent. -/
theorem HasTree.inTree_of_hasParent (tree : builder.HasTree) {parent child : Nat}
    (isParent : HasParent builder.parents parent child) :
    builder.InTree child := by
  have found := List.getElem?_eq_getElem (lt_length_of_hasParent linked isParent)
  refine ⟨_, found, ?_⟩
  intro isComment
  rw [HasParent, (tree.loose child _ found).mpr (Or.inr isComment)] at isParent
  cases isParent

include linked in
/-- What lies below the tree is in the tree. -/
theorem HasTree.inTree_of_enclosed (tree : builder.HasTree) {above below : Nat}
    (encloses : Encloses builder.parents above below)
    (inTree : builder.InTree above) :
    builder.InTree below := by
  rcases ReflTransGen.cases_tail encloses with rfl | ⟨parent, _, isParent⟩
  · exact inTree
  · exact tree.inTree_of_hasParent linked isParent

include linked in
theorem HasTree.exists_child (tree : builder.HasTree) {position : Nat} {node : Node}
    (found : builder.nodes[position]? = some node) {id : NodeId} (listed : id ∈ node.children) :
    ∃ index child,
      id = idAt index ∧ HasParent builder.parents position index ∧
        builder.nodes[index]? = some child ∧ child.kind ≠ .comment := by
  rcases (tree.listed position node found id).mp listed with ⟨index, isParent, rfl⟩
  rcases tree.inTree_of_hasParent linked isParent with ⟨child, isChild, inTree⟩
  exact ⟨index, child, rfl, isParent, isChild, inTree⟩

include linked numbered in
/-- Everything but comments hangs from the module. -/
theorem HasTree.reachable (tree : builder.HasTree) {position : Nat}
    (inTree : builder.InTree position) :
    Reachable builder.nodes (idAt 0) (idAt position) := by
  induction position using Nat.strongRecOn with
  | ind position induction =>
      rcases inTree with ⟨node, found, notComment⟩
      by_cases isFirst : position = 0
      · rw [isFirst]
        exact ReflTransGen.refl
      have hangs : builder.parents[position]? ≠ some none := by
        intro isLoose
        exact ((tree.loose position node found).mp isLoose).elim isFirst notComment
      have within : position < builder.parents.length := by
        rw [linked.length]
        exact (List.getElem?_eq_some_iff.mp found).1
      have listedParent := List.getElem?_eq_getElem within
      cases isParent : builder.parents[position] with
      | none =>
          rw [isParent] at listedParent
          exact absurd listedParent hangs
      | some parent =>
          rw [isParent] at listedParent
          have above := induction parent (linked.back parent position listedParent)
            (tree.parentsInTree parent position listedParent)
          exact above.tail (listsChild_of_hasParent numbered tree listedParent)

include numbered small in
theorem eq_of_idAt {position : Nat} {node : Node} (member : node ∈ builder.nodes)
    (within : position < builder.nodes.length)
    (isId : node.id = idAt position) :
    builder.nodes[position]? = some node := by
  rcases List.getElem?_of_mem member with ⟨index, found⟩
  have less := (List.getElem?_eq_some_iff.mp found).1
  have same : index = position :=
    idAt_inj (by omega) (by omega) ((numbered.id_eq found).symm.trans isId)
  rw [← same]
  exact found

include linked small in
/-- No id is listed twice, because a position has one parent. -/
theorem HasTree.nodup_children (tree : builder.HasTree) :
    (builder.nodes.flatMap Node.children).Nodup := by
  refine List.nodup_flatMap.mpr ⟨?_, ?_⟩
  · intro parent member
    apply (tree.ascending parent member).imp
    intro first second less same
    rw [same] at less
    exact Nat.lt_irrefl _ less
  · rw [List.pairwise_iff_getElem]
    intro first second firstWithin secondWithin less id firstLists secondLists
    rcases tree.exists_child linked (List.getElem?_eq_getElem firstWithin) firstLists with
      ⟨index, _, rfl, firstParent, _, _⟩
    rcases tree.exists_child linked (List.getElem?_eq_getElem secondWithin) secondLists with
      ⟨other, _, isOther, secondParent, _, _⟩
    have indexWithin := lt_length_of_hasParent linked firstParent
    have otherWithin := lt_length_of_hasParent linked secondParent
    have same : index = other := idAt_inj (by omega) (by omega) isOther
    rw [← same] at secondParent
    exact Nat.ne_of_lt less (firstParent.unique secondParent)

include linked numbered small in
/-- Children end before the next one starts. -/
theorem IsGrown.children_isChain (grown : builder.IsGrown) {parent : Node}
    (member : parent ∈ builder.nodes) :
    parent.children.IsChain (Follows builder.nodes) := by
  have tree := grown.tree
  rcases List.getElem?_of_mem member with ⟨position, found⟩
  apply List.Pairwise.isChain
  apply (tree.ascending parent member).imp_of_mem
  intro first second firstListed secondListed less
  rcases tree.exists_child linked found firstListed with
    ⟨firstAt, firstChild, rfl, firstParent, firstFound, firstInTree⟩
  rcases tree.exists_child linked found secondListed with
    ⟨secondAt, secondChild, rfl, secondParent, secondFound, secondInTree⟩
  have firstWithin := lt_length_of_hasParent linked firstParent
  have secondWithin := lt_length_of_hasParent linked secondParent
  rw [toNat_idAt (by omega), toNat_idAt (by omega)] at less
  intro earlier earlierMember later laterMember earlierId laterId
  have isEarlier := eq_of_idAt numbered small earlierMember firstWithin earlierId
  have isLater := eq_of_idAt numbered small laterMember secondWithin laterId
  rw [firstFound, Option.some_inj] at isEarlier
  rw [secondFound, Option.some_inj] at isLater
  rw [← isEarlier, ← isLater]
  exact (grown.layout.apart firstAt secondAt firstChild secondChild firstFound secondFound
    firstInTree secondInTree less).resolve_left
      (firstParent.not_encloses_sibling linked.back secondParent less)

include linked numbered small in
/-- What a builder in order holds is a model. -/
theorem IsGrown.wellFormed (grown : builder.IsGrown) :
    WellFormed (idAt 0) builder.nodes (some builder.line) := by
  have tree := grown.tree
  have layout := grown.layout
  rcases tree.rootIsModule with ⟨rootNode, rootFound, rootKind⟩
  have distinct := numbered.nodup_ids small
  have gathered := grown.owners.allGathered
  rw [AllGathered] at gathered
  constructor
  case nonempty => exact List.ne_nil_of_mem (List.mem_of_getElem? rootFound)
  case distinctIds => exact distinct
  case rootIsModule =>
    exact ⟨rootNode, List.mem_of_getElem? rootFound, numbered.id_eq rootFound, rootKind⟩
  case spansOrdered => exact layout.ordered
  case spansBounded =>
    rintro _ ⟨⟩
    exact layout.endsInFile
  case childrenExist =>
    intro parent member id listed
    rcases List.getElem?_of_mem member with ⟨position, found⟩
    rcases tree.exists_child linked found listed with ⟨index, child, rfl, _, isChild, _⟩
    exact ⟨child, List.mem_of_getElem? isChild, numbered.id_eq isChild⟩
  case rootUnlisted =>
    intro parent member listed
    rcases List.getElem?_of_mem member with ⟨position, found⟩
    rcases tree.exists_child linked found listed with ⟨index, child, isId, isParent, _, _⟩
    have within := lt_length_of_hasParent linked isParent
    have isFirst : 0 = index := idAt_inj (by omega) (by omega) isId
    have less := linked.back position index isParent
    omega
  case childrenOnce => exact tree.nodup_children linked small
  case childrenInside =>
    intro parent member child childMember listed
    rcases List.getElem?_of_mem member with ⟨position, found⟩
    rcases tree.exists_child linked found listed with ⟨index, _, isId, isParent, _, _⟩
    have within := lt_length_of_hasParent linked isParent
    exact layout.inside position index parent child isParent found
      (eq_of_idAt numbered small childMember within isId)
  case childrenInOrder =>
    intro parent member
    exact grown.children_isChain linked numbered small member
  case commentsExist =>
    intro owner member id listed
    have isListed : id ∈ builder.nodes.flatMap Node.comments :=
      List.mem_flatMap.mpr ⟨owner, member, listed⟩
    have isComment := List.mem_append_left builder.pendingComments isListed
    rw [gathered] at isComment
    rcases List.mem_map.mp isComment with ⟨comment, isMember, isId⟩
    rcases List.mem_filter.mp isMember with ⟨commentMember, kind⟩
    exact ⟨comment, commentMember, isId, beq_iff_eq.mp kind⟩
  case commentsOnce =>
    exact (List.nodup_append.mp (grown.owners.nodup_comments distinct)).1
  case reachable =>
    intro node member notComment
    rcases List.getElem?_of_mem member with ⟨position, found⟩
    rw [numbered.id_eq found]
    exact tree.reachable linked numbered ⟨node, found, notComment⟩

end Output

/-! ## The walk down -/

/-- The order in which nodes were given their ids. -/
def CreatedBefore (first second : Node) : Prop :=
  first.id.index.toNat < second.id.index.toNat

instance : Std.Irrefl CreatedBefore where
  irrefl node := Nat.lt_irrefl node.id.index.toNat

instance : Std.Antisymm CreatedBefore where
  antisymm _ _ less greater := absurd less (Nat.lt_asymm greater)

section Walk

variable {builder : Builder} (linked : builder.IsLinked) (numbered : builder.IsNumbered)
  (small : builder.nodes.length ≤ UInt32.size) (tree : builder.HasTree)
  {model : Model} (sameNodes : model.nodes = builder.nodes)

include linked numbered small tree sameNodes in
/-- What the walk down meets is enclosed by where it starts. -/
theorem below_of_mem_descendants {levels top : Nat} {node : Node}
    (present : top < builder.nodes.length)
    (member : node ∈ model.descendantsWithin levels (idAt top)) :
    builder.nodes[node.id.index.toNat]? = some node ∧
      Encloses builder.parents top node.id.index.toNat := by
  rcases reachable_of_mem_descendantsWithin member with ⟨isNode, reachable⟩
  rw [sameNodes] at isNode reachable
  rcases List.getElem?_of_mem isNode with ⟨bottom, found⟩
  have within := (List.getElem?_eq_some_iff.mp found).1
  have isId := numbered.id_eq found
  rw [isId] at reachable
  rcases exists_encloses_of_reachable linked numbered tree small within reachable with
    ⟨above, isAbove, encloses⟩
  have atMost := encloses.le linked.back
  rw [isId, toNat_idAt (by omega), idAt_inj (by omega) (by omega) isAbove]
  exact ⟨found, encloses⟩

include linked numbered small tree sameNodes in
/-- The walk down goes through the nodes in the order of their creation. -/
theorem pairwise_descendantsWithin (levels : Nat) {top : Nat}
    (present : top < builder.nodes.length) :
    (model.descendantsWithin levels (idAt top)).Pairwise CreatedBefore := by
  have below {levels position : Nat} {node : Node} (within : position < builder.nodes.length)
      (member : node ∈ model.descendantsWithin levels (idAt position)) :
      Encloses builder.parents position node.id.index.toNat :=
    (below_of_mem_descendants linked numbered small tree sameNodes within member).2
  induction levels generalizing top with
  | zero => exact List.Pairwise.nil
  | succ levels induction =>
      rw [descendantsWithin]
      cases isTop : model.node? (idAt top) with
      | none => exact List.Pairwise.nil
      | some node =>
          rcases mem_of_node?_eq_some isTop with ⟨member, isId⟩
          rw [sameNodes] at member
          have found := eq_of_idAt numbered small member present isId
          have child {id : NodeId} (listed : id ∈ node.children) :
              ∃ index, id = idAt index ∧ HasParent builder.parents top index := by
            rcases tree.exists_child linked found listed with ⟨index, _, isIndex, isParent, _⟩
            exact ⟨index, isIndex, isParent⟩
          refine List.pairwise_cons.mpr ⟨?_, List.pairwise_flatMap.mpr ⟨?_, ?_⟩⟩
          · intro other isBelow
            rcases List.mem_flatMap.mp isBelow with ⟨id, listed, belowChild⟩
            rcases child listed with ⟨index, rfl, isParent⟩
            have encloses := below (lt_length_of_hasParent linked isParent) belowChild
            rw [CreatedBefore, isId, toNat_idAt (by omega)]
            exact Nat.lt_of_lt_of_le (linked.back top index isParent) (encloses.le linked.back)
          · intro id listed
            rcases child listed with ⟨index, rfl, isParent⟩
            exact induction (lt_length_of_hasParent linked isParent)
          · refine (tree.ascending node member).imp_of_mem ?_
            intro firstId secondId firstListed secondListed less first firstBelow second secondBelow
            rcases child firstListed with ⟨firstAt, rfl, firstParent⟩
            rcases child secondListed with ⟨secondAt, rfl, secondParent⟩
            have firstWithin := lt_length_of_hasParent linked firstParent
            have secondWithin := lt_length_of_hasParent linked secondParent
            rw [toNat_idAt (by omega), toNat_idAt (by omega)] at less
            have firstEncloses := below firstWithin firstBelow
            have secondEncloses := below secondWithin secondBelow
            refine Nat.lt_of_lt_of_le ?_ (secondEncloses.le linked.back)
            by_contra reaches
            -- A stretch from the first child up to the second would enclose the second.
            have encloses := tree.nested firstAt secondAt _
              (tree.inTree_of_hasParent linked secondParent) (Nat.le_of_lt less)
              (Nat.not_lt.mp reaches) firstEncloses
            exact firstParent.not_encloses_sibling linked.back secondParent less encloses

include numbered small in
theorem pairwise_nodes : builder.nodes.Pairwise CreatedBefore := by
  rw [List.pairwise_iff_getElem]
  intro first second firstWithin secondWithin less
  rw [CreatedBefore, numbered.id_eq (List.getElem?_eq_getElem firstWithin),
    numbered.id_eq (List.getElem?_eq_getElem secondWithin), toNat_idAt (by omega),
    toNat_idAt (by omega)]
  exact less

include linked numbered small tree sameNodes in
/-- The walk down from the root lists everything but comments in the order of creation. -/
theorem descendants_root_eq (isRoot : model.root = idAt 0)
    (wellFormed : model.IsWellFormed) :
    model.descendants model.root = model.nodes.filter (·.kind != .comment) := by
  rcases tree.rootIsModule with ⟨rootNode, rootFound, rootKind⟩
  have nonempty := (List.getElem?_eq_some_iff.mp rootFound).1
  have rootInTree : builder.InTree 0 := by
    refine ⟨rootNode, rootFound, ?_⟩
    rw [rootKind]
    exact NodeKind.noConfusion
  have walked : (model.descendants model.root).Pairwise CreatedBefore := by
    rw [isRoot]
    exact pairwise_descendantsWithin linked numbered small tree sameNodes _ nonempty
  have created : (model.nodes.filter (·.kind != .comment)).Pairwise CreatedBefore := by
    rw [sameNodes]
    exact (pairwise_nodes numbered small).filter _
  apply walked.eq_of_mem_iff created
  intro node
  rw [List.mem_filter, bne_iff_ne]
  constructor
  · intro member
    refine ⟨(reachable_of_mem_descendantsWithin member).1, ?_⟩
    rw [isRoot] at member
    rcases below_of_mem_descendants linked numbered small tree sameNodes nonempty member with
      ⟨found, encloses⟩
    rcases tree.inTree_of_enclosed linked encloses rootInTree with ⟨same, sameFound, notComment⟩
    rw [found, Option.some_inj] at sameFound
    rw [sameFound]
    exact notComment
  · rintro ⟨member, notComment⟩
    exact wellFormed.mem_descendants_of_not_comment member notComment

end Walk

/-! ## The output -/

theorem IsSound.build_eq {builder : Builder} (sound : builder.IsSound) :
    builder.build = ingest builder.path (idAt 0) builder.nodes (some builder.line) := by
  rw [build, sound.root]

/-- A sound builder builds a model exactly while there are ids for its nodes. -/
theorem IsSound.exists_build_iff {builder : Builder} (sound : builder.IsSound) :
    (∃ model, builder.build = .ok model) ↔ builder.nodes.length ≤ UInt32.size := by
  rw [sound.build_eq]
  constructor
  · rintro ⟨model, accepted⟩
    exact sound.numbered.le_of_nodup_ids (wellFormed_of_ingest accepted).distinctIds
  · intro small
    exact ⟨_, ((sound.grown small).wellFormed sound.linked sound.numbered small).ingest_eq_ok _⟩

/-- A commented return of a call, which is renamed, and a block behind it. -/
def returningActions : List Action :=
  [.create (.comment "# answer"), .create (.statement { index := 0 } .return),
    .create (.call { index := 2 } "f"), .edit { index := 4 } fun node => { node with name := "g" },
    .create (.comment "# rest"), .create (.statement { index := 0 } .block)]

/-- Two calls on the first line and comments behind them. -/
def crowdingActions (comments : Nat) : List Action :=
  .create (.expr { index := 0 } .call) :: .create (.expr { index := 0 } .call) ::
    List.replicate comments (.create (.comment ""))

theorem inSourceOrder_comments {comments : Nat} {builder : Builder}
    (room : builder.line.toNat + comments < UInt32.size) :
    builder.InSourceOrder (List.replicate comments (.create (.comment ""))) := by
  induction comments generalizing builder with
  | zero => trivial
  | succ comments induction =>
      refine ⟨allows_comment (by omega), ?_⟩
      rintro _ ⟨⟩
      apply induction
      show (builder.line + 1).toNat + comments < UInt32.size
      rw [UInt32.toNat_add]
      show (builder.line.toNat + 1) % UInt32.size + comments < UInt32.size
      rw [Nat.mod_eq_of_lt (by omega)]
      omega

theorem length_actAll_comments {comments : Nat} {builder built : Builder}
    (answered : builder.actAll (List.replicate comments (.create (.comment ""))) = .ok built) :
    built.nodes.length = builder.nodes.length + comments := by
  induction comments generalizing builder with
  | zero =>
      cases answered
      rfl
  | succ comments induction =>
      rw [List.replicate_succ, actAll, List.foldlM_cons] at answered
      rw [induction answered]
      show (List.modify _ _ _).length + comments = _
      rw [List.length_modify, List.length_append]
      show builder.nodes.length + 1 + comments = _
      omega

/-- A module to which nothing was added. -/
def crowdedStart : Builder :=
  ofModule { text := "crowded.ir.json" } "m"

theorem inSourceOrder_crowdingActions {comments : Nat} (room : comments + 1 < UInt32.size) :
    crowdedStart.InSourceOrder (crowdingActions comments) := by
  refine ⟨allows_below rfl (by rintro _ _ _ ⟨⟩) ?_ (by decide) (by decide), ?_⟩
  · exact isOpen_latest [] rfl rfl rfl rfl
  rintro _ ⟨⟩
  refine ⟨allows_below rfl (by rintro _ _ _ ⟨⟩) ?_ (by decide) (by decide), ?_⟩
  · refine isOpen_above { index := 1 } 0 rfl rfl rfl ?_
    exact isOpen_latest [_] rfl rfl rfl rfl
  rintro _ ⟨⟩
  apply inSourceOrder_comments
  show 1 + comments < UInt32.size
  omega

theorem length_actAll_crowdingActions {comments : Nat} {built : Builder}
    (answered : crowdedStart.actAll (crowdingActions comments) = .ok built) :
    built.nodes.length = 3 + comments := by
  rw [crowdingActions, actAll, List.foldlM_cons] at answered
  exact length_actAll_comments answered

end StructuralLint.Model.Builder
