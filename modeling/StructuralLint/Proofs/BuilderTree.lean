import StructuralLint.Proofs.BuilderCalls

/-!
# The tree that a builder grows

The list of parents and the lists of children describe one tree, and every subtree of it is a
stretch of the nodes, comments apart: between a node and what it encloses lies nothing else.  A new
node keeps this because its parent is open.
-/

namespace StructuralLint.Model.Builder

open Relation

/-! ## Numbers -/

theorem IsNumbered.id_eq {builder : Builder} (numbered : builder.IsNumbered) {position : Nat}
    {node : Node} (found : builder.nodes[position]? = some node) :
    node.id = idAt position := by
  have within := (List.getElem?_eq_some_iff.mp found).1
  have isId : (builder.nodes.map Node.id)[position]? = some node.id := by
    rw [List.getElem?_map, found]
    rfl
  rw [numbered, List.getElem?_map, List.getElem?_range within, Option.map_some,
    Option.some_inj] at isId
  exact isId.symm

theorem IsNumbered.nodup_ids {builder : Builder} (numbered : builder.IsNumbered)
    (small : builder.nodes.length ≤ UInt32.size) :
    (builder.nodes.map Node.id).Nodup := by
  rw [numbered]
  refine List.Nodup.map_on ?_ List.nodup_range
  intro first firstMember second secondMember same
  have firstLess := List.mem_range.mp firstMember
  have secondLess := List.mem_range.mp secondMember
  exact idAt_inj (by omega) (by omega) same

/-- More nodes than there are ids do not have different ids. -/
theorem IsNumbered.le_of_nodup_ids {builder : Builder} (numbered : builder.IsNumbered)
    (distinct : (builder.nodes.map Node.id).Nodup) :
    builder.nodes.length ≤ UInt32.size := by
  by_contra tooMany
  rw [numbered] at distinct
  have first : (0 : Nat) ∈ List.range builder.nodes.length := List.mem_range.mpr (by omega)
  have again : UInt32.size ∈ List.range builder.nodes.length := List.mem_range.mpr (by omega)
  exact absurd (List.inj_on_of_nodup_map distinct first again rfl) (by decide)

/-! ## The tree -/

/-- There is a node but a comment at a position. -/
def InTree (builder : Builder) (position : Nat) : Prop :=
  ∃ node, builder.nodes[position]? = some node ∧ node.kind ≠ .comment

theorem InTree.lt_length {builder : Builder} {position : Nat} (inTree : builder.InTree position) :
    position < builder.nodes.length := by
  rcases inTree with ⟨node, found, _⟩
  exact (List.getElem?_eq_some_iff.mp found).1

/-- The nodes form a tree below the module, in which each subtree is a stretch of the nodes. -/
structure HasTree (builder : Builder) : Prop where
  rootIsModule : ∃ node, builder.nodes[0]? = some node ∧ node.kind = .module
  /-- Only the module and comments have no parent. -/
  loose : ∀ position node, builder.nodes[position]? = some node →
    (builder.parents[position]? = some none ↔ position = 0 ∨ node.kind = .comment)
  parentsInTree : ∀ parent child, HasParent builder.parents parent child → builder.InTree parent
  listed : ∀ position node, builder.nodes[position]? = some node → ∀ id,
    id ∈ node.children ↔ ∃ child, HasParent builder.parents position child ∧ id = idAt child
  ascending : ∀ node ∈ builder.nodes,
    node.children.Pairwise fun first second => first.index.toNat < second.index.toNat
  nested : ∀ above between below,
    builder.InTree between → above ≤ between → between ≤ below →
      Encloses builder.parents above below → Encloses builder.parents above between

section Reachable

variable {builder : Builder} (linked : builder.IsLinked) (numbered : builder.IsNumbered)
  (tree : builder.HasTree)

include numbered tree in
theorem exists_hasParent_of_listsChild {parent child : NodeId}
    (listed : ListsChild builder.nodes parent child) :
    ∃ parentAt childAt,
      parent = idAt parentAt ∧ child = idAt childAt ∧
        HasParent builder.parents parentAt childAt := by
  rcases listed with ⟨node, member, rfl, isChild⟩
  rcases List.getElem?_of_mem member with ⟨position, found⟩
  rcases (tree.listed position node found child).mp isChild with ⟨childAt, isParent, isId⟩
  exact ⟨position, childAt, numbered.id_eq found, isId, isParent⟩

include numbered tree in
theorem listsChild_of_hasParent {parent child : Nat}
    (isParent : HasParent builder.parents parent child) :
    ListsChild builder.nodes (idAt parent) (idAt child) := by
  rcases tree.parentsInTree parent child isParent with ⟨node, found, _⟩
  refine ⟨node, List.mem_of_getElem? found, numbered.id_eq found, ?_⟩
  exact (tree.listed parent node found _).mpr ⟨child, isParent, rfl⟩

include linked numbered tree in
/-- What leads to a node is the id of a position around it. -/
theorem exists_encloses_of_reachable (small : builder.nodes.length ≤ UInt32.size) {top : NodeId}
    {bottom : Nat} (present : bottom < builder.nodes.length)
    (reachable : Reachable builder.nodes top (idAt bottom)) :
    ∃ above, top = idAt above ∧ Encloses builder.parents above bottom := by
  generalize isId : idAt bottom = id at reachable
  induction reachable generalizing bottom with
  | refl => exact ⟨bottom, isId.symm, ReflTransGen.refl⟩
  | tail _ listed induction =>
      rcases exists_hasParent_of_listsChild numbered tree listed with
        ⟨parent, child, rfl, isChild, isParent⟩
      have childPresent := isParent.lt_length
      rw [linked.length] at childPresent
      have same : bottom = child := idAt_inj (by omega) (by omega) (isId.trans isChild)
      have less := linked.back parent child isParent
      rcases induction (by omega) rfl with ⟨above, isTop, encloses⟩
      rw [same]
      exact ⟨above, isTop, encloses.tail isParent⟩

include linked numbered tree in
/-- An open node is or encloses the last position of the tree. -/
theorem IsOpen.exists_last (small : builder.nodes.length ≤ UInt32.size) {id : NodeId}
    (isOpen : builder.IsOpen id) :
    ∃ last, builder.InTree last ∧ (∀ position, builder.InTree position → position ≤ last) ∧
      Encloses builder.parents id.index.toNat last := by
  rcases isOpen with ⟨latest, ⟨front, comments, nodes, notComment, areComments⟩, reachable⟩
  have found : builder.nodes[front.length]? = some latest := by
    rw [nodes, List.getElem?_append_right (Nat.le_refl _), Nat.sub_self]
    rfl
  have present := (List.getElem?_eq_some_iff.mp found).1
  rw [numbered.id_eq found] at reachable
  rcases exists_encloses_of_reachable linked numbered tree small present reachable with
    ⟨above, rfl, encloses⟩
  refine ⟨front.length, ⟨latest, found, notComment⟩, ?_, ?_⟩
  · rintro position ⟨node, isNode, isInTree⟩
    by_contra behind
    have isLate : (latest :: comments)[position - front.length]? = some node := by
      rw [← isNode, nodes, List.getElem?_append_right (by omega)]
    rw [List.getElem?_cons, if_neg (by omega)] at isLate
    exact isInTree (areComments node (List.mem_of_getElem? isLate))
  · have atMost := encloses.le linked.back
    rw [toNat_idAt (by omega)]
    exact encloses

end Reachable

/-! ## One more node -/

/--
How a placed node hangs in the tree: a comment hangs nowhere, and every other node hangs from a
position that is or encloses the last position of the tree.
-/
structure Hangs (before : Builder) (parent : Option Nat) (node : Node) : Prop where
  loose : parent = none ↔ node.kind = .comment
  below : ∀ index, parent = some index →
    before.InTree index ∧
      ∃ last, before.InTree last ∧ (∀ position, before.InTree position → position ≤ last) ∧
        Encloses before.parents index last

/-- What is or encloses something in the tree is in the tree. -/
theorem HasTree.inTree_of_encloses {builder : Builder} (tree : builder.HasTree)
    {above below : Nat} (encloses : Encloses builder.parents above below)
    (inTree : builder.InTree below) :
    builder.InTree above := by
  rcases ReflTransGen.cases_head encloses with rfl | ⟨child, isParent, _⟩
  · exact inTree
  · exact tree.parentsInTree above child isParent

/-- Where a node is placed. -/
theorem Places.exists_hangs {before after : Builder} {node : Node}
    (places : Places before node after)
    (linked : before.IsLinked)
    (numbered : before.IsNumbered)
    (tree : before.HasTree)
    (small : before.nodes.length ≤ UInt32.size) :
    ∃ parent, Hangs before parent node ∧ Adds before parent node after := by
  by_cases isComment : node.kind = .comment
  · refine ⟨none, ⟨⟨fun _ => isComment, fun _ => rfl⟩, ?_⟩, (places.comment isComment).adds⟩
    intro index isParent
    cases isParent
  · rcases (places.inTree isComment).below with ⟨parent, isOpen, adds⟩
    rcases isOpen.exists_last linked numbered tree small with ⟨last, inTree, isLast, encloses⟩
    refine ⟨some parent.index.toNat, ⟨⟨?_, fun same => absurd same isComment⟩, ?_⟩, adds⟩
    · intro isNone
      cases isNone
    · rintro _ ⟨⟩
      exact ⟨tree.inTree_of_encloses encloses inTree, last, inTree, isLast, encloses⟩

section Adds

variable {before after : Builder} {parent : Option Nat} {node : Node}
  (adds : Adds before parent node after)

include adds

theorem Adds.inTree_iff (position : Nat) :
    after.InTree position ↔
      before.InTree position ∨ position = before.nodes.length ∧ node.kind ≠ .comment := by
  constructor
  · rintro ⟨new, found, notComment⟩
    rcases adds.eq_or_kept found with ⟨atEnd, rfl⟩ | ⟨old, wasFound, kept⟩
    · exact Or.inr ⟨atEnd, notComment⟩
    · rw [kept.kind] at notComment
      exact Or.inl ⟨old, wasFound, notComment⟩
  · rintro (⟨old, found, notComment⟩ | ⟨rfl, notComment⟩)
    · rcases adds.kept position old found with ⟨new, isNew, kept⟩
      rw [← kept.kind] at notComment
      exact ⟨new, isNew, notComment⟩
    · exact ⟨node, adds.added, notComment⟩

theorem Adds.hasParent_iff (linked : before.IsLinked) {above below : Nat} :
    HasParent after.parents above below ↔
      HasParent before.parents above below ∨
        below = before.nodes.length ∧ parent = some above := by
  rw [adds.parents, hasParent_append_iff, linked.length]

theorem Adds.encloses_iff (linked : before.IsLinked) {above below : Nat}
    (older : below < before.nodes.length) :
    Encloses after.parents above below ↔ Encloses before.parents above below := by
  rw [adds.parents]
  rw [← linked.length] at older
  exact encloses_append_iff linked.back older

end Adds

section Grows

variable {before after : Builder} {parent : Option Nat} {node : Node}
  (tree : before.HasTree)
  (linked : before.IsLinked)
  (adds : Adds before parent node after)
  (hangs : Hangs before parent node)

theorem lt_length_of_hasParent (linked : before.IsLinked) {above below : Nat}
    (isParent : HasParent before.parents above below) :
    below < before.nodes.length := by
  rw [← linked.length]
  exact isParent.lt_length

include tree linked adds hangs in
/-- The new node is listed by its parent and lists nothing. -/
theorem HasTree.mem_children_iff
    (isNew : node.id = idAt before.nodes.length)
    (childless : node.children = [])
    {position : Nat} {new : Node} (found : after.nodes[position]? = some new) (id : NodeId) :
    id ∈ new.children ↔ ∃ child, HasParent after.parents position child ∧ id = idAt child := by
  simp only [adds.hasParent_iff linked]
  rcases adds.eq_or_kept found with ⟨rfl, rfl⟩ | ⟨old, wasFound, kept⟩
  · rw [childless]
    constructor
    · intro member
      cases member
    · rintro ⟨child, isParent | ⟨_, isAdded⟩, _⟩
      · have less := linked.back _ _ isParent
        exact absurd (lt_length_of_hasParent linked isParent) (Nat.lt_asymm less)
      · exact absurd (hangs.below _ isAdded).1.lt_length (Nat.lt_irrefl _)
  · have wasListed := tree.listed position old wasFound id
    by_cases isParent : parent = some position
    · rw [kept.listed isParent, List.mem_append, List.mem_singleton, wasListed, isNew]
      constructor
      · rintro (⟨child, isParent, isId⟩ | isId)
        · exact ⟨child, Or.inl isParent, isId⟩
        · exact ⟨_, Or.inr ⟨rfl, isParent⟩, isId⟩
      · rintro ⟨child, isParent | ⟨rfl, _⟩, isId⟩
        · exact Or.inl ⟨child, isParent, isId⟩
        · exact Or.inr isId
    · rw [kept.unlisted isParent, wasListed]
      constructor
      · rintro ⟨child, isParent, isId⟩
        exact ⟨child, Or.inl isParent, isId⟩
      · rintro ⟨child, wasParent | ⟨_, isAdded⟩, isId⟩
        · exact ⟨child, wasParent, isId⟩
        · exact absurd isAdded isParent

include tree linked adds hangs in
/-- Subtrees are stretches of the nodes also with the new node, as its parent is open. -/
theorem HasTree.encloses_between {above between below : Nat}
    (inTree : after.InTree between)
    (fromAbove : above ≤ between)
    (toBelow : between ≤ below)
    (encloses : Encloses after.parents above below) :
    Encloses after.parents above between := by
  rcases ReflTransGen.cases_tail encloses with rfl | ⟨last, around, isParent⟩
  · rw [Nat.le_antisymm fromAbove toBelow]
    exact ReflTransGen.refl
  rcases (adds.hasParent_iff linked).mp isParent with wasParent | ⟨rfl, isAdded⟩
  · have older := lt_length_of_hasParent linked wasParent
    have within := Nat.lt_of_le_of_lt toBelow older
    have wasInTree : before.InTree between := by
      refine ((adds.inTree_iff between).mp inTree).resolve_right ?_
      rintro ⟨atEnd, _⟩
      exact Nat.ne_of_lt within atEnd
    rw [adds.encloses_iff linked older] at encloses
    rw [adds.encloses_iff linked within]
    exact tree.nested above between below wasInTree fromAbove toBelow encloses
  · rcases (adds.inTree_iff between).mp inTree with wasInTree | ⟨rfl, _⟩
    · -- Nothing in the tree stands behind the last position, which the new parent encloses.
      rcases hangs.below last isAdded with ⟨parentInTree, latest, _, isLatest, further⟩
      have wasAround := (adds.encloses_iff linked parentInTree.lt_length).mp around
      rw [adds.encloses_iff linked wasInTree.lt_length]
      exact tree.nested above between latest wasInTree fromAbove (isLatest between wasInTree)
        (wasAround.trans further)
    · exact encloses

include tree linked adds hangs in
/-- The tree grows in order. -/
theorem HasTree.grows
    (small : before.nodes.length < UInt32.size)
    (isNew : node.id = idAt before.nodes.length)
    (childless : node.children = []) :
    after.HasTree := by
  rcases tree.rootIsModule with ⟨rootNode, rootFound, rootKind⟩
  have nonempty := (List.getElem?_eq_some_iff.mp rootFound).1
  constructor
  case rootIsModule =>
    rcases adds.kept 0 rootNode rootFound with ⟨new, found, kept⟩
    exact ⟨new, found, kept.kind.trans rootKind⟩
  case loose =>
    intro position new found
    rw [adds.parents]
    rcases adds.eq_or_kept found with ⟨rfl, rfl⟩ | ⟨old, wasFound, kept⟩
    · rw [← linked.length, List.getElem?_concat_length, Option.some_inj, hangs.loose, linked.length]
      exact (or_iff_right (Nat.ne_of_gt nonempty)).symm
    · have within := (List.getElem?_eq_some_iff.mp wasFound).1
      rw [← linked.length] at within
      rw [List.getElem?_append_left within, kept.kind]
      exact tree.loose position old wasFound
  case parentsInTree =>
    intro above below isParent
    rw [adds.inTree_iff]
    rcases (adds.hasParent_iff linked).mp isParent with isParent | ⟨_, isAdded⟩
    · exact Or.inl (tree.parentsInTree above below isParent)
    · exact Or.inl (hangs.below above isAdded).1
  case listed =>
    intro position new found id
    exact tree.mem_children_iff linked adds hangs isNew childless found id
  case ascending =>
    intro new member
    rcases List.getElem?_of_mem member with ⟨position, found⟩
    rcases adds.eq_or_kept found with ⟨rfl, rfl⟩ | ⟨old, wasFound, kept⟩
    · rw [childless]
      exact List.Pairwise.nil
    · have ascending := tree.ascending old (List.mem_of_getElem? wasFound)
      by_cases isParent : parent = some position
      · rw [kept.listed isParent, List.pairwise_append]
        refine ⟨ascending, List.pairwise_singleton _ _, ?_⟩
        intro first firstListed last lastListed
        rcases (tree.listed position old wasFound first).mp firstListed with ⟨child, isChild, rfl⟩
        have older := lt_length_of_hasParent linked isChild
        rw [List.mem_singleton.mp lastListed, isNew, toNat_idAt small, toNat_idAt (by omega)]
        exact older
      · rw [kept.unlisted isParent]
        exact ascending
  case nested =>
    intro above between below inTree fromAbove toBelow encloses
    exact tree.encloses_between linked adds hangs inTree fromAbove toBelow encloses

end Grows

end StructuralLint.Model.Builder
