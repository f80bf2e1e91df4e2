import Mathlib.Logic.Relation
import StructuralLint.Model.Builder
import StructuralLint.Proofs.Ingestion

/-!
# What the creation of a node changes

A builder gives the node at each position the position as its id.  A new node is listed by its
parent, and the spans of its parent and of every node above are stretched to its end; nothing else
happens to the nodes before it.  A tree is described by the list of parents: every parent stands
before its children, so the walk up from a position reaches each of its ancestors once.
-/

namespace StructuralLint.Model.Builder

/-! ## Ids and positions -/

/-- The id that is given to the node at a position: ids have 32 bits. -/
def idAt (position : Nat) : NodeId :=
  { index := position.toUInt32 }

theorem toNat_idAt {position : Nat} (small : position < UInt32.size) :
    (idAt position).index.toNat = position := by
  show (UInt32.ofNat position).toNat = position
  rw [UInt32.toNat_ofNat']
  exact Nat.mod_eq_of_lt small

theorem toNat_idAt_le (position : Nat) : (idAt position).index.toNat ≤ position := by
  show (UInt32.ofNat position).toNat ≤ position
  rw [UInt32.toNat_ofNat']
  exact Nat.mod_le position UInt32.size

theorem idAt_inj {first second : Nat}
    (firstSmall : first < UInt32.size)
    (secondSmall : second < UInt32.size)
    (same : idAt first = idAt second) :
    first = second := by
  rw [← toNat_idAt firstSmall, same, toNat_idAt secondSmall]

/-! ## Parents -/

/-- The first position is the parent of the second. -/
def HasParent (parents : List (Option Nat)) (parent child : Nat) : Prop :=
  parents[child]? = some (some parent)

/-- The first position is the second or one of its ancestors. -/
def Encloses (parents : List (Option Nat)) : Nat → Nat → Prop :=
  Relation.ReflTransGen (HasParent parents)

/-- Parents stand before their children. -/
def PointsBack (parents : List (Option Nat)) : Prop :=
  ∀ parent child, HasParent parents parent child → parent < child

section Parents

variable {parents : List (Option Nat)} {parent child : Nat}

theorem HasParent.unique {other : Nat}
    (isParent : HasParent parents parent child)
    (otherIsParent : HasParent parents other child) :
    parent = other := by
  rw [HasParent, isParent] at otherIsParent
  exact Option.some_inj.mp (Option.some_inj.mp otherIsParent)

theorem HasParent.lt_length (isParent : HasParent parents parent child) :
    child < parents.length :=
  (List.getElem?_eq_some_iff.mp isParent).1

theorem join_getElem?_eq_some_iff :
    parents[child]?.join = some parent ↔ HasParent parents parent child :=
  Option.join_eq_some_iff

theorem Encloses.le (back : PointsBack parents) {above below : Nat}
    (encloses : Encloses parents above below) :
    above ≤ below := by
  induction encloses with
  | refl => exact Nat.le_refl above
  | tail _ isParent induction => exact Nat.le_trans induction (Nat.le_of_lt (back _ _ isParent))

/-- What lies around a child is the child or lies around its parent. -/
theorem HasParent.encloses_iff {above : Nat} (isParent : HasParent parents parent child) :
    Encloses parents above child ↔ child = above ∨ Encloses parents above parent := by
  rw [Encloses, Relation.ReflTransGen.cases_tail_iff]
  constructor
  · rintro (same | ⟨other, encloses, otherIsParent⟩)
    · exact Or.inl same
    · rw [isParent.unique otherIsParent]
      exact Or.inr encloses
  · rintro (same | encloses)
    · exact Or.inl same
    · exact Or.inr ⟨parent, encloses, isParent⟩

theorem eq_of_encloses_of_no_parent {above : Nat}
    (encloses : Encloses parents above child)
    (noParent : ∀ parent, ¬ HasParent parents parent child) :
    above = child := by
  rcases (Relation.ReflTransGen.cases_tail_iff _ _ _).mp encloses with same | ⟨parent, _, isParent⟩
  · exact same.symm
  · exact absurd isParent (noParent parent)

/-- Of two children of one parent the first does not enclose the second. -/
theorem HasParent.not_encloses_sibling (back : PointsBack parents) {sibling : Nat}
    (isParent : HasParent parents parent child)
    (siblingParent : HasParent parents parent sibling)
    (less : child < sibling) :
    ¬ Encloses parents child sibling := by
  intro encloses
  rcases siblingParent.encloses_iff.mp encloses with same | around
  · exact Nat.ne_of_gt less same
  · exact Nat.not_le.mpr (back parent child isParent) (around.le back)

/-! ### One more position -/

variable {added : Option Nat}

theorem hasParent_append_iff :
    HasParent (parents ++ [added]) parent child ↔
      HasParent parents parent child ∨ child = parents.length ∧ added = some parent := by
  rw [HasParent, HasParent, List.getElem?_append]
  split
  next within =>
    have notLast : child ≠ parents.length := Nat.ne_of_lt within
    simp [notLast]
  next beyond =>
    have nothing : parents[child]? = none := List.getElem?_eq_none (Nat.not_lt.mp beyond)
    rw [nothing, List.getElem?_singleton]
    by_cases last : child = parents.length
    · simp [last]
    · have further : child - parents.length ≠ 0 := by omega
      simp [last, further]

theorem PointsBack.append (back : PointsBack parents)
    (before : ∀ parent, added = some parent → parent < parents.length) :
    PointsBack (parents ++ [added]) := by
  intro parent child isParent
  rcases hasParent_append_iff.mp isParent with isParent | ⟨rfl, isAdded⟩
  · exact back parent child isParent
  · exact before parent isAdded

/-- Around the old positions nothing changes. -/
theorem encloses_append_iff (back : PointsBack parents) {above below : Nat}
    (old : below < parents.length) :
    Encloses (parents ++ [added]) above below ↔ Encloses parents above below := by
  constructor
  · intro encloses
    induction encloses with
    | refl => exact Relation.ReflTransGen.refl
    | tail _ isParent induction =>
        rcases hasParent_append_iff.mp isParent with isParent | ⟨rfl, _⟩
        · exact (induction (Nat.lt_trans (back _ _ isParent) old)).tail isParent
        · exact absurd old (Nat.lt_irrefl _)
  · intro encloses
    exact Relation.ReflTransGen.mono
      (fun _ _ isParent => hasParent_append_iff.mpr (Or.inl isParent)) _ _ encloses

end Parents

/-! ## Growth -/

theorem start_extendTo (stop : Position) (node : Node) :
    (extendTo stop node).span.start = node.span.start := by
  rw [extendTo]
  split <;> rfl

theorem stop_extendTo (stop : Position) (node : Node) :
    (extendTo stop node).span.stop =
      if node.span.stop.isBefore stop then stop else node.span.stop := by
  rw [extendTo]
  split <;> rfl

theorem extendTo_keeps (stop : Position) (node : Node) :
    (extendTo stop node).id = node.id ∧ (extendTo stop node).kind = node.kind ∧
      (extendTo stop node).comments = node.comments ∧
      (extendTo stop node).children = node.children := by
  rw [extendTo]
  split <;> exact ⟨rfl, rfl, rfl, rfl⟩

open scoped Classical in
/-- A node grows if the walk up passes it, and it is passed at most once. -/
theorem getElem?_growWithin {parents : List (Option Nat)} (back : PointsBack parents)
    (stop : Position) {levels index : Nat} (enough : index < levels)
    {nodes : List Node} {position : Nat} {node : Node}
    (found : nodes[position]? = some node) :
    (growWithin parents stop levels index nodes)[position]? =
      some (if Encloses parents position index then extendTo stop node else node) := by
  induction levels generalizing index nodes node with
  | zero => exact absurd enough (Nat.not_lt_zero index)
  | succ levels induction =>
      have first : (nodes.modify index (extendTo stop))[position]? =
          some (if index = position then extendTo stop node else node) := by
        rw [List.getElem?_modify, found]
        rfl
      rw [growWithin]
      cases hasParent : parents[index]?.join with
      | none =>
          have encloses_iff : Encloses parents position index ↔ index = position := by
            constructor
            · intro encloses
              refine (eq_of_encloses_of_no_parent encloses ?_).symm
              intro parent isParent
              rw [join_getElem?_eq_some_iff.mpr isParent] at hasParent
              cases hasParent
            · rintro rfl
              exact Relation.ReflTransGen.refl
          simp only [first, encloses_iff]
      | some parent =>
          have isParent := join_getElem?_eq_some_iff.mp hasParent
          have less := back parent index isParent
          show (growWithin parents stop levels parent _)[position]? = _
          rw [induction (by omega) first]
          by_cases here : index = position
          · -- The walk goes on below this position and does not come back to it.
            have behind : ¬ Encloses parents position parent := by
              intro encloses
              exact absurd (encloses.le back) (by omega)
            have encloses : Encloses parents position index :=
              isParent.encloses_iff.mpr (Or.inl here)
            rw [if_neg behind, if_pos here, if_pos encloses]
          · have encloses_iff :
                Encloses parents position index ↔ Encloses parents position parent := by
              rw [isParent.encloses_iff]
              exact or_iff_right here
            simp only [if_neg here, encloses_iff]

theorem map_id_growWithin (parents : List (Option Nat)) (stop : Position) (levels index : Nat)
    (nodes : List Node) :
    (growWithin parents stop levels index nodes).map Node.id = nodes.map Node.id := by
  have same (node : Node) : (extendTo stop node).id = node.id := (extendTo_keeps stop node).1
  induction levels generalizing index nodes with
  | zero => rfl
  | succ levels induction =>
      rw [growWithin]
      cases parents[index]?.join with
      | none => exact map_modify_eq same nodes index
      | some parent =>
          show (growWithin parents stop levels parent _).map Node.id = _
          rw [induction, map_modify_eq same]

/-! ## One more node -/

/--
What becomes of an older node when another one is added: the parent of the new node lists it,
and the nodes around it reach up to its end.
-/
structure Kept (isParent isAround : Prop) (added old new : Node) : Prop where
  id : new.id = old.id
  kind : new.kind = old.kind
  comments : new.comments = old.comments
  start : new.span.start = old.span.start
  listed : isParent → new.children = old.children ++ [added.id]
  unlisted : ¬ isParent → new.children = old.children
  still : ¬ isAround → new.span.stop = old.span.stop
  grown : isAround → new.span.stop = old.span.stop ∨ new.span.stop = added.span.stop
  noShorter : old.span.stop ≤ new.span.stop
  reaches : isAround → added.span.stop ≤ new.span.stop

/-- A node is added below a position, or below none. -/
structure Adds (before : Builder) (parent : Option Nat) (node : Node) (after : Builder) : Prop where
  root : after.root = before.root
  parents : after.parents = before.parents ++ [parent]
  length : after.nodes.length = before.nodes.length + 1
  added : after.nodes[before.nodes.length]? = some node
  kept : ∀ position old, before.nodes[position]? = some old →
    ∃ new, after.nodes[position]? = some new ∧
      Kept (parent = some position)
        (∃ index, parent = some index ∧ Encloses before.parents position index) node old new

/-- Parents are given to all nodes, and they stand before their children. -/
structure IsLinked (builder : Builder) : Prop where
  length : builder.parents.length = builder.nodes.length
  back : PointsBack builder.parents

section Allocate

variable {builder : Builder} {kind : NodeKind} {span : Span}

theorem allocate_some {parent : NodeId} (present : parent.index.toNat < builder.nodes.length) :
    builder.allocate kind span (some parent) =
      .ok (idAt builder.nodes.length,
        { builder with
          nodes :=
            growWithin (builder.parents ++ [some parent.index.toNat]) span.stop
              builder.nodes.length parent.index.toNat
              ((builder.nodes ++ [({ id := idAt builder.nodes.length, kind, span } : Node)]).modify
                parent.index.toNat fun node =>
                  { node with children := node.children ++ [idAt builder.nodes.length] })
          parents := builder.parents ++ [some parent.index.toNat] }) := by
  have notBeyond : ¬ builder.nodes.length < parent.index.toNat :=
    Nat.not_lt.mpr (Nat.le_of_lt present)
  have notSelf : ¬ (parent.index.toNat == builder.nodes.length) = true := by
    rw [beq_iff_eq]
    exact Nat.ne_of_lt present
  rw [allocate]
  dsimp only
  rw [if_neg notBeyond, if_neg notSelf]
  rfl

theorem adds_none (builder : Builder) (node : Node) :
    Adds builder none node
      { builder with nodes := builder.nodes ++ [node], parents := builder.parents ++ [none] } where
  root := rfl
  parents := rfl
  length := List.length_append
  added := List.getElem?_concat_length
  kept := by
    intro position old found
    have within := (List.getElem?_eq_some_iff.mp found).1
    refine ⟨old, (List.getElem?_append_left within).trans found, rfl, rfl, rfl, rfl, ?_, ?_, ?_, ?_,
      Position.le_refl _, ?_⟩
    · intro isParent
      cases isParent
    · intro _
      rfl
    · intro _
      rfl
    · rintro ⟨index, isParent, _⟩
      cases isParent
    · rintro ⟨index, isParent, _⟩
      cases isParent

theorem kept_extendTo {isParent isAround : Prop} {added old : Node} {children : List NodeId}
    (around : isAround)
    (listed : isParent → children = old.children ++ [added.id])
    (unlisted : ¬ isParent → children = old.children) :
    Kept isParent isAround added old (extendTo added.span.stop { old with children }) := by
  rcases extendTo_keeps added.span.stop { old with children } with ⟨id, kind, comments, same⟩
  have stop := stop_extendTo added.span.stop { old with children }
  refine ⟨id, kind, comments, start_extendTo _ _, ?_, ?_, ?_, ?_, ?_, ?_⟩
  · rw [same]
    exact listed
  · rw [same]
    exact unlisted
  · intro notAround
    exact absurd around notAround
  · intro _
    rw [stop]
    split
    · exact Or.inr rfl
    · exact Or.inl rfl
  · rw [stop]
    split
    next before => exact Position.le_of_isBefore before
    next => exact Position.le_refl _
  · intro _
    rw [stop]
    split
    next => exact Position.le_refl _
    next notBefore =>
      exact (Position.isBefore_eq_false_iff _ _).mp (Bool.eq_false_iff.mpr notBefore)

/-- An older node after another one was added below a position. -/
theorem exists_kept (linked : builder.IsLinked) {index : Nat}
    (present : index < builder.nodes.length) (node : Node) {position : Nat} {old : Node}
    (found : builder.nodes[position]? = some old) :
    ∃ new,
      (growWithin (builder.parents ++ [some index]) node.span.stop builder.nodes.length index
        ((builder.nodes ++ [node]).modify index fun parent =>
          { parent with children := parent.children ++ [node.id] }))[position]? = some new ∧
        Kept (some index = some position)
          (∃ parent, some index = some parent ∧ Encloses builder.parents position parent)
          node old new := by
  have before : index < builder.parents.length := by
    rw [linked.length]
    exact present
  have back : PointsBack (builder.parents ++ [some index]) := by
    apply linked.back.append
    rintro _ ⟨⟩
    exact before
  have within := (List.getElem?_eq_some_iff.mp found).1
  let children := if index = position then old.children ++ [node.id] else old.children
  have listed : ((builder.nodes ++ [node]).modify index fun parent =>
      { parent with children := parent.children ++ [node.id] })[position]? =
        some { old with children } := by
    rw [List.getElem?_modify, List.getElem?_append_left within, found, Option.map_eq_map,
      Option.map_some]
    dsimp only [children]
    split <;> rfl
  have isListed : some index = some position → children = old.children ++ [node.id] := by
    rintro ⟨⟩
    exact if_pos rfl
  have isUnlisted : ¬ some index = some position → children = old.children := by
    intro notParent
    exact if_neg fun same => notParent (congrArg some same)
  refine ⟨_, getElem?_growWithin back _ present listed, ?_⟩
  rw [encloses_append_iff linked.back before]
  split
  next around => exact kept_extendTo ⟨index, rfl, around⟩ isListed isUnlisted
  next notAround =>
    refine ⟨rfl, rfl, rfl, rfl, isListed, isUnlisted, fun _ => rfl, ?_, Position.le_refl _, ?_⟩
    · rintro ⟨_, ⟨⟩, around⟩
      exact absurd around notAround
    · rintro ⟨_, ⟨⟩, around⟩
      exact absurd around notAround

theorem adds_some (linked : builder.IsLinked) {index : Nat}
    (present : index < builder.nodes.length) (node : Node) :
    Adds builder (some index) node
      { builder with
        nodes :=
          growWithin (builder.parents ++ [some index]) node.span.stop builder.nodes.length index
            ((builder.nodes ++ [node]).modify index fun parent =>
              { parent with children := parent.children ++ [node.id] })
        parents := builder.parents ++ [some index] } := by
  have before : index < builder.parents.length := by
    rw [linked.length]
    exact present
  have back : PointsBack (builder.parents ++ [some index]) := by
    apply linked.back.append
    rintro _ ⟨⟩
    exact before
  refine ⟨rfl, rfl, ?_, ?_, ?_⟩
  · show (growWithin _ _ _ _ _).length = _
    rw [← List.length_map Node.id, map_id_growWithin, List.length_map, List.length_modify,
      List.length_append]
    rfl
  · have notAround : ¬ Encloses (builder.parents ++ [some index]) builder.nodes.length index := by
      intro encloses
      exact absurd (encloses.le back) (Nat.not_le.mpr present)
    have listed : ((builder.nodes ++ [node]).modify index fun parent =>
        { parent with children := parent.children ++ [node.id] })[builder.nodes.length]? =
          some node := by
      rw [List.getElem?_modify, List.getElem?_concat_length, Option.map_eq_map, Option.map_some,
        if_neg (Nat.ne_of_lt present)]
    exact (getElem?_growWithin back _ present listed).trans (by rw [if_neg notAround])
  · intro position old found
    exact exists_kept linked present node found

/-- Below a node that exists a node is always added; the counters are not touched. -/
theorem exists_allocate_some (linked : builder.IsLinked) {parent : NodeId}
    (present : parent.index.toNat < builder.nodes.length) (kind : NodeKind) (span : Span) :
    ∃ added,
      builder.allocate kind span (some parent) = .ok (idAt builder.nodes.length, added) ∧
        Adds builder (some parent.index.toNat) { id := idAt builder.nodes.length, kind, span }
          added ∧
          added.line = builder.line ∧ added.column = builder.column ∧
            added.pendingComments = builder.pendingComments :=
  ⟨_, allocate_some present, adds_some linked present _, rfl, rfl, rfl⟩

end Allocate

namespace Adds

variable {before after : Builder} {parent : Option Nat} {node : Node}
  (adds : Adds before parent node after)

include adds

/-- Every node is new or was there before. -/
theorem eq_or_kept {position : Nat} {new : Node} (found : after.nodes[position]? = some new) :
    position = before.nodes.length ∧ new = node ∨
      ∃ old, before.nodes[position]? = some old ∧
        Kept (parent = some position)
          (∃ index, parent = some index ∧ Encloses before.parents position index) node old new := by
  have within := (List.getElem?_eq_some_iff.mp found).1
  rw [adds.length] at within
  rcases Nat.lt_succ_iff_lt_or_eq.mp within with older | rfl
  · rcases adds.kept position _ (List.getElem?_eq_getElem older) with ⟨kept, found', isKept⟩
    rw [found, Option.some_inj] at found'
    rw [found']
    exact Or.inr ⟨_, List.getElem?_eq_getElem older, isKept⟩
  · rw [adds.added, Option.some_inj] at found
    exact Or.inl ⟨rfl, found.symm⟩

/-- What is read only from facts that older nodes keep is read once more. -/
theorem map_eq {α : Type} {f : Node → α}
    (same : ∀ {isParent isAround : Prop} {old new : Node},
      Kept isParent isAround node old new → f new = f old) :
    after.nodes.map f = before.nodes.map f ++ [f node] := by
  apply List.ext_getElem?
  intro position
  rw [List.getElem?_map]
  cases found : after.nodes[position]? with
  | none =>
      have beyond := List.getElem?_eq_none_iff.mp found
      rw [adds.length] at beyond
      refine (List.getElem?_eq_none ?_).symm
      rw [List.length_append, List.length_map]
      exact beyond
  | some new =>
      rcases adds.eq_or_kept found with ⟨rfl, rfl⟩ | ⟨old, wasFound, kept⟩
      · have atEnd : (before.nodes.map f ++ [f new])[(before.nodes.map f).length]? = some (f new) :=
          List.getElem?_concat_length
        rw [List.length_map] at atEnd
        exact atEnd.symm
      · have within := (List.getElem?_eq_some_iff.mp wasFound).1
        rw [List.getElem?_append_left (by rwa [List.length_map]), List.getElem?_map, wasFound,
          Option.map_some, Option.map_some, same kept]

/-- The new node may be changed where nothing else depends on it. -/
theorem modify (change : Node → Node)
    (small : before.nodes.length < UInt32.size)
    (sameId : (change node).id = node.id)
    (sameSpan : (change node).span = node.span) :
    Adds before parent (change node) (after.modify (idAt before.nodes.length) change) := by
  refine ⟨adds.root, adds.parents, ?_, ?_, ?_⟩
  · exact (List.length_modify _ _ _).trans adds.length
  · show (after.nodes.modify _ change)[before.nodes.length]? = _
    rw [List.getElem?_modify, adds.added, toNat_idAt small]
    show some (if before.nodes.length = before.nodes.length then change node else node) = _
    rw [if_pos rfl]
  · intro position old found
    have within := (List.getElem?_eq_some_iff.mp found).1
    rcases adds.kept position old found with ⟨new, isNew, kept⟩
    refine ⟨new, ?_, ?_⟩
    · show (after.nodes.modify _ change)[position]? = _
      rw [List.getElem?_modify, isNew, toNat_idAt small]
      show some (if before.nodes.length = position then change new else new) = _
      rw [if_neg (Nat.ne_of_gt within)]
    · refine ⟨kept.id, kept.kind, kept.comments, kept.start, ?_, kept.unlisted, kept.still, ?_,
        kept.noShorter, ?_⟩
      · rw [sameId]
        exact kept.listed
      · rw [sameSpan]
        exact kept.grown
      · rw [sameSpan]
        exact kept.reaches

end Adds

end StructuralLint.Model.Builder
