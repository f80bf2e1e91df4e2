import Mathlib.Combinatorics.SimpleGraph.Connectivity.Connected
import Mathlib.Data.List.Sort
import StructuralLint.Duplication.Cluster
import StructuralLint.Proofs.Forests

/-!
# Groups of similar candidates

Two candidates are linked when their tokens differ and enough of their pairs are common.  The links
make a graph on the positions of a list of candidates, and the groups of similar candidates are its
connected components.

Pairs of positions are looked at one after another, and the groups of linked ones are joined in a
forest.  The forest never joins what no chain of links connects, and once a pair was looked at its
link is kept.  After all pairs the roots of the forest tell the components apart.  Since a root is
the smallest position of its group, groups in the order of their roots are in the order of their
first members.
-/

namespace StructuralLint.Duplication

/-! ## The graph of links -/

/-- The share of common members of two sets does not depend on their order. -/
theorem jaccard_comm {left right : List UInt64} (leftSet : left.Nodup) (rightSet : right.Nodup) :
    jaccard left right = jaccard right left := by
  have sameCommon : left.countP right.contains = right.countP left.contains := by
    rw [List.countP_eq_length_filter, List.countP_eq_length_filter]
    apply List.Perm.length_eq
    rw [List.perm_ext_iff_of_nodup (leftSet.filter _) (rightSet.filter _)]
    intro digest
    simp [and_comm]
  rw [jaccard, jaccard, sameCommon, Bool.and_comm, Nat.add_comm]

/--
The graph on the positions of candidates in which those with different tokens and enough common
pairs are linked.
-/
def linkGraph (threshold : Float) (members : List Candidate) :
    SimpleGraph (Fin members.length) :=
  SimpleGraph.fromRel fun first second =>
    first < second ∧ members[first].exact ≠ members[second].exact ∧
      jaccard members[first].bigrams members[second].bigrams ≥ threshold

section Links

variable {threshold : Float} {members : List Candidate} {first second : Fin members.length}

theorem linkGraph_adj_of_lt (before : first < second) :
    (linkGraph threshold members).Adj first second ↔
      members[first].exact ≠ members[second].exact ∧
        jaccard members[first].bigrams members[second].bigrams ≥ threshold := by
  simp [linkGraph, before, before.ne, before.not_gt]

/-- The pairs of tokens are sets, so a link does not depend on the order of its ends. -/
theorem linkGraph_adj_iff
    (areSets : ∀ member ∈ members, member.bigrams.Nodup) :
    (linkGraph threshold members).Adj first second ↔
      members[first].exact ≠ members[second].exact ∧
        jaccard members[first].bigrams members[second].bigrams ≥ threshold := by
  rcases lt_trichotomy first second with before | rfl | after
  · exact linkGraph_adj_of_lt before
  · simp
  · have isSet (position : Fin members.length) : members[position].bigrams.Nodup :=
      areSets _ (List.getElem_mem position.isLt)
    rw [SimpleGraph.adj_comm, linkGraph_adj_of_lt after, ne_comm,
      jaccard_comm (isSet second) (isSet first)]

theorem areLinkedAt_iff_adj (before : first < second) :
    areLinkedAt threshold members first second = true ↔
      (linkGraph threshold members).Adj first second := by
  rw [linkGraph_adj_of_lt before]
  simp [areLinkedAt, areLinked]

end Links

/-! ## Joining what is linked -/

theorem mem_positionPairs_iff {count left right : Nat} :
    (left, right) ∈ positionPairs count ↔ left < right ∧ right < count := by
  simp only [positionPairs, List.mem_flatMap, List.mem_map, List.mem_filter, List.mem_range,
    decide_eq_true_eq, Prod.mk.injEq]
  constructor
  · rintro ⟨_, _, _, ⟨bound, before⟩, rfl, rfl⟩
    exact ⟨before, bound⟩
  · rintro ⟨before, bound⟩
    exact ⟨left, Nat.lt_trans before bound, right, ⟨bound, before⟩, rfl, rfl⟩

/--
A forest joins positions of a graph: all that the graph links among some pairs, and nothing that
the graph does not connect.
-/
structure Joins {count : Nat} (graph : SimpleGraph (Fin count)) (pairs : List (Nat × Nat))
    (forest : Forest) : Prop where
  size_eq : forest.parents.size = count
  connected :
    ∀ first second : Fin count,
      forest.root first = forest.root second → graph.Reachable first second
  joined :
    ∀ first second : Fin count,
      (first.val, second.val) ∈ pairs → graph.Adj first second →
        forest.root first = forest.root second

section Joins

variable {count : Nat} {graph : SimpleGraph (Fin count)} {pairs : List (Nat × Nat)}
  {forest : Forest}

theorem joins_discrete (graph : SimpleGraph (Fin count)) :
    Joins graph [] (Forest.discrete count) where
  size_eq := Array.size_range
  connected first second sameRoot := by
    rw [Forest.root_discrete, Forest.root_discrete] at sameRoot
    rw [Fin.ext sameRoot]
  joined _ _ listed := by cases listed

/-- A pair that is not linked leaves the forest as it is. -/
theorem Joins.pass (joins : Joins graph pairs forest) {left right : Fin count}
    (notLinked : ¬ graph.Adj left right) :
    Joins graph ((left.val, right.val) :: pairs) forest where
  size_eq := joins.size_eq
  connected := joins.connected
  joined first second listed adjacent := by
    rcases List.mem_cons.mp listed with isPair | earlier
    · simp only [Prod.mk.injEq, Fin.val_inj] at isPair
      rw [isPair.1, isPair.2] at adjacent
      exact absurd adjacent notLinked
    · exact joins.joined first second earlier adjacent

/-- The groups of a linked pair are joined. -/
theorem Joins.join (joins : Joins graph pairs forest) {left right : Fin count}
    (linked : graph.Adj left right) :
    Joins graph ((left.val, right.val) :: pairs) (forest.join left right) := by
  have bound (position : Fin count) : position.val < forest.parents.size := by
    rw [joins.size_eq]
    exact position.isLt
  have sameRoot_iff (first second : Fin count) :=
    forest.root_join_eq_iff (bound left) (bound right) first second
  refine ⟨by rw [Forest.size_join, joins.size_eq], ?_, ?_⟩
  · intro first second sameRoot
    rcases (sameRoot_iff first second).mp sameRoot with
      same | ⟨firstLeft, secondRight⟩ | ⟨firstRight, secondLeft⟩
    · exact joins.connected first second same
    · exact ((joins.connected first left firstLeft).trans linked.reachable).trans
        (joins.connected second right secondRight).symm
    · exact ((joins.connected first right firstRight).trans linked.symm.reachable).trans
        (joins.connected second left secondLeft).symm
  · intro first second listed adjacent
    rw [sameRoot_iff]
    rcases List.mem_cons.mp listed with isPair | earlier
    · simp only [Prod.mk.injEq, Fin.val_inj] at isPair
      rw [isPair.1, isPair.2]
      exact Or.inr (Or.inl ⟨rfl, rfl⟩)
    · exact Or.inl (joins.joined first second earlier adjacent)

/-- Once all links are among the pairs, the groups of the forest are the components of the graph. -/
theorem Joins.root_eq_root_iff (joins : Joins graph pairs forest)
    (allListed :
      ∀ first second : Fin count, first < second → (first.val, second.val) ∈ pairs)
    (first second : Fin count) :
    forest.root first = forest.root second ↔ graph.Reachable first second := by
  refine ⟨joins.connected first second, ?_⟩
  intro reachable
  rw [SimpleGraph.reachable_iff_reflTransGen] at reachable
  induction reachable with
  | refl => rfl
  | @tail middle last _ linked induction =>
      rw [induction]
      rcases lt_or_gt_of_ne linked.ne with before | after
      · exact joins.joined middle last (allListed middle last before) linked
      · exact (joins.joined last middle (allListed last middle after) linked.symm).symm

end Joins

section LinkedForest

variable {threshold : Float} {members : List Candidate}

/-- Looking at pairs joins what is linked among them. -/
theorem Joins.foldl {listed : List (Nat × Nat)} {forest : Forest}
    (joins : Joins (linkGraph threshold members) listed forest)
    {pairs : List (Nat × Nat)}
    (ordered : ∀ pair ∈ pairs, pair.1 < pair.2 ∧ pair.2 < members.length) :
    Joins (linkGraph threshold members) (pairs.reverse ++ listed)
      (pairs.foldl
        (fun forest (left, right) =>
          if areLinkedAt threshold members left right then forest.join left right else forest)
        forest) := by
  induction pairs generalizing listed forest with
  | nil => exact joins
  | cons pair rest induction =>
      rcases pair with ⟨left, right⟩
      rw [List.forall_mem_cons] at ordered
      rcases ordered with ⟨⟨before, bound⟩, restOrdered⟩
      let first : Fin members.length := ⟨left, Nat.lt_trans before bound⟩
      let second : Fin members.length := ⟨right, bound⟩
      have linked_iff : areLinkedAt threshold members left right = true ↔
          (linkGraph threshold members).Adj first second :=
        areLinkedAt_iff_adj (show first < second from before)
      have next : Joins (linkGraph threshold members) ((left, right) :: listed)
          (if areLinkedAt threshold members left right then forest.join left right
            else forest) := by
        split
        next linked => exact joins.join (linked_iff.mp linked)
        next notLinked => exact joins.pass fun adjacent => notLinked (linked_iff.mpr adjacent)
      rw [List.reverse_cons, List.append_assoc]
      exact induction next restOrdered

/-- In the forest of all links the roots tell the components apart. -/
theorem root_linkedForest_eq_iff (first second : Fin members.length) :
    (linkedForest threshold members).root first = (linkedForest threshold members).root second ↔
      (linkGraph threshold members).Reachable first second := by
  have joins : Joins (linkGraph threshold members) ((positionPairs members.length).reverse ++ [])
      (linkedForest threshold members) :=
    (joins_discrete _).foldl fun _ listed => mem_positionPairs_iff.mp listed
  apply joins.root_eq_root_iff
  intro first second before
  rw [List.append_nil, List.mem_reverse, mem_positionPairs_iff]
  exact ⟨before, second.isLt⟩

end LinkedForest

/-! ## Groups -/

/-- The positions whose root is a given one. -/
def Forest.positionsOf (forest : Forest) (count root : Nat) : List (Fin count) :=
  (List.finRange count).filter fun position => forest.root position == root

/-- The groups of at least two positions. -/
def Forest.groups (forest : Forest) (count : Nat) : List (List (Fin count)) :=
  ((List.range count).map (forest.positionsOf count)).filter fun group => 2 ≤ group.length

section Groups

variable {forest : Forest} {count : Nat}

@[simp]
theorem Forest.mem_positionsOf_iff {root : Nat} {position : Fin count} :
    position ∈ forest.positionsOf count root ↔ forest.root position = root := by
  simp [positionsOf]

theorem Forest.pairwise_positionsOf (root : Nat) :
    (forest.positionsOf count root).Pairwise (· < ·) :=
  (List.sortedLT_finRange count).pairwise.filter _

theorem Forest.mem_groups_iff {group : List (Fin count)} :
    group ∈ forest.groups count ↔
      2 ≤ group.length ∧ ∃ root < count, forest.positionsOf count root = group := by
  simp [groups, and_comm]

/-- A root comes before all positions of the groups of later roots. -/
theorem Forest.pairwise_groups :
    (forest.groups count).Pairwise fun earlier later =>
      ∃ first ∈ earlier, ∀ position ∈ later, first < position := by
  have byRoots :
      ((List.range count).map (forest.positionsOf count)).Pairwise fun earlier later =>
        earlier ≠ [] → ∃ first ∈ earlier, ∀ position ∈ later, first < position := by
    rw [List.pairwise_map]
    refine List.pairwise_lt_range.imp ?_
    intro root laterRoot before notEmpty
    rcases List.exists_mem_of_ne_nil _ notEmpty with ⟨member, isMember⟩
    rw [mem_positionsOf_iff] at isMember
    have isRoot : forest.root root = root := by
      rw [← isMember]
      exact root_of_parent_eq _ (forest.parent_root _)
    have rootBound : root < count :=
      Nat.lt_of_le_of_lt (isMember ▸ forest.root_le member) member.isLt
    refine ⟨⟨root, rootBound⟩, mem_positionsOf_iff.mpr isRoot, ?_⟩
    intro position isLater
    rw [mem_positionsOf_iff] at isLater
    exact Nat.lt_of_lt_of_le before (isLater ▸ forest.root_le position)
  refine (byRoots.filter _).imp_of_mem ?_
  intro earlier later isEarlier _ ordered
  have two : 2 ≤ earlier.length := (mem_groups_iff.mp isEarlier).1
  exact ordered (List.ne_nil_of_length_pos (Nat.lt_of_lt_of_le Nat.zero_lt_two two))

/-- No position is in two groups, or twice in one. -/
theorem Forest.nodup_flatten_groups : (forest.groups count).flatten.Nodup := by
  have apart :
      ((List.range count).map (forest.positionsOf count)).Pairwise List.Disjoint := by
    rw [List.pairwise_map]
    refine List.nodup_range.imp ?_
    intro root other different position inFirst inSecond
    exact different ((mem_positionsOf_iff.mp inFirst).symm.trans (mem_positionsOf_iff.mp inSecond))
  rw [List.nodup_flatten]
  refine ⟨?_, apart.filter _⟩
  intro group isGroup
  rcases mem_groups_iff.mp isGroup with ⟨_, root, _, rfl⟩
  exact (forest.pairwise_positionsOf root).imp ne_of_lt

end Groups

/-- Similar candidates are grouped by the roots of their positions. -/
theorem linkSimilar_eq_map (threshold : Float) (members : List Candidate) :
    linkSimilar threshold members =
      ((linkedForest threshold members).groups members.length).map (List.map members.get) := by
  let forest := linkedForest threshold members
  have zipped :
      members.zip (forest.roots (List.range members.length)) =
        (List.finRange members.length).map fun position =>
          (members.get position, forest.root position) := by
    rw [Forest.roots_eq_map, ← List.map_coe_finRange_eq_range, List.map_map]
    nth_rewrite 1 [← List.map_get_finRange members]
    rw [List.zip_map']
    rfl
  have group_eq (root : Nat) :
      ((members.zip (forest.roots (List.range members.length))).filter
          fun entry => entry.2 == root).map (·.1) =
        (forest.positionsOf members.length root).map members.get := by
    rw [zipped, List.filter_map, List.map_map]
    rfl
  have groups_eq :
      linkSimilar threshold members =
        (((List.range members.length).map (forest.positionsOf members.length)).map
          (List.map members.get)).filter fun group => 2 ≤ group.length := by
    rw [List.map_map, linkSimilar]
    congr 1
    exact List.map_congr_left fun root _ => group_eq root
  rw [groups_eq, Forest.groups, List.filter_map]
  congr 2
  funext group
  exact congrArg (fun length => decide (2 ≤ length)) (List.length_map _)

/--
Similar candidates are grouped into the connected components of the graph of links that have at
least two positions.  No position is in two groups; a group lists its positions in order, and groups
are in the order of their smallest positions.  In the graph two positions are linked when their
tokens differ and enough of their pairs of tokens, which are sets, are common.
-/
theorem linkSimilar_eq_components (threshold : Float) (members : List Candidate) :
    ((∀ member ∈ members, member.bigrams.Nodup) →
        ∀ first second : Fin members.length,
          (linkGraph threshold members).Adj first second ↔
            members[first].exact ≠ members[second].exact ∧
              jaccard members[first].bigrams members[second].bigrams ≥ threshold) ∧
      ∃ groups : List (List (Fin members.length)),
        linkSimilar threshold members = groups.map (List.map members.get) ∧
          (∀ group ∈ groups,
            2 ≤ group.length ∧ group.Pairwise (· < ·) ∧
              ∃ component : (linkGraph threshold members).ConnectedComponent,
                ∀ position, position ∈ group ↔ position ∈ component.supp) ∧
          (∀ component : (linkGraph threshold members).ConnectedComponent,
            component.supp.Nontrivial →
              ∃ group ∈ groups, ∀ position, position ∈ group ↔ position ∈ component.supp) ∧
          groups.flatten.Nodup ∧
          groups.Pairwise fun earlier later =>
            ∃ first ∈ earlier, ∀ position ∈ later, first < position := by
  let forest := linkedForest threshold members
  have positionsOf_iff (root position : Fin members.length) :
      position ∈ forest.positionsOf members.length (forest.root root) ↔
        position ∈ ((linkGraph threshold members).connectedComponentMk root).supp := by
    rw [Forest.mem_positionsOf_iff, root_linkedForest_eq_iff,
      SimpleGraph.ConnectedComponent.mem_supp_iff, SimpleGraph.ConnectedComponent.eq]
  refine ⟨fun areSets _ _ => linkGraph_adj_iff areSets, forest.groups members.length,
    linkSimilar_eq_map threshold members, ?_, ?_, Forest.nodup_flatten_groups,
    Forest.pairwise_groups⟩
  · intro group isGroup
    rcases Forest.mem_groups_iff.mp isGroup with ⟨two, root, _, rfl⟩
    refine ⟨two, forest.pairwise_positionsOf root, ?_⟩
    rcases List.exists_mem_of_length_pos (Nat.lt_of_lt_of_le Nat.zero_lt_two two) with
      ⟨member, isMember⟩
    rw [Forest.mem_positionsOf_iff] at isMember
    subst isMember
    exact ⟨_, positionsOf_iff member⟩
  · intro component
    induction component using SimpleGraph.ConnectedComponent.ind with
    | h member =>
        intro nontrivial
        refine ⟨_, Forest.mem_groups_iff.mpr ⟨?_, _, ?_, rfl⟩, positionsOf_iff member⟩
        · rcases nontrivial with ⟨first, firstConnected, second, secondConnected, different⟩
          rw [← positionsOf_iff] at firstConnected secondConnected
          have both : [first, second].Subperm
              (forest.positionsOf members.length (forest.root member)) :=
            List.subperm_of_subset (by simp [different]) (by simp [firstConnected, secondConnected])
          exact both.length_le
        · exact Nat.lt_of_le_of_lt (forest.root_le member) member.isLt

end StructuralLint.Duplication
