import Mathlib.Data.List.Flatten
import StructuralLint.Proofs.Ingestion

/-!
# Cycles of child lists

Every id has at most one parent, and every node but a comment hangs from the root.  What hangs from
the root has a depth, so it lies on no cycle and leads to none.  Comments are not asked to hang from
the root: the child lists of loose comments may run in circles, and then the walks up and down do
not come to an end.

The main statement says of every accepted model which ids can lie on a cycle, and that a walk from
an id ends exactly when it meets no cycle.  The last statement is a model that ingestion accepts and
on which walks do not end.
-/

namespace StructuralLint

/-- Results of all items are there when each of them is. -/
theorem isSome_mapM_iff {α β : Type} {f : α → Option β} {items : List α} :
    (items.mapM f).isSome = true ↔ ∀ item ∈ items, (f item).isSome = true := by
  induction items with
  | nil => simp
  | cons item rest induction =>
      rw [List.mapM_cons, List.forall_mem_cons, ← induction]
      cases f item <;> cases rest.mapM f <;> simp

theorem flatten_mapM {α β : Type} {f : α → Option (List β)} {g : α → List β}
    (same : ∀ item result, f item = some result → g item = result)
    {items : List α} {results : List (List β)}
    (found : items.mapM f = some results) :
    items.flatMap g = results.flatten := by
  induction items generalizing results with
  | nil => cases found; rfl
  | cons item rest induction =>
      simp only [List.mapM_cons, Option.bind_eq_bind, Option.bind_eq_some_iff] at found
      rcases found with ⟨first, isFirst, others, isRest, made⟩
      cases made
      rw [List.flatMap_cons, List.flatten_cons, same item first isFirst, induction isRest]

namespace Model

/-- An id is a proper ancestor of itself. -/
def OnCycle (nodes : List Node) (id : NodeId) : Prop :=
  Relation.TransGen (ListsChild nodes) id id

/-- From some number of levels on, the walk up from an id yields nothing more. -/
def WalkUpEnds (model : Model) (id : NodeId) : Prop :=
  ∃ levels, ∀ more, levels ≤ more →
    model.ancestorsWithin more id = model.ancestorsWithin levels id

/-- From some number of levels on, the walk down from an id yields nothing more. -/
def WalkDownEnds (model : Model) (id : NodeId) : Prop :=
  ∃ levels, ∀ more, levels ≤ more →
    model.descendantsWithin more id = model.descendantsWithin levels id

/-! ## Chains of child lists -/

section Chains

variable {nodes : List Node}

theorem ListsChild.mem_ids {parent child : NodeId}
    (listed : ListsChild nodes parent child) :
    parent ∈ nodes.map Node.id := by
  rcases listed with ⟨node, member, rfl, _⟩
  exact List.mem_map_of_mem member

theorem AtDepth.reachable {top bottom : NodeId} {depth : Nat}
    (chain : AtDepth nodes top depth bottom) :
    Reachable nodes top bottom := by
  induction chain with
  | root => exact Relation.ReflTransGen.refl
  | child _ listed above => exact above.tail listed

theorem AtDepth.trans {top middle bottom : NodeId} {above below : Nat}
    (upper : AtDepth nodes top above middle)
    (lower : AtDepth nodes middle below bottom) :
    AtDepth nodes top (above + below) bottom := by
  induction lower with
  | root => exact upper
  | child _ listed chain => exact chain.child listed

/-- A chain starts with the child list of its top. -/
theorem atDepth_succ_iff {top bottom : NodeId} {depth : Nat} :
    AtDepth nodes top (depth + 1) bottom ↔
      ∃ next, ListsChild nodes top next ∧ AtDepth nodes next depth bottom := by
  constructor
  · intro chain
    induction depth generalizing bottom with
    | zero =>
        cases chain with
        | child above listed =>
            cases above
            exact ⟨bottom, listed, .root⟩
    | succ depth induction =>
        cases chain with
        | child above listed =>
            rcases induction above with ⟨next, first, rest⟩
            exact ⟨next, first, rest.child listed⟩
  · rintro ⟨next, first, rest⟩
    have start : AtDepth nodes top 1 next := AtDepth.root.child first
    rw [Nat.add_comm]
    exact start.trans rest

/-- A chain can be cut off at any depth above its bottom. -/
theorem AtDepth.exists_lower {top bottom : NodeId} {depth : Nat}
    (chain : AtDepth nodes top depth bottom)
    {less : Nat}
    (le : less ≤ depth) :
    ∃ lowerTop, AtDepth nodes lowerTop less bottom := by
  induction chain generalizing less with
  | root =>
      rw [Nat.le_zero.mp le]
      exact ⟨top, .root⟩
  | child above listed induction =>
      cases less with
      | zero => exact ⟨_, .root⟩
      | succ less =>
          rcases induction (Nat.le_of_succ_le_succ le) with ⟨lowerTop, lower⟩
          exact ⟨lowerTop, lower.child listed⟩

theorem onCycle_iff_atDepth {id : NodeId} :
    OnCycle nodes id ↔ ∃ depth, AtDepth nodes id (depth + 1) id := by
  rw [OnCycle, Relation.TransGen.head'_iff]
  constructor
  · rintro ⟨next, listed, back⟩
    rcases Reachable.exists_atDepth back with ⟨depth, chain⟩
    exact ⟨depth, atDepth_succ_iff.mpr ⟨next, listed, chain⟩⟩
  · rintro ⟨depth, chain⟩
    rcases atDepth_succ_iff.mp chain with ⟨next, listed, rest⟩
    exact ⟨next, listed, rest.reachable⟩

/-- Around a cycle there are chains of any length. -/
theorem OnCycle.exists_atDepth_ge {id : NodeId}
    (cycle : OnCycle nodes id) (least : Nat) :
    ∃ depth, least ≤ depth ∧ AtDepth nodes id depth id := by
  rcases onCycle_iff_atDepth.mp cycle with ⟨around, once⟩
  induction least with
  | zero => exact ⟨0, Nat.le_refl 0, .root⟩
  | succ least induction =>
      rcases induction with ⟨depth, le, chain⟩
      refine ⟨depth + (around + 1), ?_, chain.trans once⟩
      omega

/-- The ids of a chain that meets no cycle are all different. -/
theorem AtDepth.exists_trail_of_no_cycle
    (present : ∀ node ∈ nodes, ∀ child ∈ node.children, child ∈ nodes.map Node.id)
    {top bottom : NodeId}
    (topPresent : top ∈ nodes.map Node.id)
    {depth : Nat}
    (chain : AtDepth nodes top depth bottom)
    (noCycle :
      ∀ passed, Reachable nodes top passed → Reachable nodes passed bottom →
        ¬ OnCycle nodes passed) :
    ∃ trail : List NodeId,
      trail.length = depth + 1 ∧ trail.Nodup ∧
        ∀ passed ∈ trail, passed ∈ nodes.map Node.id ∧ Reachable nodes passed bottom := by
  induction chain with
  | root =>
      refine ⟨[top], rfl, List.nodup_singleton top, ?_⟩
      intro passed member
      rw [List.mem_singleton] at member
      subst member
      exact ⟨topPresent, Relation.ReflTransGen.refl⟩
  | @child depth parent child above listed induction =>
      have noCycleAbove (passed : NodeId) (below : Reachable nodes top passed)
          (reaches : Reachable nodes passed parent) :
          ¬ OnCycle nodes passed :=
        noCycle passed below (reaches.tail listed)
      rcases induction noCycleAbove with ⟨trail, length, nodup, passedAbove⟩
      refine ⟨child :: trail, by rw [List.length_cons, length], ?_, ?_⟩
      · -- A child that was passed before would close a cycle through its parent.
        rw [List.nodup_cons]
        refine ⟨?_, nodup⟩
        intro again
        have cycle : OnCycle nodes child :=
          Relation.TransGen.tail' (passedAbove child again).2 listed
        exact noCycle child (above.child listed).reachable Relation.ReflTransGen.refl cycle
      · intro passed member
        rcases List.mem_cons.mp member with equal | earlier
        · subst equal
          rcases listed with ⟨node, nodeMember, _, passedListed⟩
          exact ⟨present node nodeMember passed passedListed, Relation.ReflTransGen.refl⟩
        · rcases passedAbove passed earlier with ⟨passedPresent, reaches⟩
          exact ⟨passedPresent, reaches.tail listed⟩

/-- A chain that meets no cycle is shorter than the list of nodes. -/
theorem AtDepth.lt_length_of_no_cycle
    (nonempty : nodes ≠ [])
    (present : ∀ node ∈ nodes, ∀ child ∈ node.children, child ∈ nodes.map Node.id)
    {top bottom : NodeId} {depth : Nat}
    (chain : AtDepth nodes top depth bottom)
    (noCycle :
      ∀ passed, Reachable nodes top passed → Reachable nodes passed bottom →
        ¬ OnCycle nodes passed) :
    depth < nodes.length := by
  cases depth with
  | zero => exact List.length_pos_of_ne_nil nonempty
  | succ depth =>
      rcases atDepth_succ_iff.mp chain with ⟨_, first, _⟩
      rcases chain.exists_trail_of_no_cycle present first.mem_ids noCycle with
        ⟨trail, length, nodup, passed⟩
      have bounded : trail.length ≤ (nodes.map Node.id).length :=
        nodup.length_le_of_subset fun id member => (passed id member).1
      rw [length, List.length_map] at bounded
      exact bounded

end Chains

/-! ## The walk up -/

section WalkUp

variable {model : Model}

theorem length_ancestorsWithin_le (levels : Nat) (id : NodeId) :
    (model.ancestorsWithin levels id).length ≤ levels := by
  induction levels generalizing id with
  | zero => exact Nat.le_refl 0
  | succ levels induction =>
      rw [ancestorsWithin]
      split
      next parent _ => exact Nat.succ_le_succ (induction parent.id)
      next => exact Nat.zero_le _

/-- A walk up that stopped before its last level yields the same with more levels. -/
theorem ancestorsWithin_eq_of_length_lt {levels more : Nat} {id : NodeId}
    (stopped : (model.ancestorsWithin levels id).length < levels)
    (le : levels ≤ more) :
    model.ancestorsWithin more id = model.ancestorsWithin levels id := by
  induction levels generalizing id more with
  | zero => exact absurd stopped (Nat.not_lt_zero _)
  | succ levels induction =>
      cases more with
      | zero => exact absurd le (Nat.not_succ_le_zero levels)
      | succ more =>
          rw [ancestorsWithin] at stopped
          rw [ancestorsWithin, ancestorsWithin]
          cases found : model.parent? id with
          | none => rfl
          | some parent =>
              rw [found, List.length_cons] at stopped
              simp only [induction (Nat.lt_of_succ_lt_succ stopped) (Nat.le_of_succ_le_succ le)]

/--
The walk up uses all its levels exactly when a chain of that many child lists leads to the id.
-/
theorem length_ancestorsWithin_eq_iff
    (wellFormed : model.IsWellFormed)
    {levels : Nat} {id : NodeId} :
    (model.ancestorsWithin levels id).length = levels ↔
      ∃ top, AtDepth model.nodes top levels id := by
  induction levels generalizing id with
  | zero =>
      constructor
      · intro _
        exact ⟨id, .root⟩
      · intro _
        rfl
  | succ levels induction =>
      rw [ancestorsWithin]
      constructor
      · intro full
        split at full
        next parent found =>
          rcases induction.mp (Nat.succ.inj full) with ⟨top, above⟩
          exact ⟨top, above.child (wellFormed.listsChild_iff_parent?.mpr ⟨parent, found, rfl⟩)⟩
        next => cases full
      · rintro ⟨top, chain⟩
        cases chain with
        | child above listed =>
            rcases wellFormed.listsChild_iff_parent?.mp listed with ⟨parent, found, rfl⟩
            simp only [found, List.length_cons]
            rw [induction.mpr ⟨top, above⟩]

theorem ancestorsWithin_eq_of_some {levels : Nat} {id : NodeId} {walk : List Node}
    (found : model.ancestorsWithin? levels id = some walk) :
    model.ancestorsWithin levels id = walk ∧ walk.length < levels := by
  induction levels generalizing id walk with
  | zero => cases found
  | succ levels induction =>
      rw [ancestorsWithin?] at found
      rw [ancestorsWithin]
      cases isParent : model.parent? id with
      | none =>
          rw [isParent] at found
          cases found
          exact ⟨rfl, Nat.zero_lt_succ levels⟩
      | some parent =>
          rw [isParent] at found
          rcases Option.map_eq_some_iff.mp found with ⟨above, isAbove, rfl⟩
          rcases induction isAbove with ⟨same, shorter⟩
          exact ⟨congrArg (parent :: ·) same, Nat.succ_lt_succ shorter⟩

theorem ancestorsWithin?_eq_some {levels : Nat} {id : NodeId}
    (stopped : (model.ancestorsWithin levels id).length < levels) :
    model.ancestorsWithin? levels id = some (model.ancestorsWithin levels id) := by
  induction levels generalizing id with
  | zero => exact absurd stopped (Nat.not_lt_zero _)
  | succ levels induction =>
      rw [ancestorsWithin] at stopped ⊢
      rw [ancestorsWithin?]
      cases isParent : model.parent? id with
      | none => rfl
      | some parent =>
          rw [isParent, List.length_cons] at stopped
          simp only [induction (Nat.lt_of_succ_lt_succ stopped), Option.map_some]

section

variable (wellFormed : model.IsWellFormed)

include wellFormed

/-- Where no cycle leads to an id, as many levels as there are nodes are enough for the walk up. -/
theorem ancestorsWithin_eq_of_no_cycle {id : NodeId}
    (noCycle : ∀ above, Reachable model.nodes above id → ¬ OnCycle model.nodes above)
    {levels : Nat}
    (le : model.nodes.length ≤ levels) :
    model.ancestorsWithin levels id = model.ancestors id := by
  apply ancestorsWithin_eq_of_length_lt _ le
  apply Nat.lt_of_le_of_ne (length_ancestorsWithin_le _ id)
  intro full
  rcases (length_ancestorsWithin_eq_iff wellFormed).mp full with ⟨top, chain⟩
  have bounded := chain.lt_length_of_no_cycle wellFormed.nonempty wellFormed.children_mem_ids
    fun passed _ reaches => noCycle passed reaches
  exact Nat.lt_irrefl _ bounded

/-- The walk up from an id ends exactly when no cycle leads to the id. -/
theorem walkUpEnds_iff {id : NodeId} :
    model.WalkUpEnds id ↔
      ∀ above, Reachable model.nodes above id → ¬ OnCycle model.nodes above := by
  constructor
  · rintro ⟨levels, same⟩ above reaches cycle
    -- Going around the cycle often enough gives a chain of one level more than the walk has.
    rcases Reachable.exists_atDepth reaches with ⟨rest, down⟩
    rcases cycle.exists_atDepth_ge (levels + 1) with ⟨depth, le, around⟩
    rcases (around.trans down).exists_lower (Nat.le_add_right_of_le le) with ⟨top, chain⟩
    have full := (length_ancestorsWithin_eq_iff wellFormed).mpr ⟨top, chain⟩
    rw [same (levels + 1) (Nat.le_succ levels)] at full
    have bounded : (model.ancestorsWithin levels id).length ≤ levels :=
      length_ancestorsWithin_le levels id
    omega
  · intro noCycle
    exact ⟨model.nodes.length, fun more le =>
      ancestorsWithin_eq_of_no_cycle wellFormed noCycle le⟩

/-- The walk up is missing exactly where it never ends. -/
theorem IsWellFormed.ancestors?_eq_some_iff {id : NodeId} {walk : List Node} :
    model.ancestors? id = some walk ↔ model.WalkUpEnds id ∧ model.ancestors id = walk := by
  constructor
  · intro found
    rcases ancestorsWithin_eq_of_some found with ⟨same, shorter⟩
    have ends : model.WalkUpEnds id :=
      ⟨model.nodes.length + 1, fun more le =>
        ancestorsWithin_eq_of_length_lt (by rwa [same]) le⟩
    have noCycle := (walkUpEnds_iff wellFormed).mp ends
    have enough := ancestorsWithin_eq_of_no_cycle wellFormed noCycle (Nat.le_succ _)
    exact ⟨ends, enough.symm.trans same⟩
  · rintro ⟨ends, rfl⟩
    have noCycle := (walkUpEnds_iff wellFormed).mp ends
    have same := ancestorsWithin_eq_of_no_cycle wellFormed noCycle (Nat.le_succ _)
    rw [ancestors?, ancestorsWithin?_eq_some, same]
    rw [same]
    exact Nat.lt_succ_of_le (length_ancestorsWithin_le _ id)

end

end WalkUp

/-! ## The walk down -/

section WalkDown

variable {model : Model}

/-- A walk down with more levels than every chain has yields the same with still more levels. -/
theorem descendantsWithin_eq_of_chains_lt {levels more : Nat} {id : NodeId}
    (shorter : ∀ depth bottom, AtDepth model.nodes id depth bottom → depth < levels)
    (le : levels ≤ more) :
    model.descendantsWithin more id = model.descendantsWithin levels id := by
  induction levels generalizing id more with
  | zero => exact absurd (shorter 0 id .root) (Nat.not_lt_zero 0)
  | succ levels induction =>
      cases more with
      | zero => exact absurd le (Nat.not_succ_le_zero levels)
      | succ more =>
          rw [descendantsWithin, descendantsWithin]
          cases found : model.node? id with
          | none => rfl
          | some node =>
              rcases mem_of_node?_eq_some found with ⟨member, nodeId⟩
              have children (child : NodeId) (listed : child ∈ node.children) :
                  model.descendantsWithin more child = model.descendantsWithin levels child := by
                apply induction _ (Nat.le_of_succ_le_succ le)
                intro depth bottom chain
                have listsChild : ListsChild model.nodes id child := ⟨node, member, nodeId, listed⟩
                exact Nat.lt_of_succ_lt_succ
                  (shorter (depth + 1) bottom (atDepth_succ_iff.mpr ⟨child, listsChild, chain⟩))
              simp only [List.flatMap_congr children]

/-- A walk down yields at least one node for every level that some chain has. -/
theorem le_length_descendantsWithin
    (distinct : (model.nodes.map Node.id).Nodup)
    {levels depth : Nat} {id bottom : NodeId}
    (chain : AtDepth model.nodes id depth bottom)
    (le : levels ≤ depth) :
    levels ≤ (model.descendantsWithin levels id).length := by
  induction levels generalizing id depth with
  | zero => exact Nat.zero_le _
  | succ levels induction =>
      cases depth with
      | zero => exact absurd le (Nat.not_succ_le_zero levels)
      | succ depth =>
          rcases atDepth_succ_iff.mp chain with ⟨next, ⟨node, member, rfl, listed⟩, rest⟩
          rw [descendantsWithin, exists_node?_eq_some distinct member, List.length_cons]
          have below : levels ≤ (model.descendantsWithin levels next).length :=
            induction rest (Nat.le_of_succ_le_succ le)
          have part :
              (model.descendantsWithin levels next).Sublist
                (node.children.flatMap (model.descendantsWithin levels)) := by
            simpa using (List.singleton_sublist.mpr listed).flatMap (model.descendantsWithin levels)
          exact Nat.succ_le_succ (Nat.le_trans below part.length_le)

section

variable (nonempty : model.nodes ≠ [])
  (present :
    ∀ node ∈ model.nodes, ∀ child ∈ node.children, child ∈ model.nodes.map Node.id)

include nonempty present

/--
Where an id leads to no cycle, as many levels as there are nodes are enough for the walk down.
-/
theorem descendantsWithin_eq_of_no_cycle {id : NodeId}
    (noCycle : ∀ below, Reachable model.nodes id below → ¬ OnCycle model.nodes below)
    {levels : Nat}
    (le : model.nodes.length ≤ levels) :
    model.descendantsWithin levels id = model.descendants id := by
  apply descendantsWithin_eq_of_chains_lt _ le
  intro depth bottom chain
  exact chain.lt_length_of_no_cycle nonempty present
    fun passed reached _ => noCycle passed reached

/-- The walk down from an id ends exactly when the id leads to no cycle. -/
theorem walkDownEnds_iff
    (distinct : (model.nodes.map Node.id).Nodup)
    {id : NodeId} :
    model.WalkDownEnds id ↔
      ∀ below, Reachable model.nodes id below → ¬ OnCycle model.nodes below := by
  constructor
  · rintro ⟨levels, same⟩ below reaches cycle
    rcases Reachable.exists_atDepth reaches with ⟨first, down⟩
    -- More levels than the walk yields nodes.
    let more := levels + (model.descendantsWithin levels id).length + 1
    rcases cycle.exists_atDepth_ge more with ⟨depth, le, around⟩
    have many := le_length_descendantsWithin distinct (down.trans around)
      (Nat.le_add_left_of_le le)
    rw [same more (by omega)] at many
    omega
  · intro noCycle
    exact ⟨model.nodes.length, fun more le =>
      descendantsWithin_eq_of_no_cycle nonempty present noCycle le⟩

end

theorem descendantsWithin_eq_of_some {levels : Nat} {id : NodeId} {walk : List Node}
    (found : model.descendantsWithin? levels id = some walk) :
    model.descendantsWithin levels id = walk := by
  induction levels generalizing id walk with
  | zero => cases found
  | succ levels induction =>
      rw [descendantsWithin?] at found
      rw [descendantsWithin]
      cases isNode : model.node? id with
      | none =>
          rw [isNode] at found
          exact Option.some_inj.mp found
      | some node =>
          rw [isNode] at found
          rcases Option.map_eq_some_iff.mp found with ⟨subtrees, isSubtrees, rfl⟩
          exact congrArg (node :: ·) (flatten_mapM (fun _ _ => induction) isSubtrees)

theorem isSome_descendantsWithin?_iff
    (distinct : (model.nodes.map Node.id).Nodup)
    {levels : Nat} {id : NodeId} :
    (model.descendantsWithin? levels id).isSome = true ↔
      ∀ depth bottom, AtDepth model.nodes id depth bottom → depth < levels := by
  induction levels generalizing id with
  | zero =>
      constructor
      · exact nofun
      · intro shorter
        exact absurd (shorter 0 id .root) (Nat.not_lt_zero 0)
  | succ levels induction =>
      have split :
          (∀ depth bottom, AtDepth model.nodes id depth bottom → depth < levels + 1) ↔
            ∀ next, ListsChild model.nodes id next →
              ∀ depth bottom, AtDepth model.nodes next depth bottom → depth < levels := by
        constructor
        · intro shorter next listed depth bottom chain
          exact Nat.lt_of_succ_lt_succ
            (shorter (depth + 1) bottom (atDepth_succ_iff.mpr ⟨next, listed, chain⟩))
        · intro shorter depth bottom chain
          cases depth with
          | zero => exact Nat.zero_lt_succ levels
          | succ depth =>
              rcases atDepth_succ_iff.mp chain with ⟨next, listed, rest⟩
              exact Nat.succ_lt_succ (shorter next listed depth bottom rest)
      rw [descendantsWithin?, split]
      cases isNode : model.node? id with
      | none =>
          refine iff_of_true rfl ?_
          rintro next ⟨node, member, rfl, _⟩
          rw [exists_node?_eq_some distinct member] at isNode
          cases isNode
      | some node =>
          rcases mem_of_node?_eq_some isNode with ⟨member, rfl⟩
          simp only [Option.isSome_map, isSome_mapM_iff, induction]
          constructor
          · rintro shorter next ⟨other, otherMember, sameId, listed⟩
            rw [List.inj_on_of_nodup_map distinct otherMember member sameId] at listed
            exact shorter next listed
          · intro shorter next listed
            exact shorter next ⟨node, member, rfl, listed⟩

/-- The walk down is missing exactly where it never ends. -/
theorem IsWellFormed.descendants?_eq_some_iff (wellFormed : model.IsWellFormed)
    {id : NodeId} {walk : List Node} :
    model.descendants? id = some walk ↔ model.WalkDownEnds id ∧ model.descendants id = walk := by
  rw [walkDownEnds_iff wellFormed.nonempty wellFormed.children_mem_ids wellFormed.distinctIds]
  constructor
  · intro found
    have shorter :=
      (isSome_descendantsWithin?_iff wellFormed.distinctIds).mp (Option.isSome_of_eq_some found)
    have noCycle (below : NodeId) (reaches : Reachable model.nodes id below) :
        ¬ OnCycle model.nodes below := by
      intro cycle
      rcases Reachable.exists_atDepth reaches with ⟨first, down⟩
      rcases cycle.exists_atDepth_ge (model.nodes.length + 1) with ⟨depth, le, around⟩
      have bounded := shorter _ _ (down.trans around)
      omega
    refine ⟨noCycle, ?_⟩
    rw [← descendantsWithin_eq_of_no_cycle wellFormed.nonempty wellFormed.children_mem_ids noCycle
      (Nat.le_succ _)]
    exact descendantsWithin_eq_of_some found
  · rintro ⟨noCycle, rfl⟩
    have present : (model.descendants? id).isSome = true := by
      refine (isSome_descendantsWithin?_iff wellFormed.distinctIds).mpr ?_
      intro depth bottom chain
      exact Nat.lt_succ_of_lt (chain.lt_length_of_no_cycle wellFormed.nonempty
        wellFormed.children_mem_ids fun passed reached _ => noCycle passed reached)
    rcases Option.isSome_iff_exists.mp present with ⟨walk, found⟩
    rw [found, ← descendantsWithin_eq_of_no_cycle wellFormed.nonempty wellFormed.children_mem_ids
      noCycle (Nat.le_succ _), descendantsWithin_eq_of_some found]

end WalkDown

/-! ## Cycles of well-formed nodes -/

namespace WellFormed

variable {root : NodeId} {nodes : List Node} {lineCount : Option UInt32}
  (wellFormed : WellFormed root nodes lineCount)

include wellFormed

theorem eq_of_id_eq {first second : Node}
    (firstMember : first ∈ nodes)
    (secondMember : second ∈ nodes)
    (sameId : first.id = second.id) :
    first = second :=
  List.inj_on_of_nodup_map wellFormed.distinctIds firstMember secondMember sameId

/-- What a node leads to is the node or lies properly below it. -/
theorem eq_or_below_of_reachable {above below : Node}
    (aboveMember : above ∈ nodes)
    (belowMember : below ∈ nodes)
    (leads : Reachable nodes above.id below.id) :
    above = below ∨ Relation.TransGen (ListsChild nodes) above.id below.id := by
  rcases Relation.reflTransGen_iff_eq_or_transGen.mp leads with sameId | properly
  · exact Or.inl (wellFormed.eq_of_id_eq aboveMember belowMember sameId.symm)
  · exact Or.inr properly

/-- What hangs from the root lies on no cycle: going around would give it a second depth. -/
theorem not_onCycle_of_reachable {id : NodeId}
    (reachable : Reachable nodes root id) :
    ¬ OnCycle nodes id := by
  intro cycle
  rcases reachable.exists_atDepth with ⟨depth, chain⟩
  rcases onCycle_iff_atDepth.mp cycle with ⟨around, once⟩
  have sameDepth := AtDepth.unique wellFormed.childrenOnce wellFormed.rootUnlisted chain
    (chain.trans once)
  omega

/-- Nothing leads to the root but the root itself. -/
theorem eq_root_of_reachable {id : NodeId}
    (reachable : Reachable nodes id root) :
    id = root := by
  rcases Relation.ReflTransGen.cases_tail reachable with equal | ⟨_, _, node, member, _, listed⟩
  · exact equal.symm
  · exact absurd listed (wellFormed.rootUnlisted node member)

/-- All that leads to an id which hangs from the root hangs from the root as well. -/
theorem reachable_above {above id : NodeId}
    (reachable : Reachable nodes root id)
    (leads : Reachable nodes above id) :
    Reachable nodes root above := by
  induction reachable generalizing above with
  | refl =>
      rw [wellFormed.eq_root_of_reachable leads]
      exact Relation.ReflTransGen.refl
  | tail parentReachable listed induction =>
      rcases Relation.ReflTransGen.cases_tail leads with
        equal | ⟨parent, leadsToParent, otherListed⟩
      · rw [← equal]
        exact parentReachable.tail listed
      · -- Both chains end with the child list of the one parent.
        rcases listed with ⟨node, member, rfl, childListed⟩
        rcases otherListed with ⟨other, otherMember, rfl, otherChildListed⟩
        have same := eq_of_mem_children wellFormed.childrenOnce otherMember member
          otherChildListed childListed
        rw [same] at leadsToParent
        exact induction leadsToParent

/-- Only comments that do not hang from the root lie on cycles. -/
theorem loose_comment_of_onCycle {id : NodeId}
    (cycle : OnCycle nodes id) :
    (∃ node ∈ nodes, node.id = id ∧ node.kind = .comment) ∧ ¬ Reachable nodes root id := by
  have loose : ¬ Reachable nodes root id :=
    fun reachable => wellFormed.not_onCycle_of_reachable reachable cycle
  rcases Relation.TransGen.head'_iff.mp cycle with ⟨_, ⟨node, member, rfl, _⟩, _⟩
  refine ⟨⟨node, member, rfl, ?_⟩, loose⟩
  by_contra notComment
  exact loose (wellFormed.reachable node member notComment)

end WellFormed

/-! ## Accepted models -/

/-- Both walks from what hangs from the root end. -/
theorem IsWellFormed.walks_end_of_reachable {model : Model}
    (wellFormed : model.IsWellFormed)
    {id : NodeId}
    (reachable : Reachable model.nodes model.root id) :
    model.WalkUpEnds id ∧ model.WalkDownEnds id := by
  rw [walkUpEnds_iff wellFormed,
    walkDownEnds_iff wellFormed.nonempty wellFormed.children_mem_ids wellFormed.distinctIds]
  constructor
  · intro above leads
    exact wellFormed.not_onCycle_of_reachable (wellFormed.reachable_above reachable leads)
  · intro below leads
    exact wellFormed.not_onCycle_of_reachable (reachable.trans leads)

/--
In a model that ingestion accepts only comments that do not hang from the root lie on cycles.  The
walk up from an id ends exactly when no cycle leads to the id, and the walk down exactly when the id
leads to none; where they end, as many levels as there are nodes are enough.  So both walks end from
everything that hangs from the root.
-/
theorem ingest_walks_end_iff_no_cycle
    (path : SourcePath)
    (root : NodeId)
    (nodes : List Node)
    (lineCount : Option UInt32)
    (model : Model)
    (accepted : ingest path root nodes lineCount = .ok model) :
    (∀ id, OnCycle nodes id →
      (∃ node ∈ nodes, node.id = id ∧ node.kind = .comment) ∧ ¬ Reachable nodes root id) ∧
      (∀ id,
        (model.WalkUpEnds id ↔ ∀ above, Reachable nodes above id → ¬ OnCycle nodes above) ∧
          (model.WalkDownEnds id ↔ ∀ below, Reachable nodes id below → ¬ OnCycle nodes below)) ∧
      (∀ id levels, nodes.length ≤ levels →
        (model.WalkUpEnds id → model.ancestorsWithin levels id = model.ancestors id) ∧
          (model.WalkDownEnds id → model.descendantsWithin levels id = model.descendants id)) ∧
      ∀ id, Reachable nodes root id → model.WalkUpEnds id ∧ model.WalkDownEnds id := by
  have wellFormed := IsWellFormed.of_ingest accepted
  have isModel := eq_linked_of_ingest accepted
  have modelNodes : model.nodes = nodes := by rw [isModel]; rfl
  have modelRoot : model.root = root := by rw [isModel]; rfl
  subst modelNodes modelRoot
  have up (id : NodeId) :
      model.WalkUpEnds id ↔
        ∀ above, Reachable model.nodes above id → ¬ OnCycle model.nodes above :=
    walkUpEnds_iff wellFormed
  have down (id : NodeId) :
      model.WalkDownEnds id ↔
        ∀ below, Reachable model.nodes id below → ¬ OnCycle model.nodes below :=
    walkDownEnds_iff wellFormed.nonempty wellFormed.children_mem_ids wellFormed.distinctIds
  refine ⟨fun id => wellFormed.loose_comment_of_onCycle, fun id => ⟨up id, down id⟩, ?_,
    fun id => wellFormed.walks_end_of_reachable⟩
  intro id levels le
  constructor
  · intro ends
    exact ancestorsWithin_eq_of_no_cycle wellFormed ((up id).mp ends) le
  · intro ends
    exact descendantsWithin_eq_of_no_cycle wellFormed.nonempty wellFormed.children_mem_ids
      ((down id).mp ends) le

/-- A module with a commented function: both walks from the function end. -/
theorem ingest_walks_end_from_function :
    let nodes : List Node :=
      [{ id := { index := 0 }, kind := .module
         span := { startLine := 1, startCol := 1, endLine := 3, endCol := 1 }
         children := [{ index := 1 }] },
        { id := { index := 1 }, kind := .function
          span := { startLine := 2, startCol := 1, endLine := 3, endCol := 1 }
          comments := [{ index := 2 }], name := some "f" },
        { id := { index := 2 }, kind := .comment
          span := { startLine := 1, startCol := 1, endLine := 1, endCol := 9 } }]
    let model : Model :=
      linked { path := { text := "m.ir.json" }, root := { index := 0 }, lineCount := some 3, nodes }
    ingest { text := "m.ir.json" } { index := 0 } nodes (some 3) = .ok model ∧
      model.WalkUpEnds { index := 1 } ∧ model.WalkDownEnds { index := 1 } := by
  intro nodes model
  have accepted : ingest { text := "m.ir.json" } { index := 0 } nodes (some 3) = .ok model := rfl
  have reachable : Reachable nodes { index := 0 } { index := 1 } :=
    Relation.ReflTransGen.single
      ⟨nodes.head (by decide), List.head_mem _, rfl, List.mem_cons_self⟩
  exact ⟨accepted,
    (ingest_walks_end_iff_no_cycle _ _ _ _ model accepted).2.2.2 { index := 1 } reachable⟩

/--
Ingestion accepts a comment that lists itself as its child.  It is its own parent, and neither walk
from it ends; the comment that it owns makes the rules walk down from it.
-/
theorem ingest_accepts_comment_cycle :
    let loop : Node :=
      { id := { index := 1 }, kind := .comment
        span := { startLine := 1, startCol := 1, endLine := 1, endCol := 9 }
        children := [{ index := 1 }], comments := [{ index := 2 }], text := some "// around" }
    let nodes : List Node :=
      [{ id := { index := 0 }, kind := .module
         span := { startLine := 1, startCol := 1, endLine := 3, endCol := 1 } },
        loop,
        { id := { index := 2 }, kind := .comment
          span := { startLine := 1, startCol := 1, endLine := 1, endCol := 9 }
          text := some "// going around" }]
    let model : Model :=
      linked { path := { text := "m.ir.json" }, root := { index := 0 }, lineCount := none, nodes }
    ingest { text := "m.ir.json" } { index := 0 } nodes none = .ok model ∧
      OnCycle nodes { index := 1 } ∧
      model.commentOwner? { index := 2 } = some loop ∧
      ¬ model.WalkUpEnds { index := 1 } ∧ ¬ model.WalkDownEnds { index := 1 } := by
  intro loop nodes model
  have accepted : ingest { text := "m.ir.json" } { index := 0 } nodes none = .ok model := rfl
  have wellFormed := IsWellFormed.of_ingest accepted
  have cycle : OnCycle nodes { index := 1 } :=
    Relation.TransGen.single
      ⟨loop, List.mem_cons_of_mem _ List.mem_cons_self, rfl, List.mem_cons_self⟩
  have up : model.WalkUpEnds { index := 1 } ↔ _ := walkUpEnds_iff wellFormed
  have down : model.WalkDownEnds { index := 1 } ↔ _ :=
    walkDownEnds_iff wellFormed.nonempty wellFormed.children_mem_ids wellFormed.distinctIds
  refine ⟨accepted, cycle, rfl, ?_, ?_⟩
  · intro ends
    exact up.mp ends { index := 1 } Relation.ReflTransGen.refl cycle
  · intro ends
    exact down.mp ends { index := 1 } Relation.ReflTransGen.refl cycle

end Model

end StructuralLint
