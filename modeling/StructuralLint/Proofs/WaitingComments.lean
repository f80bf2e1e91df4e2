import StructuralLint.Proofs.BuilderTree

/-!
# Comments that wait for their owner

A comment waits until a node behind it starts a line; that node then owns everything that waits.  So
the lists of comments and the comments that still wait are, one after another, all comments in the
order of their creation, and the owner of a comment is the first node behind it that starts a line.

Which node owns a comment depends only on ids, kinds and lists of comments.  The rest of a node is
left out here, because it grows with the nodes that are added later.
-/

namespace StructuralLint.Model.Builder

/-- A node without what later nodes change. -/
def bare (node : Node) : Node :=
  { id := node.id, kind := node.kind, span := default, comments := node.comments }

/-- The ids that are owned or wait are those of all comments, in order. -/
def AllGathered (nodes : List Node) (waiting : List NodeId) : Prop :=
  nodes.flatMap Node.comments ++ waiting = (nodes.filter (·.kind == .comment)).map Node.id

/-- The first node behind a comment that starts a line owns it; without one it waits. -/
def FirstLinesOwn (nodes : List Node) (waiting : List NodeId) : Prop :=
  ∀ front comment back, nodes = front ++ comment :: back → comment.kind = .comment →
    match back.find? Node.startsLine with
    | some owner => comment.id ∈ owner.comments
    | none => comment.id ∈ waiting

theorem startsLine_eq_false_of_comment {node : Node} (isComment : node.kind = .comment) :
    node.startsLine = false := by
  rw [Node.startsLine, isComment]
  rfl

section Lists

variable {nodes : List Node} {waiting left : List NodeId} {node : Node}

theorem AllGathered.append
    (gathered : AllGathered nodes waiting)
    (inTree : node.kind ≠ .comment → node.comments ++ left = waiting)
    (comment : node.kind = .comment → node.comments = [] ∧ left = waiting ++ [node.id]) :
    AllGathered (nodes ++ [node]) left := by
  rw [AllGathered, List.flatMap_append, List.flatMap_singleton, List.append_assoc,
    List.filter_append, List.map_append, ← gathered, List.append_assoc]
  congr 1
  by_cases isComment : node.kind = .comment
  · rcases comment isComment with ⟨empty, same⟩
    rw [empty, same, List.filter_cons_of_pos (by rw [isComment]; rfl)]
    rfl
  · rw [inTree isComment, List.filter_cons_of_neg (by rwa [beq_iff_eq])]
    exact (List.append_nil waiting).symm

theorem FirstLinesOwn.append
    (owned : FirstLinesOwn nodes waiting)
    (takes : node.startsLine = true → waiting ⊆ node.comments)
    (leaves : node.startsLine = false → waiting ⊆ left)
    (waits : node.kind = .comment → node.id ∈ left) :
    FirstLinesOwn (nodes ++ [node]) left := by
  intro front comment back split isComment
  rcases List.eq_nil_or_concat back with rfl | ⟨between, last, rfl⟩
  · rcases List.append_inj' split rfl with ⟨_, same⟩
    cases same
    exact waits isComment
  · rw [List.concat_eq_append, ← List.cons_append, ← List.append_assoc] at split
    rcases List.append_inj' split rfl with ⟨splitBefore, same⟩
    cases same
    have before := owned front comment between splitBefore isComment
    rw [List.concat_eq_append, List.find?_append]
    cases found : between.find? Node.startsLine with
    | some owner =>
        rw [found] at before
        exact before
    | none =>
        rw [found] at before
        cases line : node.startsLine with
        | true =>
            rw [Option.none_or, List.find?_cons_of_pos line]
            exact takes line before
        | false =>
            rw [Option.none_or, List.find?_cons_of_neg (by rw [line]; exact Bool.false_ne_true)]
            exact leaves line before

end Lists

/-- Comments have their owners or wait. -/
structure HasOwners (builder : Builder) : Prop where
  gathered : AllGathered (builder.nodes.map bare) builder.pendingComments
  owned : FirstLinesOwn (builder.nodes.map bare) builder.pendingComments

/-- A line takes all comments that wait, a comment waits, and nothing else concerns them. -/
theorem HasOwners.grows {before after : Builder} {parent : Option Nat} {node : Node}
    (owners : before.HasOwners)
    (adds : Adds before parent node after)
    (places : Places before node after) :
    after.HasOwners := by
  have nodes : after.nodes.map bare = before.nodes.map bare ++ [bare node] :=
    adds.map_eq fun kept => by rw [bare, bare, kept.id, kept.kind, kept.comments]
  constructor
  case gathered =>
    rw [nodes]
    refine owners.gathered.append ?_ fun isComment => ?_
    · intro notComment
      have inTree := places.inTree notComment
      show node.comments ++ after.pendingComments = before.pendingComments
      cases line : node.startsLine with
      | true =>
          rw [(inTree.owns line).1, (inTree.owns line).2, List.append_nil]
      | false =>
          rw [(inTree.passes line).1, (inTree.passes line).2, List.nil_append]
    · have comment := places.comment isComment
      exact ⟨comment.comments, comment.waits⟩
  case owned =>
    rw [nodes]
    refine owners.owned.append ?_ ?_ ?_
    · intro line
      have notComment : node.kind ≠ .comment := by
        intro isComment
        have notLine : node.startsLine = false := startsLine_eq_false_of_comment isComment
        exact Bool.false_ne_true (notLine.symm.trans line)
      show before.pendingComments ⊆ node.comments
      rw [((places.inTree notComment).owns line).1]
      exact List.Subset.refl _
    · intro notLine
      by_cases isComment : node.kind = .comment
      · rw [(places.comment isComment).waits]
        exact List.subset_append_left _ _
      · rw [((places.inTree isComment).passes notLine).2]
        exact List.Subset.refl _
    · intro isComment
      rw [(places.comment isComment).waits]
      exact List.mem_append_right _ (List.mem_singleton_self _)

/-! ## Owners -/

theorem HasOwners.allGathered {builder : Builder} (owners : builder.HasOwners) :
    AllGathered builder.nodes builder.pendingComments := by
  have gathered := owners.gathered
  rw [AllGathered, List.flatMap_map, List.filter_map, List.map_map] at gathered
  exact gathered

/-- No comment has two owners, or an owner and waits. -/
theorem HasOwners.nodup_comments {builder : Builder} (owners : builder.HasOwners)
    (distinct : (builder.nodes.map Node.id).Nodup) :
    (builder.nodes.flatMap Node.comments ++ builder.pendingComments).Nodup := by
  rw [owners.allGathered]
  exact distinct.sublist (List.filter_sublist.map Node.id)

/-- The first node behind a comment that starts a line is its owner. -/
theorem HasOwners.commentOwner?_eq {builder : Builder} (owners : builder.HasOwners)
    {model : Model} (wellFormed : model.IsWellFormed) (sameNodes : model.nodes = builder.nodes)
    {front back : List Node} {comment : Node}
    (split : builder.nodes = front ++ comment :: back)
    (isComment : comment.kind = .comment) :
    model.commentOwner? comment.id = back.find? Node.startsLine := by
  have once := owners.nodup_comments (sameNodes ▸ wellFormed.distinctIds)
  have owned := owners.owned (front.map bare) (bare comment) (back.map bare)
    (by rw [split, List.map_append, List.map_cons]) isComment
  rw [List.find?_map] at owned
  cases found : back.find? Node.startsLine with
  | some owner =>
      have foundBare : back.find? (Node.startsLine ∘ bare) = some owner := found
      rw [foundBare] at owned
      have member : owner ∈ builder.nodes := by
        rw [split]
        exact List.mem_append_right _ (List.mem_cons_of_mem _ (List.mem_of_find?_eq_some found))
      exact wellFormed.commentOwner?_eq_some_iff.mpr ⟨sameNodes ▸ member, owned⟩
  | none =>
      have foundBare : back.find? (Node.startsLine ∘ bare) = none := found
      rw [foundBare] at owned
      rw [Option.eq_none_iff_forall_ne_some]
      intro owner isOwner
      rcases wellFormed.commentOwner?_eq_some_iff.mp isOwner with ⟨member, listed⟩
      rw [sameNodes] at member
      have isListed : comment.id ∈ builder.nodes.flatMap Node.comments :=
        List.mem_flatMap.mpr ⟨owner, member, listed⟩
      exact (List.nodup_append.mp once).2.2 _ isListed _ owned rfl

end StructuralLint.Model.Builder
