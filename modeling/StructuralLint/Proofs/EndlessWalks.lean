import Mathlib.Data.Option.Basic
import StructuralLint.Proofs.Cycles
import StructuralLint.Rule.Comments

/-!
# Rules on walks that may not end

Rules follow parents and child lists from the nodes that they look at.  From a node that is no
comment both walks end, so that the cut after as many levels as there are nodes loses nothing.  One
rule walks down from comments: the rule on redundant comments starts at the owner of a comment, and
it never ends exactly where that walk does not.
-/

namespace StructuralLint

namespace Model.IsWellFormed

variable {model : Model} (wellFormed : model.IsWellFormed)

include wellFormed

/-- From a node that is no comment the walks yield the ancestors and the subtree. -/
theorem walks_eq_some_of_ne_comment {node : Node}
    (member : node ∈ model.nodes)
    (notComment : node.kind ≠ .comment) :
    model.ancestors? node.id = some (model.ancestors node.id) ∧
      model.descendants? node.id = some (model.descendants node.id) := by
  rcases wellFormed.walks_end_of_reachable (wellFormed.reachable node member notComment) with
    ⟨up, down⟩
  exact ⟨(ancestors?_eq_some_iff wellFormed).mpr ⟨up, rfl⟩,
    wellFormed.descendants?_eq_some_iff.mpr ⟨down, rfl⟩⟩

/-- The walk down is missing where it does not end. -/
theorem descendants?_eq_none_iff {id : NodeId} :
    model.descendants? id = none ↔ ¬ model.WalkDownEnds id := by
  rw [Option.eq_none_iff_forall_ne_some]
  constructor
  · intro missing ends
    exact missing _ (wellFormed.descendants?_eq_some_iff.mpr ⟨ends, rfl⟩)
  · intro endless walk found
    exact endless (wellFormed.descendants?_eq_some_iff.mp found).1

end Model.IsWellFormed

namespace Rule

theorem Comments.commentOwner?_of_worded? {context : Context} {node owner : Node}
    {words : List String}
    (worded : worded? context node = some (owner, words)) :
    context.model.commentOwner? node.id = some owner := by
  simp only [worded?, Option.bind_eq_bind, Option.bind_eq_some_iff, Option.pure_def,
    Option.some.injEq, Prod.mk.injEq] at worded
  rcases worded with ⟨_, _, _, _, _, isOwner, _, _, _, _, rfl, _⟩
  exact isOwner

/--
The rule on redundant comments never ends at a comment whose words it compares with those below an
owner from which the walk down does not end, and nowhere else.
-/
theorem redundantComment_eq_endless_iff {context : Context} {node : Node}
    (wellFormed : context.model.IsWellFormed) :
    redundantComment.evaluate context node = .error .endless ↔
      ∃ owner words,
        Comments.worded? context node = some (owner, words) ∧
          ¬ context.model.WalkDownEnds owner.id := by
  have codeless_iff {owner : Node} (member : owner ∈ context.model.nodes) :
      Comments.codeWords? context.model owner = none ↔
        ¬ context.model.WalkDownEnds owner.id := by
    rw [Comments.codeWords?, Option.map_eq_none_iff, Comments.namesBelow?]
    split
    next signature =>
      -- Signatures belong to nodes from which the walk ends, although nobody takes it.
      have notComment : owner.kind ≠ .comment := by
        intro isComment
        rw [isComment] at signature
        cases signature
      have hangs := wellFormed.reachable owner member notComment
      exact iff_of_false nofun (not_not_intro (wellFormed.walks_end_of_reachable hangs).2)
    next => rw [Option.map_eq_none_iff, wellFormed.descendants?_eq_none_iff]
  simp only [redundantComment]
  cases worded : Comments.worded? context node with
  | none => simp
  | some found =>
      rcases found with ⟨owner, words⟩
      have isOwner := Comments.commentOwner?_of_worded? worded
      have member := (wellFormed.commentOwner?_eq_some_iff.mp isOwner).1
      have only :
          (∃ other otherWords,
            some (owner, words) = some (other, otherWords) ∧
              ¬ context.model.WalkDownEnds other.id) ↔
            ¬ context.model.WalkDownEnds owner.id := by
        simp
      simp only [only, ← codeless_iff member]
      cases Comments.codeWords? context.model owner <;> simp

end Rule

end StructuralLint
