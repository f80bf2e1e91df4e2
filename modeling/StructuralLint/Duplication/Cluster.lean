import StructuralLint.Duplication.Fingerprint
import StructuralLint.Duplication.Forest

/-!
# Clusters of duplicates

Candidates with the same tokens are copies. Copies that lie inside copies of a larger piece are the
same finding, so of those inside one enclosing class only the first counts. Candidates with the same
skeleton and enough common pairs of tokens are similar; similarity is closed under chains.
-/

namespace StructuralLint.Duplication

/-- Items with equal keys, in the order of the keys; equal items stay in the order of the list. -/
def buckets {α : Type} (key : α → UInt64) (items : List α) : List (List α) :=
  (digestSet (items.map key)).map fun digest => items.filter (key · == digest)

/-- Candidates in order of file and start. -/
def sortMembers (members : List Candidate) : List Candidate :=
  members.mergeSort fun left right => left.range.orderByStart right.range != .gt

/-- Whether a range lies strictly inside another. -/
def isStrictlyInside (inner outer : Range) : Bool :=
  !outer.same inner && outer.covers inner

/-- Classes of at least two candidates with the same tokens. -/
def exactClasses (candidates : List Candidate) : List (List Candidate) :=
  (buckets (·.exact) candidates).filter fun members => 2 ≤ members.length

/-- The first class but the own one with a member strictly around a range. -/
def enclosingClass? (classes : List (List Candidate)) (own : Nat) (range : Range) : Option Nat :=
  (List.range classes.length).find? fun index =>
    index != own &&
      (classes[index]?.getD []).any fun member => isStrictlyInside range member.range

/--
Keeps the members without an enclosing class, and of those with one the first of each; `met` are
the enclosing classes of members before.
-/
def collapse (classes : List (List Candidate)) (own : Nat) (met : List Nat) :
    List Candidate → List Candidate
  | [] => []
  | member :: rest =>
      match enclosingClass? classes own member.range with
      | none => member :: collapse classes own met rest
      | some outer =>
          if met.contains outer then collapse classes own met rest
          else member :: collapse classes own (outer :: met) rest

/-- Clusters of copies, each of at least two members in order. -/
def exactClusters (candidates : List Candidate) : List (List Candidate) :=
  let classes := exactClasses candidates
  (classes.mapIdx fun index members => collapse classes index [] (sortMembers members)).filter
    fun kept => 2 ≤ kept.length

/-! ## Similar structure -/

/-- Whether two candidates are linked: their tokens differ, and enough of their pairs are common. -/
def areLinked (threshold : Float) (left right : Candidate) : Bool :=
  left.exact != right.exact && decide (jaccard left.bigrams right.bigrams ≥ threshold)

/-- All pairs of positions, the smaller first. -/
def positionPairs (count : Nat) : List (Nat × Nat) :=
  (List.range count).flatMap fun left =>
    ((List.range count).filter (left < ·)).map fun right => (left, right)

/-- Whether the candidates at two positions are linked. -/
def areLinkedAt (threshold : Float) (members : List Candidate) (left right : Nat) : Bool :=
  match members[left]?, members[right]? with
  | some first, some second => areLinked threshold first second
  | _, _ => false

/-- The forest in which the groups of linked positions are joined, pair by pair. -/
def linkedForest (threshold : Float) (members : List Candidate) : Forest :=
  (positionPairs members.length).foldl
    (fun forest (left, right) =>
      if areLinkedAt threshold members left right then forest.join left right else forest)
    (Forest.discrete members.length)

/--
The groups of at least two candidates that chains of links connect, in order of their first
members.
-/
def linkSimilar (threshold : Float) (members : List Candidate) : List (List Candidate) :=
  let roots := (linkedForest threshold members).roots (List.range members.length)
  let groups := (List.range members.length).map fun root =>
    ((members.zip roots).filter fun (_, own) => own == root).map (·.1)
  groups.filter fun group => 2 ≤ group.length

/--
Groups of candidates with the same skeleton that chains of links connect. Candidates inside
copies are left out.
-/
def similarGroups (candidates : List Candidate) (copies : List Range) (threshold : Float) :
    List (List Candidate) :=
  let eligible := candidates.filter fun candidate =>
    candidate.shape.isSome && !copies.any fun range => range.covers candidate.range
  ((buckets (fun candidate => candidate.shape.getD 0) eligible).filter fun members =>
    2 ≤ members.length).flatMap fun members => linkSimilar threshold (sortMembers members)

/-- Clusters of similar candidates: members strictly inside other members are left out. -/
def similarClusters (candidates : List Candidate) (copies : List Range) (threshold : Float) :
    List (List Candidate) :=
  let groups := similarGroups candidates copies threshold
  let ranges := groups.flatten.map (·.range)
  (groups.map fun members => members.filter fun member =>
    !ranges.any fun range => isStrictlyInside member.range range).filter
    fun kept => 2 ≤ kept.length

end StructuralLint.Duplication
