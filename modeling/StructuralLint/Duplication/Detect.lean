import StructuralLint.Duplication.Catalog
import StructuralLint.Duplication.Cluster
import StructuralLint.Rule.Basic

/-!
# Findings on duplication

Every member of a cluster is reported and relates to all others.
-/

namespace StructuralLint.Duplication

/-- The ranges of a list but the one at a position. -/
def othersThan (ranges : List Range) (position : Nat) : List Range :=
  ranges.eraseIdx position

/--
One violation for each of some ranges, related to the others. The message is given the position
and the number of others.
-/
def perMember (ranges : List Range) (ruleId : String) (severity : Severity)
    (message : Nat → Nat → String) : List Violation :=
  ranges.mapIdx fun position range =>
    { ruleId
      severity
      range
      message := message position (ranges.length - 1)
      related := othersThan ranges position }

/-- A candidate in words. -/
def describe (candidate : Candidate) : String :=
  match candidate.kind, candidate.name with
  | .function, some name => "Function " ++ Rule.quoted name
  | _, _ => "Block of " ++ toString candidate.statements ++ " statements"

/-- The candidate at a position in words. -/
def describeAt (members : List Candidate) (position : Nat) : String :=
  (members[position]?.map describe).getD ""

/-- The findings on a cluster of copies. -/
def duplicateCode (members : List Candidate) : List Violation :=
  perMember (members.map (·.range)) duplicateCodeId .medium fun position others =>
    describeAt members position ++ " is duplicated in " ++ toString others ++ " other location" ++
      Rule.plural others ++ "; extract the shared code"

/-- The findings on a cluster of similar candidates. -/
def similarStructure (members : List Candidate) : List Violation :=
  perMember (members.map (·.range)) similarStructureId .low fun position others =>
    describeAt members position ++ " follows the same algorithm as " ++ toString others ++
      " other location" ++ Rule.plural others ++
      " with different names or values; consider a shared abstraction"

/-- Chains in order of file and start. -/
def sortChains (chains : List Chain) : List Chain :=
  chains.mergeSort fun left right => left.range.orderByStart right.range != .gt

/-- Whether the chains lie in at least two functions. -/
def crossesFunctions (chains : List Chain) : Bool :=
  match chains with
  | [] => false
  | first :: rest => rest.any fun chain => !chain.owner.same first.owner

/-- The findings on chains with the same predicates. -/
def repeatedChains (chains : List Chain) : List Violation :=
  let members := sortChains chains
  perMember (members.map (·.range)) duplicateConditionalId .medium fun position others =>
    "The same " ++ toString ((members[position]?.map (·.branches)).getD 0) ++
      "-branch conditional appears in " ++ toString others ++ " other place" ++
      Rule.plural others ++ "; replace it with polymorphism or a lookup"

/-- The findings on conditionals that are repeated across functions. -/
def duplicateConditionals (chains : List Chain) (minLength : Nat) : List Violation :=
  let eligible := chains.filter fun chain => max minLength 1 ≤ chain.branches
  ((buckets (·.key) eligible).filter crossesFunctions).flatMap repeatedChains

/-- The findings on duplication in some files, for the rules that are on. -/
def detect (files : List Fingerprints) (settings : ResolvedSettings) : List Violation :=
  let candidates := files.flatMap (·.candidates)
  let exact := exactClusters candidates
  let copies := exact.flatten.map (·.range)
  let minLength :=
    ((settings.threshold? duplicateConditionalId minChainLength.name).getD
      minChainLength.default).toUInt64.toNat
  (if settings.isEnabled duplicateCodeId then exact.flatMap duplicateCode else []) ++
    (if settings.isEnabled similarStructureId then
      (similarClusters candidates copies settings.duplicationSimilarityThreshold).flatMap
        similarStructure
    else []) ++
    (if settings.isEnabled duplicateConditionalId then
      duplicateConditionals (files.flatMap (·.chains)) minLength
    else [])

end StructuralLint.Duplication
