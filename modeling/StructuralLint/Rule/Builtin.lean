import StructuralLint.Rule.Arguments
import StructuralLint.Rule.Comments
import StructuralLint.Rule.MagicLiteral
import StructuralLint.Rule.Naming
import StructuralLint.Rule.Navigation
import StructuralLint.Rule.NegatedCondition
import StructuralLint.Rule.Registry
import StructuralLint.Rule.Responsibility
import StructuralLint.Rule.SimilarNames
import StructuralLint.Rule.Size
import StructuralLint.Rule.TemporalCoupling
import StructuralLint.Rule.VerticalSeparation

/-!
# The rules of the library

All rules on nodes, by family, and the registry that holds them.
-/

namespace StructuralLint

/-- All rules on nodes. -/
def Rule.builtin : List Rule :=
  [Rule.longFunction, Rule.deepNesting, Rule.tooManyArguments, Rule.selectorArgument,
    Rule.outputArgument, Rule.queryAndMutate, Rule.mixedAbstraction, Rule.shortName,
    Rule.encodedName, Rule.similarNames, Rule.redundantComment, Rule.commentedOutCode,
    Rule.magicLiteral, Rule.featureEnvy, Rule.transitiveNavigation, Rule.verticalSeparation,
    Rule.temporalCoupling, Rule.negativeConditional]

/-- The registry of all rules on nodes. -/
def Registry.builtin : Registry :=
  ({} : Registry).registerAll Rule.builtin

end StructuralLint
