import StructuralLint.Rule.Info

/-!
# Rules on duplication

Descriptions of the rules that look at all files together.
-/

namespace StructuralLint.Duplication

/-- The id of findings on copies. -/
def duplicateCodeId : String := "DuplicateCode"

/-- The id of findings on code of the same structure. -/
def similarStructureId : String := "SimilarStructure"

/-- The id of findings on repeated conditions. -/
def duplicateConditionalId : String := "DuplicateConditional"

/-- The least number of branches of a repeated conditional. -/
def minChainLength : Threshold := .count "minChainLength" 2

/-- The rules on duplication. -/
def catalog : List RuleInfo :=
  [{ id := duplicateCodeId
     category := .duplication
     description := "Detects functions and blocks that are copies of each other" },
    { id := similarStructureId
      category := .duplication
      description := "Detects code with the same control flow but different surface tokens" },
    { id := duplicateConditionalId
      category := .duplication
      description := "Detects the same if/else or switch chain repeated across functions"
      thresholds := [minChainLength] }]

end StructuralLint.Duplication
