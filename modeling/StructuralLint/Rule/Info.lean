import StructuralLint.Finding
import StructuralLint.Threshold

/-!
# Descriptions of rules

What settings and listings know of a rule: its id, family, description and thresholds.
-/

namespace StructuralLint

/-- The description of a rule that can be configured. -/
structure RuleInfo where
  id : String
  category : Category
  description : String
  thresholds : List Threshold := []

namespace RuleInfo

/-- The threshold of a name. -/
def threshold? (info : RuleInfo) (name : String) : Option Threshold :=
  info.thresholds.find? (·.name == name)

end RuleInfo

end StructuralLint
