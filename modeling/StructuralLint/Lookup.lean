/-!
# Look-up tables

Values by key.  What is recorded last stands first, so a value that is recorded for a key again
takes the place of the earlier one.
-/

namespace StructuralLint

/-- Values by key, latest first. -/
abbrev Lookup (κ α : Type) := List (κ × α)

namespace Lookup

variable {κ α : Type}

/-- The value that was recorded last for a key. -/
def get? [BEq κ] (table : Lookup κ α) (key : κ) : Option α :=
  (table.find? (·.1 == key)).map (·.2)

/-- Records a value for a key. -/
def record (table : Lookup κ α) (key : κ) (value : α) : Lookup κ α :=
  (key, value) :: table

end Lookup

end StructuralLint
