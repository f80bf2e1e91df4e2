/-!
# Breakdowns

Some work on a file yields nothing at all: a number that grows beyond its bits stops the whole
program, and a walk that goes in circles never ends.  No rule can be blamed for it and no finding is
left of it, so a breakdown is passed on by everything that waits for the work.
-/

namespace StructuralLint

/-- Why some work on a file yields nothing. -/
inductive Breakdown where
  /-- A number grows beyond its bits. -/
  | overflow
  /-- A walk never ends. -/
  | endless
deriving DecidableEq, Repr

variable {α β : Type}

/-- What some items yield, one after another, unless the work on one of them breaks down. -/
def gather (yields : α → Except Breakdown (List β)) : List α → Except Breakdown (List β)
  | [] => .ok []
  | item :: rest => do
    let first ← yields item
    let others ← gather yields rest
    return first ++ others

end StructuralLint
