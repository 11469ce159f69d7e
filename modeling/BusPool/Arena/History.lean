import BusPool.Arena.Release
import BusPool.Arena.Reserve

/-!
# Histories of an arena

What an arena has been through is a list of operations, with any arguments whatever. An operation
that stops at a fault leaves the arena as it is then, and the next one goes on from there.
**`Arena.after`** is the arena that a history leads to.
-/

namespace BusPool.Arena

/-- An operation on an arena. -/
inductive Op where
  /-- Add a span. -/
  | addSpan (span : Extent)
  /-- Reserve a block. -/
  | reserve (size align boundary : Word)
  /-- Release a block. -/
  | release (start : Address) (size : Word)
deriving DecidableEq

/-- Carry out an operation. Only a reservation has an answer, the address or that there is no
room. -/
def Op.perform : Op → Attempt Arena (Option Address)
  | addSpan span => do
    Arena.addSpan span
    return none
  | reserve size align boundary => Arena.reserve size align boundary
  | release start size => do
    Arena.release start size
    return none

/-- The arena after one more operation. -/
def next (a : Arena) (op : Op) : Arena := (op.perform.outcome a).2

/-- The arena after a history that began without spans. -/
def after (history : List Op) : Arena := history.foldl next empty

end BusPool.Arena
