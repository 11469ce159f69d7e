import BusPool.Extent

/-!
# Placing a block

Where in a stretch of addresses can a block start? **`lowest?`** gives the lowest address, and gives
none where the block does not fit. The two rules for blocks are met one after the other. The
first aligned address is tried; if the block would cross a multiple of the boundary there, it
moves up to that multiple, which is aligned as well because the alignment divides the boundary.

Whether a block crosses a multiple of the boundary shows in the bits at and above the boundary:
they differ between its first and its last address.
-/

namespace BusPool.Placement

/-- Whether the first and the last address of a block lie between different multiples of the
boundary, a power of two. -/
def crosses (first last boundary : Word) : Bool := (first ^^^ last) &&& ~~~(boundary - 1) != 0

/-- The lowest multiple of the boundary above an address, unless it is no address. -/
def nextBoundary? (first boundary : Word) : Option Word := Word.add? (first ||| (boundary - 1)) 1

/-- The address, or the next multiple of the boundary where a block here would cross it. A zero
boundary is crossed nowhere. -/
def clearOfBoundary? (first size boundary : Word) : Option Word :=
  if boundary = 0 then some first
  else do
    let last ← Word.add? first (size - 1)
    if crosses first last boundary then nextBoundary? first boundary else some first

/-- The lowest address from `start` on at which a block of `size` bytes is aligned, crosses no
multiple of the boundary, and ends no later than `limit`. -/
def lowest? (start : Address) (limit size align boundary : Word) : Option Address := do
  let aligned := start.roundUp align
  guard (start ≤ aligned)
  let first ← clearOfBoundary? aligned.word size boundary
  let stop ← Word.add? first size
  guard (stop ≤ limit)
  return ⟨first⟩

end BusPool.Placement
