import BusPool.Arena.Basic
import BusPool.Arena.Placement

/-!
# Reserving a block

A block is placed in the lowest free extent that has room for it, at the lowest address there.
What is left of the extent on both sides stays free.
-/

namespace BusPool.Arena

/-- The first free extent in which the block can be placed, and where. -/
def firstFit (size align boundary : Word) : List Extent → Except Fault (Option (Extent × Address))
  | [] => .ok none
  | region :: rest => do
    let limit ← Checked.add region.start.word region.len
    match Placement.lowest? region.start limit size align boundary with
    | some spot => return some (region, spot)
    | none => firstFit size align boundary rest

/-- Take a block out of a free extent that it lies in. -/
def carve (region : Extent) (spot : Address) (size : Word) : Attempt Arena Unit := do
  let regionEnd ← Checked.add region.start.word region.len
  let blockEnd ← Checked.add spot.word size
  modify fun a => { a with free := a.free.erase region.start }
  let head ← spot.sub region.start
  if 0 < head then
    modify fun a => { a with free := a.free.insert region.start head }
  let tail ← Checked.sub regionEnd blockEnd
  if 0 < tail then
    modify fun a => { a with free := a.free.insert ⟨blockEnd⟩ tail }
  modify fun a => { a with reserved := a.reserved.insert spot size }
  let freeBytes ← Checked.sub (← get).freeBytes size
  modify fun a => { a with freeBytes }

/-- Reserve a block: `size` bytes at a multiple of `align` that cross no multiple of `boundary`.
Where nothing fits the answer is `none` and the arena stays as it was. -/
def reserve (size align boundary : Word) : Attempt Arena (Option Address) := do
  demand (0 < size) .zeroSize
  demand (Word.isPowerOfTwo align) .alignNotPowerOfTwo
  demand (boundary == 0 || (Word.isPowerOfTwo boundary && size ≤ boundary)) .badBoundary
  match ← firstFit size align boundary (← get).freeExtents with
  | none => return none
  | some (region, spot) =>
    carve region spot size
    return some spot

end BusPool.Arena
