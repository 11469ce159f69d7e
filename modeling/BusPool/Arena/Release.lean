import BusPool.Arena.Basic

/-!
# Releasing a block

Only what was reserved can be released: the address must be the first of a reserved block and the
length that of the block. Everything else is a fault, and the fault says as much as can be known.
The bytes of a released block join the free extents they touch, within their span.
-/

namespace BusPool.Arena

/-- The span that holds all addresses from `start` up to `stop`. -/
def spanAround? (a : Arena) (start : Address) (stop : Word) : Option Extent :=
  ((a.spans.floor? start).map extentOf).filter fun span =>
    span.contains start && decide (stop ≤ span.endWord)

/-- Stop unless the extent is a reserved block. An extent that starts no block is being released
twice if it meets free bytes, and lies inside a block otherwise. -/
def demandReserved (a : Arena) (released : Extent) : Except Fault Unit :=
  match a.reserved.get? released.start with
  | some len => demand (len == released.len) (.lengthMismatch released len)
  | none => do
    demandApart ((a.free.neighbours released.start).map extentOf) released
      (.doubleFree released)
    throw (.notBlockStart released)

/-- The free extent that ends where the given one starts, in the same span. -/
def touchingBelow? (a : Arena) (span released : Extent) : Option Extent :=
  ((a.free.floor? released.start).map extentOf).filter fun below =>
    below.endWord == released.start.word && released.start != span.start

/-- The free extent at or above `start` that starts at `stop`, in the same span. -/
def touchingAbove? (a : Arena) (span : Extent) (start : Address) (stop : Word) :
    Option Extent :=
  ((a.free.ceil? start).map extentOf).filter fun above =>
    above.start.word == stop && stop != span.endWord

/-- Remove a free extent that is to become part of a longer one, and add its length. -/
def absorb (len : Word) : Option Extent → Attempt Arena Word
  | none => return len
  | some neighbour => do
    modify fun a => { a with free := a.free.erase neighbour.start }
    Checked.add len neighbour.len

/-- Release the block of `size` bytes at `start`. -/
def release (start : Address) (size : Word) : Attempt Arena Unit := do
  demand (0 < size) .zeroSize
  let some stop := Word.add? start.word size
    | throw (.releaseWraps start size)
  let arena ← get
  let some span := arena.spanAround? start stop
    | throw (.releaseOutside start size)
  let released : Extent := ⟨start, size⟩
  arena.demandReserved released
  let below := arena.touchingBelow? span released
  let above := arena.touchingAbove? span start stop
  modify fun a => { a with reserved := a.reserved.erase start }
  let len ← absorb size below
  let len ← absorb len above
  let first := (below.map Extent.start).getD start
  modify fun a => { a with free := a.free.insert first len }
  let freeBytes ← Checked.add (← get).freeBytes size
  modify fun a => { a with freeBytes }

end BusPool.Arena
