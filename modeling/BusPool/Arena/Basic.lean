import BusPool.AddressMap
import BusPool.Attempt

/-!
# The arena

The arena keeps account of the bus addresses that a pool owns. They come in *spans*, one for each
imported segment. Each byte of a span is either part of a *reserved* block or part of a *free*
extent. All three are kept in maps from the first address to the length; two counters hold the
total length of the spans and of the free extents.

Free extents of one span that touch are always joined into one. Free extents of two spans are
never joined, also where the spans touch on the bus, so that no block is ever placed across two
spans.
-/

namespace BusPool

/-- The extent that a map entry stands for. -/
def extentOf (entry : Address × Word) : Extent := ⟨entry.1, entry.2⟩

/-- The account of a pool's bus addresses. -/
@[ext]
structure Arena where
  /-- Lengths of the spans, by first address. -/
  spans : AddressMap Word
  /-- Lengths of the free extents, by first address. -/
  free : AddressMap Word
  /-- Lengths of the reserved blocks, by first address. -/
  reserved : AddressMap Word
  /-- The total length of the spans. -/
  spanBytes : Word
  /-- The total length of the free extents. -/
  freeBytes : Word

namespace Arena

/-- The arena without spans. -/
def empty : Arena := ⟨.empty, .empty, .empty, 0, 0⟩

/-- The arena without spans is the default one. -/
instance : Inhabited Arena := ⟨empty⟩

/-- How many bytes are reserved. -/
def inUseBytes (a : Arena) : Except Fault Word := Checked.sub a.spanBytes a.freeBytes

/-- The free extents in ascending order. -/
def freeExtents (a : Arena) : List Extent := a.free.entries.map extentOf

/-- Add an empty span, all of it free. It must have bytes, end on the bus, and meet no other span.

Only the neighbours are looked at: spans do not meet each other, so one that meets the new span
at all is next to its first address or includes it. -/
def addSpan (span : Extent) : Attempt Arena Unit := do
  demand (0 < span.len) (.emptySpan span.start)
  demand (Word.add? span.start.word span.len).isSome (.spanWraps span)
  demandApart (((← get).spans.neighbours span.start).map extentOf) span (.spanOverlaps span)
  modify fun a => { a with spans := a.spans.insert span.start span.len }
  modify fun a => { a with free := a.free.insert span.start span.len }
  let spanBytes ← Checked.add (← get).spanBytes span.len
  modify fun a => { a with spanBytes }
  let freeBytes ← Checked.add (← get).freeBytes span.len
  modify fun a => { a with freeBytes }

end Arena

end BusPool
