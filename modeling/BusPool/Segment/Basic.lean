import BusPool.Attempt

/-!
# Segments

A segment is one contiguous piece of backing memory: an extent of bus addresses and the place
where the same bytes are mapped locally. Both are fixed for the life of the segment, so a bus
address leads to its local byte by its offset alone (**`Segment.pointerTo`**).

Local memory consists of separate regions. A pointer names a byte by its region and its offset
there; pointers into different regions never meet.
-/

namespace BusPool

/-- A local pointer. -/
structure Pointer where
  /-- The region pointed into. -/
  region : Nat
  /-- The offset of the byte in that region. -/
  offset : Nat
deriving DecidableEq, Inhabited, Repr

/-- The pointer `n` bytes further on. -/
def Pointer.advance (p : Pointer) (n : Word) : Pointer := { p with offset := p.offset + n.toNat }

/-- A segment handed over by a backing store. -/
structure Grant (τ : Type) where
  /-- The first bus address. -/
  bus : Address
  /-- The number of bytes. -/
  len : Word
  /-- Where the first byte is mapped. -/
  mapping : Pointer
  /-- What the store knows the segment by. -/
  token : τ

/-- An imported segment. -/
structure Segment (τ : Type) where
  /-- Its bus addresses. -/
  extent : Extent
  /-- Where the first byte is mapped. -/
  mapping : Pointer
  /-- What the store knows the segment by. -/
  token : τ

variable {τ : Type}

/-- The bus addresses of a grant. -/
def Grant.extent (g : Grant τ) : Extent := ⟨g.bus, g.len⟩

/-- The segment that a grant becomes. -/
def Segment.ofGrant (g : Grant τ) : Segment τ := ⟨g.extent, g.mapping, g.token⟩

/-- How far an address lies behind the start of the segment. -/
def Segment.offsetOf (s : Segment τ) (addr : Address) : Except Fault Word :=
  addr.sub s.extent.start

/-- The local pointer to the byte at an address, which must lie in the segment. -/
def Segment.pointerTo (s : Segment τ) (addr : Address) : Except Fault Pointer := do
  demand (s.extent.contains addr) .outsideSegment
  return s.mapping.advance (← s.offsetOf addr)

end BusPool
