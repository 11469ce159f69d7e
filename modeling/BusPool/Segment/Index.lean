import BusPool.AddressMap
import BusPool.Segment.Basic

/-!
# The segment index

The index holds the segments of a pool by their first address and answers which one an address
belongs to. It looks at a single candidate, the highest segment that starts at or below the
address. **`SegmentIndex.scan?`** is the same question asked of every segment in turn; the two
agree as long as the segments do not meet, which insertion sees to.
-/

namespace BusPool

/-- Segments by first address. -/
@[ext]
structure SegmentIndex (τ : Type) where
  /-- The segments, each at the first address of its extent. -/
  segments : AddressMap (Segment τ)

namespace SegmentIndex

variable {τ : Type}

/-- The index without segments. -/
def empty : SegmentIndex τ := ⟨.empty⟩

/-- The empty index is the default one. -/
instance : Inhabited (SegmentIndex τ) := ⟨empty⟩

/-- How many segments there are. -/
def size (i : SegmentIndex τ) : Nat := i.segments.size

/-- The segments in ascending order. -/
def toList (i : SegmentIndex τ) : List (Segment τ) := i.segments.values

/-- Their extents in ascending order. -/
def extents (i : SegmentIndex τ) : List Extent := i.toList.map Segment.extent

/-- Add a segment that meets none of its neighbours. -/
def insert (segment : Segment τ) : Attempt (SegmentIndex τ) Unit := do
  let neighbours := (← get).segments.neighbours segment.extent.start
  demandApart (neighbours.map fun entry => entry.2.extent) segment.extent
    (.segmentOverlaps segment.extent)
  modify fun i => ⟨i.segments.insert segment.extent.start segment⟩

/-- The segment that contains an address. -/
def segmentAt? (i : SegmentIndex τ) (addr : Address) : Option (Segment τ) :=
  ((i.segments.floor? addr).map Prod.snd).filter fun segment => segment.extent.contains addr

/-- The first segment, of all, that contains an address. -/
def scan? (i : SegmentIndex τ) (addr : Address) : Option (Segment τ) :=
  i.toList.find? fun segment => segment.extent.contains addr

/-- The segment that contains an address, which must exist. -/
def owner (i : SegmentIndex τ) (addr : Address) : Except Fault (Segment τ) :=
  (i.segmentAt? addr).elim (.error (.noOwner addr)) .ok

/-- The owner of an address is the segment found at it. -/
theorem owner_eq_ok_iff {i : SegmentIndex τ} {addr : Address} {s : Segment τ} :
    i.owner addr = .ok s ↔ i.segmentAt? addr = some s := by
  unfold owner
  cases i.segmentAt? addr <;> simp

/-- The segments in ascending order, taken out of the index. -/
def drain : StateM (SegmentIndex τ) (List (Segment τ)) := do
  let i ← get
  set (empty : SegmentIndex τ)
  return i.toList

end SegmentIndex

end BusPool
