import BusPool.Segment.Index

/-!
# Segment index scenarios

Steps carried out one after the other on an index that starts out empty. Tokens are numbers, and
all segments are mapped at the same place, so that a local pointer shows as its offset from there.
-/

namespace BusPool.Scenario.Segments

/-- Segments known by a number. -/
abbrev Index := SegmentIndex Nat

/-- One operation. -/
inductive Step where
  /-- Add a segment. -/
  | insert (extent : Extent) (token : Nat)
  /-- Which segment contains the address? -/
  | lookup (addr : Address)
  /-- Which segment contains the address, and where is it mapped? -/
  | owner (addr : Address)
  /-- Where does the owner of `addr` map the address `target`? -/
  | pointerTo (addr target : Address)
  /-- All segments. -/
  | list
  /-- All tokens, and the index is empty afterwards. -/
  | drain
  /-- Something that cannot be carried out. -/
  | unknown

/-- What a step led to. -/
inductive Result where
  /-- It was carried out. -/
  | done
  /-- The segment found. -/
  | found (segment : Option (Segment Nat))
  /-- The owner and an offset in it. -/
  | owned (segment : Segment Nat) (offset : Nat)
  /-- An offset. -/
  | offset (n : Nat)
  /-- All segments. -/
  | all (segments : List (Segment Nat))
  /-- All tokens. -/
  | tokens (tokens : List Nat)
  /-- It was stopped. -/
  | fault (f : Fault)
  /-- It could not be tried. -/
  | badStep

/-- Where every segment is mapped. -/
def home : Pointer := ⟨0, 0⟩

/-- The result of a question that may fault. -/
def Result.ofExcept : Except Fault Result → Result
  | .ok r => r
  | .error f => .fault f

/-- Carry out one step. -/
def step (i : Index) : Step → Result × Index
  | .insert extent token =>
    match (SegmentIndex.insert ⟨extent, home, token⟩).outcome i with
    | (.ok (), i) => (.done, i)
    | (.error f, i) => (.fault f, i)
  | .lookup addr => (.found (i.segmentAt? addr), i)
  | .owner addr =>
    let found : Except Fault Result := do
      let segment ← i.owner addr
      let p ← segment.pointerTo addr
      return .owned segment p.offset
    (.ofExcept found, i)
  | .pointerTo addr target =>
    let found : Except Fault Result := do
      let segment ← i.owner addr
      let p ← segment.pointerTo target
      return .offset p.offset
    (.ofExcept found, i)
  | .list => (.all i.toList, i)
  | .drain =>
    let (segments, i) := SegmentIndex.drain.run i
    (.tokens (segments.map Segment.token), i)
  | .unknown => (.badStep, i)

/-- Carry out steps from an index on: the result of each and the number of segments after it. -/
def runFrom (i : Index) : List Step → List (Result × Nat)
  | [] => []
  | s :: rest =>
    let (result, next) := step i s
    (result, next.size) :: runFrom next rest

/-- Carry out steps on an index that starts out empty. -/
def run (steps : List Step) : List (Result × Nat) := runFrom .empty steps

end BusPool.Scenario.Segments
