import BusPool.Segment.Index

/-!
# Histories of a segment index

What an index has been through is the list of segments that it was offered, with any extents
whatever. A segment that is refused leaves the index as it is then, and the next one is offered to
that. **`SegmentIndex.Intake.after`** is what a history leads to: the index, and which of the
segments were taken in.
-/

namespace BusPool.SegmentIndex

/-- An index and the segments that were inserted into it. -/
structure Intake (τ : Type) where
  /-- The index. -/
  index : SegmentIndex τ
  /-- The segments whose insertion was carried out, in order. -/
  accepted : List (Segment τ)

namespace Intake

variable {τ : Type}

/-- Offer one more segment. -/
def offer (t : Intake τ) (segment : Segment τ) : Intake τ :=
  match (insert segment).outcome t.index with
  | (.ok (), index) => ⟨index, t.accepted ++ [segment]⟩
  | (.error _, index) => ⟨index, t.accepted⟩

/-- What a history leads to that began with an empty index. -/
def after (history : List (Segment τ)) : Intake τ := history.foldl offer ⟨.empty, []⟩

end Intake

end BusPool.SegmentIndex
