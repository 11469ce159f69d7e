import BusPool.Pool.Call
import BusPool.Proofs.Arena.Packing
import BusPool.Proofs.Segment.Index

/-!
# Critical sections of a pool

What holds of a pool's state whenever nobody holds the lock (**`State.Sound`**): the arena is
packed with blocks of the pool's size, the segments in the index lie apart, and the spans of the
arena are the extents of those segments that end on the bus.

Each critical section keeps this, also where it stops at a fault. The one that can stop halfway is
the import of a grant (**`Sound.outcome_importGrant`**): a segment that reaches past the top of
the bus is accepted by the index, which cuts its end off, and then refused by the arena.

A block that is claimed lies in a segment of the index and is mapped as that segment is
(**`Block.LiesIn`**).
-/

namespace BusPool.Pool

open AddressMap Attempt Arena SegmentIndex

variable {τ : Type} {c : Config} {s : State τ}

/-! ### Where blocks are mapped -/

/-- A block lies in a segment with all of its bytes, and is mapped as the segment is. -/
structure Block.LiesIn (c : Config) (b : Block) (segment : Segment τ) : Prop where
  /-- It starts in the segment. -/
  start_le : segment.extent.start.toNat ≤ b.handle.toNat
  /-- It ends in the segment. -/
  fits : b.handle.toNat + c.blockSize.toNat ≤ segment.extent.endWord.toNat
  /-- Its first byte is mapped as far behind that of the segment as its handle says. -/
  pointer_eq : b.pointer = ⟨segment.mapping.region,
    segment.mapping.offset + (b.handle.toNat - segment.extent.start.toNat)⟩

/-- A block lies in a segment of an index. -/
def Block.Housed (c : Config) (index : SegmentIndex τ) (b : Block) : Prop :=
  ∃ x ∈ index.segments.entries, b.LiesIn c x.2

namespace State

/-- What a pool keeps, between critical sections. -/
structure Sound (c : Config) (s : State τ) : Prop where
  /-- The arena holds blocks of the pool's size in slots. -/
  packed : s.arena.Packed c
  /-- The segments lie apart. -/
  placed : s.index.Placed
  /-- The spans are the extents of the segments that end on the bus. -/
  span_iff : ∀ x, x ∈ s.arena.spans.entries ↔ stopOf x < UInt64.size ∧
    ∃ segment, (x.1, segment) ∈ s.index.segments.entries ∧ segment.extent.len = x.2

namespace Sound

variable {x : Address × Word} {g : Grant τ}

/-- A pool that has imported nothing is sound. -/
theorem empty (c : Config) : (State.empty : State τ).Sound c where
  packed := Packed.empty c
  placed := Placed.empty
  span_iff := by
    intro x
    constructor
    · intro hx
      cases hx
    · rintro ⟨-, segment, hx, -⟩
      cases hx

/-- A span is the extent of a segment, and ends where that does. -/
theorem segment_of_span (h : s.Sound c) (hx : x ∈ s.arena.spans.entries) :
    ∃ segment, (x.1, segment) ∈ s.index.segments.entries ∧ segment.extent = extentOf x ∧
      segmentStop (x.1, segment) = stopOf x := by
  obtain ⟨hstop, segment, hmem, hlen⟩ := (h.span_iff x).1 hx
  have hextent : segment.extent = extentOf x := Extent.ext (h.placed.start_eq _ hmem) hlen
  refine ⟨segment, hmem, hextent, ?_⟩
  rw [segmentStop, hextent]
  exact toNat_endWord_extentOf hstop

/-! ### Importing a grant -/

/-- A span at the address of a grant overlaps it. -/
private theorem key_ne (h : s.Sound c) (hpos : 0 < g.len.toNat)
    (hclear : ∀ e ∈ s.index.extents, e.overlaps g.extent = false)
    (hx : x ∈ s.arena.spans.entries) : x.1 ≠ g.bus := by
  intro heq
  obtain ⟨segment, hmem, hextent, hstop⟩ := h.segment_of_span hx
  have hfalse := hclear _ (mem_extents.2 ⟨_, hmem, rfl⟩)
  have hlow := (holds_start (h.packed.layout.span_pos x hx)).2
  have hbus := h.packed.layout.span_stop x hx
  have hkey := congrArg Address.toNat heq
  rw [← Bool.not_eq_true] at hfalse
  refine hfalse ((h.placed.overlaps_iff hmem _).2 ⟨?_, ?_⟩)
  · show x.1.toNat < g.extent.endWord.toNat
    rw [Extent.toNat_endWord, hkey]
    show g.bus.toNat < min (g.bus.toNat + g.len.toNat) (UInt64.size - 1)
    omega
  · show g.bus.toNat < segmentStop (x.1, segment)
    omega

/-- A grant that no segment overlaps can be added to the arena if it ends on the bus. -/
theorem addable (h : s.Sound c) (hpos : 0 < g.len.toNat)
    (hclear : ∀ e ∈ s.index.extents, e.overlaps g.extent = false)
    (hstop : g.bus.toNat + g.len.toNat < UInt64.size) : s.arena.Addable g.extent := by
  refine ⟨hpos, hstop, fun x hx => ?_⟩
  obtain ⟨segment, hmem, hextent, -⟩ := h.segment_of_span hx
  rw [← hextent]
  exact hclear _ (mem_extents.2 ⟨_, hmem, rfl⟩)

/-- The segments of an index with a grant added to it. -/
private theorem mem_adding {i : SegmentIndex τ} {k : Address} {segment : Segment τ} :
    (k, segment) ∈ (i.adding (.ofGrant g)).segments.entries ↔
      (k = g.bus ∧ segment = .ofGrant g) ∨ (k, segment) ∈ i.segments.entries ∧ k ≠ g.bus := by
  rw [adding, mem_insert, Prod.mk.injEq]
  exact Iff.rfl

/-- With a grant that ends on the bus, the spans are the extents of the segments as before. -/
private theorem span_iff_added (h : s.Sound c) (hstop : g.bus.toNat + g.len.toNat < UInt64.size) :
    x ∈ (s.arena.spans.insert g.bus g.len).entries ↔ stopOf x < UInt64.size ∧
      ∃ segment, (x.1, segment) ∈ (s.index.adding (.ofGrant g)).segments.entries ∧
        segment.extent.len = x.2 := by
  rw [mem_insert]
  constructor
  · rintro (rfl | ⟨hx, hne⟩)
    · exact ⟨hstop, .ofGrant g, mem_adding.2 (.inl ⟨rfl, rfl⟩), rfl⟩
    · obtain ⟨hlt, segment, hmem, hlen⟩ := (h.span_iff x).1 hx
      exact ⟨hlt, segment, mem_adding.2 (.inr ⟨hmem, hne⟩), hlen⟩
  · rintro ⟨hlt, segment, hmem, hlen⟩
    rcases mem_adding.1 hmem with ⟨hkey, rfl⟩ | ⟨hmem, hne⟩
    · exact .inl (Prod.ext hkey hlen.symm)
    · exact .inr ⟨(h.span_iff x).2 ⟨hlt, segment, hmem, hlen⟩, hne⟩

/-- A grant that reaches past the top of the bus adds no segment that ends on it. -/
private theorem span_iff_wrapped (h : s.Sound c) (hpos : 0 < g.len.toNat)
    (hclear : ∀ e ∈ s.index.extents, e.overlaps g.extent = false)
    (hwraps : UInt64.size ≤ g.bus.toNat + g.len.toNat) :
    x ∈ s.arena.spans.entries ↔ stopOf x < UInt64.size ∧
      ∃ segment, (x.1, segment) ∈ (s.index.adding (.ofGrant g)).segments.entries ∧
        segment.extent.len = x.2 := by
  constructor
  · intro hx
    obtain ⟨hlt, segment, hmem, hlen⟩ := (h.span_iff x).1 hx
    exact ⟨hlt, segment, mem_adding.2 (.inr ⟨hmem, h.key_ne hpos hclear hx⟩), hlen⟩
  · rintro ⟨hlt, segment, hmem, hlen⟩
    rcases mem_adding.1 hmem with ⟨hkey, rfl⟩ | ⟨hmem, -⟩
    · rw [stopOf, hkey, ← hlen] at hlt
      exact absurd hwraps (Nat.not_le.2 hlt)
    · exact (h.span_iff x).2 ⟨hlt, segment, hmem, hlen⟩

/-- **Importing a grant.** A grant that overlaps a segment is refused and changes nothing. Any
other is added to the index, and then to the arena unless it reaches past the top of the bus. -/
theorem outcome_importGrant (h : s.Sound c) (hpos : 0 < g.len.toNat) :
    (∃ f, (importGrant g).outcome s = (.error f, s) ∧
      ∃ e ∈ s.index.extents, e.overlaps g.extent = true) ∨
    (UInt64.size ≤ g.bus.toNat + g.len.toNat ∧
      (∀ e ∈ s.index.extents, e.overlaps g.extent = false) ∧
      (importGrant g).outcome s = (.error (.spanWraps g.extent),
        { s with index := s.index.adding (.ofGrant g) }) ∧
      Sound c { s with index := s.index.adding (.ofGrant g) }) ∨
    (g.bus.toNat + g.len.toNat < UInt64.size ∧
      (∀ e ∈ s.index.extents, e.overlaps g.extent = false) ∧
      ∃ s', (importGrant g).outcome s = (.ok (), s') ∧ s'.Sound c ∧
        s'.index = s.index.adding (.ofGrant g) ∧
        s'.arena.spans = s.arena.spans.insert g.bus g.len ∧
        s'.arena.reserved = s.arena.reserved) := by
  unfold importGrant
  rcases h.placed.outcome_insert (.ofGrant g) hpos with
    ⟨e, he, hoverlap, hrun⟩ | ⟨hclear, hrun, hplaced⟩
  · refine .inl ⟨.segmentOverlaps g.extent e, ?_, e, he, hoverlap⟩
    exact outcome_bind_error (outcome_onPart hrun)
  · right
    have hindex : (onIndex (SegmentIndex.insert (.ofGrant g))).outcome s =
        (.ok (), { s with index := s.index.adding (.ofGrant g) }) := outcome_onPart hrun
    rw [outcome_bind_ok hindex]
    rcases Nat.lt_or_ge (g.bus.toNat + g.len.toNat) UInt64.size with hstop | hwraps
    · obtain ⟨arena, harena, hpacked, hspans, hreserved⟩ :=
        h.packed.outcome_addSpan (h.addable hpos hclear hstop)
      have hsound : Sound c ⟨arena, s.index.adding (.ofGrant g)⟩ :=
        ⟨hpacked, hplaced, fun x => hspans ▸ h.span_iff_added hstop⟩
      exact .inr ⟨hstop, hclear, _, outcome_onPart harena, hsound, rfl, hspans, hreserved⟩
    · have hsound : Sound c { s with index := s.index.adding (.ofGrant g) } :=
        ⟨h.packed, hplaced, fun x => h.span_iff_wrapped hpos hclear hwraps⟩
      have harena : (Arena.addSpan g.extent).outcome s.arena =
          (.error (.spanWraps g.extent), s.arena) := outcome_addSpan_wraps hpos hwraps
      exact .inl ⟨hwraps, hclear, outcome_onPart harena, hsound⟩

/-! ### Claiming a block -/

/-- A slot of a span lies in the segment of that span, with the whole block. -/
theorem segment_of_slot (h : s.Sound c) {n : Nat} (hn : n ∈ c.slots s.arena.spans) :
    ∃ x ∈ s.index.segments.entries, x.1.toNat ≤ n ∧ n + c.blockSize.toNat ≤ segmentStop x := by
  obtain ⟨x, hx, hslot⟩ := hn
  obtain ⟨segment, hmem, -, hstop⟩ := h.segment_of_span hx
  exact ⟨_, hmem, hslot.start_le, hstop ▸ hslot.fits⟩

/-- **Claiming a block** takes the lowest open slot, if there is one, and finds its segment. -/
theorem outcome_claimBlock (h : s.Sound c) (hc : c.Valid) :
    ((claimBlock c).outcome s = (.ok none, s) ∧ openSlots c s.arena = ∅) ∨
    ∃ b s', (claimBlock c).outcome s = (.ok (some b), s') ∧
      IsLeast (openSlots c s.arena) b.handle.toNat ∧ s'.Sound c ∧ s'.index = s.index ∧
      s'.arena.spans = s.arena.spans ∧
      s'.arena.reserved = s.arena.reserved.insert b.handle c.blockSize ∧
      b.Housed c s.index := by
  unfold claimBlock
  rcases h.packed.outcome_reserve hc with
    ⟨hrun, hnone⟩ | ⟨spot, arena, hrun, hleast, hpacked, hspans, hreserved⟩
  · have harena : (onArena (Arena.reserve c.blockSize c.align c.boundary)).outcome s =
        (.ok none, s) := outcome_onPart hrun
    refine .inl ⟨?_, hnone⟩
    rw [outcome_bind_ok harena]
    rfl
  · have harena : (onArena (Arena.reserve c.blockSize c.align c.boundary)).outcome s =
        (.ok (some spot), { s with arena }) := outcome_onPart hrun
    obtain ⟨x, hx, hlow, hhigh⟩ := h.segment_of_slot hleast.1.1
    have hpos := hc.blockSize_pos
    have howner : s.index.owner spot = .ok x.2 := by
      rw [owner_eq_ok_iff, h.placed.segmentAt?_eq_some_iff]
      exact ⟨x, hx, rfl, hlow, by omega⟩
    have hin : demand (x.2.extent.contains spot) .outsideSegment = .ok () :=
      demand_eq_ok.2 ((h.placed.contains_iff hx).2 ⟨hlow, by omega⟩)
    obtain ⟨offset, hoffset, hexact⟩ := Checked.exists_sub (a := spot.word) (b := x.1.word) hlow
    have hpointer : x.2.pointerTo spot = .ok (x.2.mapping.advance offset) := by
      unfold Segment.pointerTo Segment.offsetOf Address.sub
      rw [hin, h.placed.start_eq x hx, hoffset]
      rfl
    have hlies : Block.LiesIn c ⟨x.2.mapping.advance offset, spot⟩ x.2 := by
      have hstart := h.placed.start_eq x hx
      have hdistance : offset.toNat = spot.toNat - x.1.toNat := Nat.eq_sub_of_add_eq' hexact.symm
      refine ⟨hstart ▸ hlow, hhigh, ?_⟩
      rw [hstart, ← hdistance]
      rfl
    refine .inr ⟨⟨x.2.mapping.advance offset, spot⟩, { s with arena }, ?_, hleast,
      ⟨hpacked, h.placed, ?_⟩, rfl, hspans, hreserved, x, hx, hlies⟩
    · rw [outcome_bind_ok harena]
      simp only [outcome_get_bind, howner, hpointer, outcome_ok_bind, outcome_pure]
    · intro y
      rw [← h.span_iff y, hspans]

/-! ### Taking a block back -/

/-- The address of a slot is one that the check for alignment lets through. -/
theorem outcome_freeBlock_of_slot (hc : c.Valid) (name : String) {handle : Address}
    {spans : AddressMap Word} (hslot : handle.toNat ∈ c.slots spans) :
    (Stage.freeBlock name c handle).outcome s = (giveBack c handle).outcome s := by
  obtain ⟨x, -, hslot⟩ := hslot
  have haligned : handle.isMultipleOf c.align = true :=
    (Address.isMultipleOf_iff hc.align_pow).2 hslot.admits.aligned
  have hpow : demand (Word.isPowerOfTwo c.align) .alignNotPowerOfTwo = .ok () :=
    demand_eq_ok.2 hc.align_pow
  have hcheck : handle.isAligned c.align = .ok true := by
    rw [Address.isAligned, hpow, ← haligned]
    rfl
  have hmet : demand true (.misalignedFree name handle) = .ok () := rfl
  unfold Stage.freeBlock
  rw [hcheck, outcome_ok_bind, hmet, outcome_ok_bind]

/-- Taking a block back from a handle that is one. -/
theorem outcome_freeBlock (h : s.Sound c) (hc : c.Valid) (name : String) {handle : Address}
    (hblock : (handle, c.blockSize) ∈ s.arena.reserved.entries) :
    ∃ s', (Stage.freeBlock name c handle).outcome s = (.ok (), s') ∧ s'.Sound c ∧
      s'.index = s.index ∧ s'.arena.spans = s.arena.spans ∧
      s'.arena.reserved = s.arena.reserved.erase handle := by
  obtain ⟨arena, hrun, hpacked, hspans, hreserved⟩ := h.packed.outcome_release hblock
  refine ⟨{ s with arena }, ?_, ⟨hpacked, h.placed, ?_⟩, rfl, hspans, hreserved⟩
  · have harena : (onArena (Arena.release handle c.blockSize)).outcome s =
        (.ok (), { s with arena }) := outcome_onPart hrun
    rw [outcome_freeBlock_of_slot hc name (h.packed.block_slot _ hblock)]
    exact harena
  · intro y
    rw [← h.span_iff y, hspans]

/-- **A handle whose slot is open is told to be freed for the second time**, because the whole slot
is free. Nothing changes. -/
theorem outcome_freeBlock_open (h : s.Sound c) (hc : c.Valid) (name : String) {handle : Address}
    (hopen : handle.toNat ∈ openSlots c s.arena) :
    ∃ x ∈ s.arena.free.entries, x.1.toNat ≤ handle.toNat ∧
      handle.toNat + c.blockSize.toNat ≤ stopOf x ∧
      (Stage.freeBlock name c handle).outcome s =
        (.error (.doubleFree ⟨handle, c.blockSize⟩ (extentOf x)), s) := by
  obtain ⟨x, hx, hlow, hhigh, hrun⟩ := h.packed.outcome_release_open hc hopen
  have harena : (onArena (Arena.release handle c.blockSize)).outcome s =
      (.error (.doubleFree ⟨handle, c.blockSize⟩ (extentOf x)), s) := outcome_onPart hrun
  refine ⟨x, hx, hlow, hhigh, ?_⟩
  rw [outcome_freeBlock_of_slot hc name hopen.1]
  exact harena

end Sound

/-- A handle that is none of a block is refused, whatever the state, and nothing changes. -/
theorem outcome_freeBlock_fault (name : String) {handle : Address}
    (hblock : (handle, c.blockSize) ∉ s.arena.reserved.entries) :
    ∃ f, (Stage.freeBlock name c handle).outcome s = (.error f, s) := by
  unfold Stage.freeBlock
  cases handle.isAligned c.align with
  | error f => exact ⟨f, outcome_error_bind⟩
  | ok aligned =>
    rw [outcome_ok_bind]
    cases demand aligned (.misalignedFree name handle) with
    | error f => exact ⟨f, outcome_error_bind⟩
    | ok =>
      obtain ⟨f, hrun⟩ := outcome_release_fault hblock
      have harena : (onArena (Arena.release handle c.blockSize)).outcome s = (.error f, s) :=
        outcome_onPart hrun
      rw [outcome_ok_bind]
      exact ⟨f, harena⟩

end State

end BusPool.Pool
