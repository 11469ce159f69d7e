import BusPool.Proofs.Arena.Faults
import BusPool.Proofs.Arena.FirstFit
import BusPool.Proofs.Slots

/-!
# An arena with blocks of one kind

An arena whose blocks all come from reservations with the same parameters is packed: every block
sits in a slot (**`Packed`**). The reason is where gaps start, namely at the start of a span or at
the end of a block. In the first case the lowest place in a gap is the first slot of the span, in
the second it is the slot after that of the block. Whether the neighbours of a gap were
there from the beginning or came later does not matter.

A block fits in a slot without one. A reservation gives the least address that fits, and since this
is again a slot, it is the lowest open slot (**`Packed.outcome_reserve`**).
-/

namespace BusPool.Arena

open AddressMap Attempt

variable {c : Config} {a : Arena}

/-- The slots at which no block starts. -/
def openSlots (c : Config) (a : Arena) : Set Nat :=
  {n ∈ c.slots a.spans | ∀ r ∈ a.reserved.entries, r.1.toNat ≠ n}

/-- An arena with blocks of one kind. -/
structure Packed (c : Config) (a : Arena) : Prop where
  /-- It is laid out as any arena. -/
  layout : a.Layout
  /-- All blocks are of the same size. -/
  block_len : ∀ r ∈ a.reserved.entries, r.2 = c.blockSize
  /-- All blocks are in slots. -/
  block_slot : ∀ r ∈ a.reserved.entries, r.1.toNat ∈ c.slots a.spans

namespace Packed

variable {s t r x : Address × Word} {n : Nat}

/-- The arena without spans is packed. -/
theorem empty (c : Config) : Packed c Arena.empty where
  layout := Layout.empty
  block_len := by intro r hr; cases hr
  block_slot := by intro r hr; cases hr

/-- A block ends one block length after its start. -/
theorem stopOf_block (h : a.Packed c) (hr : r ∈ a.reserved.entries) :
    stopOf r = r.1.toNat + c.blockSize.toNat := by
  rw [stopOf, h.block_len r hr]

/-- A block that shares a byte with a span sits in a slot of that span. -/
theorem slot_of_shared (h : a.Packed c) (hc : c.Valid) (hr : r ∈ a.reserved.entries)
    (hs : s ∈ a.spans.entries) (hrn : Holds r n) (hsn : Holds s n) : c.IsSlot s r.1.toNat := by
  obtain ⟨t, ht, hslot⟩ := h.block_slot r hr
  have hpos := hc.blockSize_pos
  have hfits := hslot.fits
  have hfirst := h.layout.block_home_of_shared hr hs hrn hsn
  have hstop := h.stopOf_block hr
  have hts : Holds t r.1.toNat := ⟨hslot.start_le, by omega⟩
  have hss : Holds s r.1.toNat := ⟨hfirst.1, by omega⟩
  rwa [h.layout.span_eq hs ht hss hts]

/-- **The lowest place in a gap is a slot.** The gap starts where its span does or where a block
ends, which sits in a slot. -/
theorem isSlot_of_gap (h : a.Packed c) (hc : c.Valid) (hs : s ∈ a.spans.entries)
    (hgap : Gap s a.reserved x) (hnext : c.IsNext x.1.toNat n)
    (hfits : n + c.blockSize.toNat ≤ stopOf x) : c.IsSlot s n := by
  have hend := Nat.le_trans hfits hgap.stop_le
  rcases hgap.below with hedge | ⟨r, hr, hrn⟩
  · rw [hedge] at hnext
    exact .first hnext hend
  · have hclear := hgap.clear _ (holds_start hgap.pos)
    have hout : ¬Holds r x.1.toNat := fun hn => hclear ⟨r, hr, hn⟩
    have hstop := h.stopOf_block hr
    -- the block has the byte below the gap and not the first byte of the gap
    have hmeet : r.1.toNat + c.blockSize.toNat = x.1.toNat := by
      unfold Holds at hrn hout
      omega
    by_cases hedge : x.1.toNat = s.1.toNat
    · rw [hedge] at hnext
      exact .first hnext hend
    · have hlow := hgap.start_le
      have hhigh := hgap.stop_le
      have hpos := (holds_start hgap.pos).2
      have hsn : Holds s (x.1.toNat - 1) := ⟨by omega, by omega⟩
      rw [← hmeet] at hnext
      exact (h.slot_of_shared hc hr hs hrn hsn).next hnext hend

/-- The lowest place in a free extent is an open slot. -/
theorem placeIn_mem_openSlots (h : a.Packed c) (hc : c.Valid) (hx : x ∈ a.free.entries)
    {spot : Address} (hplace : placeIn c.blockSize c.align c.boundary x = some spot) :
    spot.toNat ∈ openSlots c a := by
  obtain ⟨hnext, hfits⟩ := (placeIn_eq_some_iff (reservable hc) (h.layout.free_stop hx)).1 hplace
  obtain ⟨s, hs, hgap⟩ := h.layout.free_gap x hx
  refine ⟨⟨s, hs, h.isSlot_of_gap hc hs hgap hnext hfits⟩, fun r hr heq => ?_⟩
  have hpos := hc.blockSize_pos
  have hstop := h.stopOf_block hr
  exact hgap.clear spot.toNat ⟨hnext.le, by omega⟩ ⟨r, hr, by omega, by omega⟩

/-- An open slot is clear of blocks. -/
theorem openSlot_clear (h : a.Packed c) (hn : n ∈ openSlots c a) {i : Nat} (hlow : n ≤ i)
    (hhigh : i < n + c.blockSize.toNat) : ¬a.reserved.Covers i := by
  rintro ⟨r, hr, hri⟩
  have hstop := h.stopOf_block hr
  unfold Holds at hri
  rcases Config.slots_apart h.layout.span_apart (h.block_slot r hr) hn.1 (hn.2 r hr) with hap | hap
  · omega
  · omega

/-- A block fits in an open slot. -/
theorem fits_of_openSlot (h : a.Packed c) (hn : n ∈ openSlots c a) :
    a.Fits c.blockSize c.align c.boundary n := by
  obtain ⟨s, hs, hslot⟩ := hn.1
  refine ⟨hslot.admits.aligned, hslot.admits.uncrossed, ⟨s, hs, hslot.start_le, hslot.fits⟩, ?_⟩
  intro i hlow hhigh
  exact h.openSlot_clear hn hlow hhigh

/-- An open slot lies in one free extent as a whole. -/
theorem free_of_openSlot (h : a.Packed c) (hc : c.Valid) (hn : n ∈ openSlots c a) :
    ∃ x ∈ a.free.entries, x.1.toNat ≤ n ∧ n + c.blockSize.toNat ≤ stopOf x :=
  ((h.layout.fits_iff (reservable hc)).1 (h.fits_of_openSlot hn)).2

/-- The lowest place in the first free extent with one is the lowest open slot. -/
theorem isLeast_of_first (h : a.Packed c) (hc : c.Valid) (hx : x ∈ a.free.entries)
    {spot : Address} (hplace : placeIn c.blockSize c.align c.boundary x = some spot)
    (hlower : ∀ y ∈ a.free.entries, y.1 < x.1 →
      placeIn c.blockSize c.align c.boundary y = none) :
    IsLeast (openSlots c a) spot.toNat := by
  have hleast := h.layout.isLeast_fits (reservable hc) hx hplace hlower
  exact ⟨h.placeIn_mem_openSlots hc hx hplace, fun n hn => hleast.2 (h.fits_of_openSlot hn)⟩

/-- Another block in an open slot leaves the arena packed. -/
theorem insert (h : a.Packed c) {a' : Arena} (hlayout : a'.Layout) {spot : Address}
    (hslot : spot.toNat ∈ c.slots a.spans) (hspans : a'.spans = a.spans)
    (hreserved : a'.reserved = a.reserved.insert spot c.blockSize) : a'.Packed c := by
  refine ⟨hlayout, fun r hr => ?_, fun r hr => ?_⟩
  · rw [hreserved] at hr
    rcases mem_insert.1 hr with rfl | ⟨hr, -⟩
    · rfl
    · exact h.block_len r hr
  · rw [hreserved] at hr
    rw [hspans]
    rcases mem_insert.1 hr with rfl | ⟨hr, -⟩
    · exact hslot
    · exact h.block_slot r hr

/-- **A reservation takes the lowest open slot**, and there is none where it finds no room. -/
theorem outcome_reserve (h : a.Packed c) (hc : c.Valid) :
    ((Arena.reserve c.blockSize c.align c.boundary).outcome a = (.ok none, a) ∧
      openSlots c a = ∅) ∨
    ∃ spot a', (Arena.reserve c.blockSize c.align c.boundary).outcome a = (.ok (some spot), a') ∧
      IsLeast (openSlots c a) spot.toNat ∧ a'.Packed c ∧ a'.spans = a.spans ∧
      a'.reserved = a.reserved.insert spot c.blockSize := by
  rcases h.layout.outcome_reserve (reservable hc) with
    ⟨hrun, hnone⟩ | ⟨x, hx, spot, a', hrun, hplace, hlower, hlayout, hspans, hreserved⟩
  · refine .inl ⟨hrun, Set.eq_empty_of_forall_notMem fun n hn => ?_⟩
    obtain ⟨x, hx, -, spot, -, hplace⟩ :=
      h.layout.exists_placeIn_of_fits (reservable hc) (h.fits_of_openSlot hn)
    rw [hnone x hx] at hplace
    cases hplace
  · have hleast := h.isLeast_of_first hc hx hplace hlower
    exact .inr ⟨spot, a', hrun, hleast, h.insert hlayout hleast.1.1 hspans hreserved, hspans,
      hreserved⟩

/-- A block that goes back leaves the arena packed. -/
theorem outcome_release (h : a.Packed c) {start : Address}
    (hblock : (start, c.blockSize) ∈ a.reserved.entries) :
    ∃ a', (Arena.release start c.blockSize).outcome a = (.ok (), a') ∧ a'.Packed c ∧
      a'.spans = a.spans ∧ a'.reserved = a.reserved.erase start := by
  obtain ⟨a', hrun, hlayout, hspans, hreserved⟩ := h.layout.outcome_release hblock
  refine ⟨a', hrun, ⟨hlayout, fun r hr => ?_, fun r hr => ?_⟩, hspans, hreserved⟩
  · rw [hreserved] at hr
    exact h.block_len r (mem_erase.1 hr).1
  · rw [hreserved] at hr
    rw [hspans]
    exact h.block_slot r (mem_erase.1 hr).1

/-- **A release at an open slot is told to be the second one**, because the whole slot is free. -/
theorem outcome_release_open (h : a.Packed c) (hc : c.Valid) {start : Address}
    (hopen : start.toNat ∈ openSlots c a) :
    ∃ x ∈ a.free.entries, x.1.toNat ≤ start.toNat ∧ start.toNat + c.blockSize.toNat ≤ stopOf x ∧
      (Arena.release start c.blockSize).outcome a =
        (.error (.doubleFree ⟨start, c.blockSize⟩ (extentOf x)), a) := by
  obtain ⟨x, hx, hlow, hhigh⟩ := h.free_of_openSlot hc hopen
  obtain ⟨s, hs, hslot⟩ := hopen.1
  have hpos := hc.blockSize_pos
  refine ⟨x, hx, hlow, hhigh, ?_⟩
  apply h.layout.outcome_release_inside hpos hs ⟨hslot.start_le, hslot.fits⟩
  exact h.layout.demandReserved_of_free hx hlow (by omega) hpos

/-- A new span leaves the arena packed. -/
theorem outcome_addSpan (h : a.Packed c) {span : Extent} (hadd : a.Addable span) :
    ∃ a', (Arena.addSpan span).outcome a = (.ok (), a') ∧ a'.Packed c ∧
      a'.spans = a.spans.insert span.start span.len ∧ a'.reserved = a.reserved := by
  obtain ⟨a', hrun, hlayout, hspans, hreserved⟩ := h.layout.outcome_addSpan hadd
  refine ⟨a', hrun, ⟨hlayout, fun r hr => ?_, fun r hr => ?_⟩, hspans, hreserved⟩
  · rw [hreserved] at hr
    exact h.block_len r hr
  · rw [hreserved] at hr
    obtain ⟨s, hs, hslot⟩ := h.block_slot r hr
    rw [hspans]
    refine ⟨s, mem_insert.2 (.inr ⟨hs, ?_⟩), hslot⟩
    rintro heq
    exact h.layout.span_not_mem hadd s.2 (heq ▸ hs)

end Packed

end BusPool.Arena
