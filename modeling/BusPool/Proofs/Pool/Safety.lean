import BusPool.Proofs.Pool.Homes

/-!
# Safety of blocks

No matter what the store grants, which handles are freed and how calls interleave, blocks that are
live for different calls never share a byte, and every block that a call ever returned with lies in
the extent of exactly one segment, starts at a multiple of the alignment and crosses no multiple of
the boundary (**`blocks_safe`**). The same holds of the blocks that are reserved and not returned
with yet. Two calls may return with one block, but only if its handle was freed after it had been
reserved for one of them; otherwise their blocks lie apart.

Blocks lie apart because they are in slots, and slots lie apart. That there is no second segment
around a block needs a look at segments that reach past the top of the bus: they are indexed with
a shorter extent than they have, but a block is never as far up as the part that is cut off.
-/

namespace BusPool.Pool

open AddressMap SegmentIndex

variable {τ : Type} {c : Config} {s : State τ} {b : Block}

/-- The extents of the index that a block lies in, as a whole. -/
def extentsAround (c : Config) (index : SegmentIndex τ) (b : Block) : List Extent :=
  index.extents.filter fun e => decide (e.start.toNat ≤ b.handle.toNat) &&
    decide (b.handle.toNat + c.blockSize.toNat ≤ e.start.toNat + e.len.toNat)

/-- What can be relied on of the place of one block. -/
structure Block.Safe (c : Config) (index : SegmentIndex τ) (b : Block) : Prop where
  /-- It lies in the extent of one segment, and does so below the end that is cut off. -/
  home : ∃ e, extentsAround c index b = [e] ∧
    b.handle.toNat + c.blockSize.toNat ≤ e.endWord.toNat
  /-- It starts at a multiple of the alignment. -/
  aligned : c.align.toNat ∣ b.handle.toNat
  /-- It crosses no multiple of the boundary. -/
  uncrossed : c.boundary ≠ 0 → b.handle.toNat / c.boundary.toNat =
    (b.handle.toNat + c.blockSize.toNat - 1) / c.boundary.toNat

/-- What can be relied on of the blocks of a pool after these reports: calls are handed blocks of
their own, and these are safe. -/
structure BlocksSafe (c : Config) (index : SegmentIndex τ) (reports : List (Report τ)) : Prop
    extends Machine.HandsOut reports where
  /-- Blocks that are live for different calls share no byte. -/
  live_apart : ∀ id id' x y, id ≠ id' → Machine.LiveFor reports id x →
    Machine.LiveFor reports id' y → x.Apart c y
  /-- Any two blocks that calls ever returned with are one block or share no byte. -/
  handed_apart : ∀ id id' x y, Machine.HandedTo reports id x → Machine.HandedTo reports id' y →
    x = y ∨ x.Apart c y
  /-- No two of the blocks that are reserved share a byte. -/
  out_apart : (liveBlocks reports).Pairwise (Block.Apart c)
  /-- Blocks that are reserved, and all that calls ever returned with, are where they should be. -/
  safe : ∀ b, (b ∈ liveBlocks reports ∨ ∃ id, Machine.HandedTo reports id b) → b.Safe c index

/-- The extents of an index are different from each other. -/
theorem nodup_extents {index : SegmentIndex τ} (h : index.Placed) : index.extents.Nodup := by
  rw [extents, toList, values, List.map_map, List.Nodup, List.pairwise_map]
  refine index.segments.ordered.imp_of_mem fun {x y} hx hy hlt heq => ?_
  have hstart := congrArg Extent.start heq
  simp only [Function.comp_apply, h.start_eq x hx, h.start_eq y hy] at hstart
  rw [hstart] at hlt
  exact Nat.lt_irrefl _ hlt

/-- A list without repetition that has one member is that member. -/
private theorem eq_singleton {α : Type} {xs : List α} {e : α} (hnodup : xs.Nodup) (he : e ∈ xs)
    (hall : ∀ x ∈ xs, x = e) : xs = [e] := by
  cases xs with
  | nil => cases he
  | cons x rest =>
    rw [hall x List.mem_cons_self] at hnodup ⊢
    cases rest with
    | nil => rfl
    | cons y rest =>
      rw [hall y (by simp)] at hnodup
      exact absurd List.mem_cons_self (List.nodup_cons.1 hnodup).1

namespace State.Sound

/-- A block in a slot lies in the extent of one segment. -/
theorem extentsAround_eq (h : s.Sound c) (hc : c.Valid)
    (hslot : b.handle.toNat ∈ c.slots s.arena.spans) :
    ∃ e, extentsAround c s.index b = [e] ∧
      b.handle.toNat + c.blockSize.toNat ≤ e.endWord.toNat := by
  obtain ⟨x, hx, hlow, hhigh⟩ := h.segment_of_slot hslot
  have hpos := hc.blockSize_pos
  have hsize := Word.size_eq
  refine ⟨x.2.extent, ?_, hhigh⟩
  refine eq_singleton ((nodup_extents h.placed).filter _) ?_ ?_
  · have hend := Extent.toNat_endWord x.2.extent
    have hstop : segmentStop x ≤ x.2.extent.start.toNat + x.2.extent.len.toNat := by
      rw [segmentStop, hend]
      exact Nat.min_le_left _ _
    refine List.mem_filter.2 ⟨mem_extents.2 ⟨x, hx, rfl⟩, ?_⟩
    rw [Bool.and_eq_true, decide_eq_true_iff, decide_eq_true_iff, h.placed.start_eq x hx]
    rw [h.placed.start_eq x hx] at hstop
    exact ⟨hlow, Nat.le_trans hhigh hstop⟩
  · intro e he
    obtain ⟨he, haround⟩ := List.mem_filter.1 he
    obtain ⟨y, hy, rfl⟩ := mem_extents.1 he
    rw [Bool.and_eq_true, decide_eq_true_iff, decide_eq_true_iff] at haround
    -- both segments are found at the first address of the block
    have hin : b.handle.toNat < segmentStop y := by
      have hbelow : segmentStop x < UInt64.size := Word.toNat_lt _
      rw [segmentStop, Extent.toNat_endWord]
      omega
    rw [h.placed.start_eq y hy] at haround
    rw [h.placed.apart.eq_of_shared hy hx ⟨haround.1, hin⟩ ⟨hlow, by omega⟩]

/-- A block in a slot is safe. -/
theorem safe_of_slot (h : s.Sound c) (hc : c.Valid)
    (hslot : b.handle.toNat ∈ c.slots s.arena.spans) : b.Safe c s.index := by
  have hhome := h.extentsAround_eq hc hslot
  obtain ⟨x, -, hplaced⟩ := hslot
  exact ⟨hhome, hplaced.admits.aligned, hplaced.admits.uncrossed⟩

end State.Sound

/-- **Blocks are safe in every reachable state.** -/
theorem blocks_safe {name : String} {m : Machine τ} (created : Machine.create name c = .ok m)
    (events : List (Event τ)) :
    BlocksSafe c (m.run events).1.state.index (m.run events).2 := by
  obtain ⟨hsound, hconfig⟩ := Machine.reachable_sound created events
  have htracks := hsound.tracks
  rw [hconfig] at htracks
  have hhands := Machine.handsOut_run created events
  refine ⟨hhands, ?_, ?_, ?_, ?_⟩
  · intro id id' x y hne hx hy
    exact Machine.apart_run created (Machine.taken_of_handed created hx.1)
      (Machine.taken_of_handed created hy.1) (hhands.distinct id id' x y hne hx hy)
  · intro id id' x y hx hy
    exact Machine.eq_or_apart_run created (Machine.taken_of_handed created hx)
      (Machine.taken_of_handed created hy)
  · apply htracks.distinct.imp_of_mem
    intro x y hx hy hne
    exact Machine.apart_run created (taken_of_live hx) (taken_of_live hy) hne
  · intro b hb
    apply htracks.sound.safe_of_slot (hconfig ▸ hsound.valid)
    exact Machine.slots_run created events b (Machine.taken_of_live_or_handed created hb)

/-- A block is reserved for the first allocation, and its handle is freed before that returns with
it. The block is reserved for the next allocation then, and both return with it; a third one returns
with the block behind. -/
def guessedRun : List (Event Unit) :=
  [.call (.allocate AllocFlags.zero), .advance 0, .granularity 0 4096, .reply 0 (.ok sampleGrant),
    .advance 0, .call (.free ⟨65536⟩), .advance 1, .call (.allocate AllocFlags.zero), .advance 2,
    .advance 2, .advance 0, .call (.allocate AllocFlags.zero), .advance 3, .advance 3]

/-- The first block in that run is live for the second allocation only, and the second block, for
the third, lies behind it. -/
theorem blocks_safe_sample :
    let reports := (samplePool.run guessedRun).2
    let lower : Block := ⟨⟨0, 0⟩, ⟨65536⟩⟩
    let upper : Block := ⟨⟨0, 96⟩, ⟨65632⟩⟩
    Machine.create "pool" ⟨96, 32, 256⟩ = .ok samplePool ∧
      Machine.HandedTo reports 0 lower ∧ Machine.FreedSince reports 0 lower ∧
      Machine.LiveFor reports 2 lower ∧ Machine.LiveFor reports 3 upper ∧
      lower.Apart ⟨96, 32, 256⟩ upper ∧
      lower.Safe ⟨96, 32, 256⟩ (samplePool.run guessedRun).1.state.index ∧
      BlocksSafe ⟨96, 32, 256⟩ (samplePool.run guessedRun).1.state.index reports := by
  intro reports lower upper
  have hhanded : Machine.HandedTo reports 0 lower := by decide +kernel
  have hlower : Machine.LiveFor reports 2 lower := by decide +kernel
  have hupper : Machine.LiveFor reports 3 upper := by decide +kernel
  have hsafe := blocks_safe samplePool_created guessedRun
  exact ⟨samplePool_created, hhanded, by decide +kernel, hlower, hupper,
    hsafe.live_apart 2 3 lower upper (by decide) hlower hupper,
    hsafe.safe lower (.inr ⟨0, hhanded⟩), hsafe⟩

end BusPool.Pool
