import BusPool.Proofs.Pool.Mappings

/-!
# Handles and where they lead

A handle leads to one place of local memory, for as long as there is the pool
(**`handle_translation`**). Whenever a call returns with a block of that handle, the block is mapped
at that place; the place is as far behind the first byte of a granted segment as the handle is
behind the segment's first address; and from then on the index answers with that segment when it is
asked for the handle. Neither a release nor anything that is imported or refused in the meantime
makes a difference.

If the store maps its segments apart, two blocks of different handles have no local byte in common,
whenever calls returned with them; those that are live for two calls, or out at the same time, are
such blocks. The segments that matter are those in the index, and each of them was granted
(`Machine.granted_of_index`).
-/

namespace BusPool.Pool

open AddressMap SegmentIndex

variable {τ : Type} {c : Config} {b : Block}

/-- A handle leads into a grant: it lies behind the first address of the grant as far as the pointer
does behind the first byte, with a whole block. -/
def Block.LeadsInto (c : Config) (b : Block) (g : Grant τ) : Prop :=
  ∃ offset : Word, b.handle.toNat = g.bus.toNat + offset.toNat ∧
    b.pointer = g.mapping.advance offset ∧ offset.toNat + c.blockSize.toNat ≤ g.len.toNat

/-- Two blocks without a local byte in common. -/
def Block.MappedApart (c : Config) (x y : Block) : Prop :=
  ∀ q : Pointer, q.Within x.pointer c.blockSize.toNat → ¬q.Within y.pointer c.blockSize.toNat

/-- What can be relied on of the handles that calls return with in a run. -/
structure Translation (c : Config) (m : Machine τ) (events : List (Event τ)) : Prop where
  /-- Blocks of one handle are mapped at one place, whenever calls returned with them. -/
  fixed : ∀ r ∈ (m.run events).2, ∀ r' ∈ (m.run events).2, ∀ b b' : Block,
    r.next = .returned (.block b) → r'.next = .returned (.block b') → b.handle = b'.handle →
    b.pointer = b'.pointer
  /-- The block of a handle lies in a grant, which stays the owner of the handle. -/
  owned : ∀ r ∈ (m.run events).2, ∀ b : Block, r.next = .returned (.block b) →
    ∃ g ∈ granted (m.run events).2, b.LeadsInto c g ∧
      ∀ later, (m.run (events ++ later)).1.state.index.owner b.handle = .ok (.ofGrant g)
  /-- Blocks that are out at the same time share no local byte if no two grants do. -/
  injective : (granted (m.run events).2).Pairwise Grant.MappedApart →
    (liveBlocks (m.run events).2).Pairwise (Block.MappedApart c)
  /-- Neither do two blocks of different handles, whenever calls returned with them. -/
  handed_injective : (granted (m.run events).2).Pairwise Grant.MappedApart →
    ∀ id id' x y, Machine.HandedTo (m.run events).2 id x → Machine.HandedTo (m.run events).2 id' y →
      x.handle ≠ y.handle → x.MappedApart c y
  /-- Nor do blocks that are live for different calls. -/
  live_injective : (granted (m.run events).2).Pairwise Grant.MappedApart →
    ∀ id id' x y, id ≠ id' → Machine.LiveFor (m.run events).2 id x →
      Machine.LiveFor (m.run events).2 id' y → x.MappedApart c y

namespace Machine

variable {m : Machine τ} {name : String}

/-- **A block that was reserved leads into one grant**, which stays the owner of its handle whatever
happens later. -/
theorem owned_of_taken (created : create name c = .ok m) {events : List (Event τ)}
    (hb : b ∈ takenBlocks (m.run events).2) :
    ∃ g ∈ granted (m.run events).2, b.LeadsInto c g ∧
      ∀ later, (m.run (events ++ later)).1.state.index.owner b.handle = .ok (.ofGrant g) := by
  obtain ⟨hsound, hconfig⟩ := reachable_sound created events
  obtain ⟨x, hx, hlies, howner⟩ := (housed_run created events b hb).exists_fixed_owner
    hsound.tracks.sound.placed (hconfig ▸ hsound.valid)
  refine ⟨x.2.grant, ?_, hlies.exists_offset, fun later => ?_⟩
  · apply granted_of_index created events
    exact mem_grants.2 ⟨x, hx, rfl⟩
  · have hkeeps := hsound.keeps_run later
    rw [run_append]
    exact howner _ (hsound.run later).tracks.sound.placed hkeeps

/-- Blocks of different handles share no local byte if no two grants do. -/
theorem mappedApart_run (created : create name c = .ok m) {events : List (Event τ)}
    (hmapped : (granted (m.run events).2).Pairwise Grant.MappedApart) {x y : Block}
    (hx : x ∈ takenBlocks (m.run events).2) (hy : y ∈ takenBlocks (m.run events).2)
    (hne : x.handle ≠ y.handle) : x.MappedApart c y := by
  obtain ⟨hsound, -⟩ := reachable_sound created events
  intro q hq
  exact not_within_of_mappedApart hmapped hsound.tracks.sound.placed
    (granted_of_index created events) (housed_run created events x hx)
    (housed_run created events y hy) (apart_run created hx hy hne) hq

end Machine

/-- **Handles lead to fixed places**, and blocks that are out to different ones. -/
theorem handle_translation {name : String} {m : Machine τ}
    (created : Machine.create name c = .ok m) (events : List (Event τ)) :
    Translation c m events where
  fixed := by
    intro r hr r' hr' b b' hnext hnext' hhandle
    have hb := Machine.taken_of_returned created hr hnext
    have hb' := Machine.taken_of_returned created hr' hnext'
    rw [Machine.eq_of_handle_run created hb hb' hhandle]
  owned := by
    intro r hr b hnext
    exact Machine.owned_of_taken created (Machine.taken_of_returned created hr hnext)
  injective := by
    intro hmapped
    obtain ⟨hsound, -⟩ := Machine.reachable_sound created events
    apply hsound.tracks.distinct.imp_of_mem
    intro x y hx hy hne
    exact Machine.mappedApart_run created hmapped (taken_of_live hx) (taken_of_live hy) hne
  handed_injective := by
    intro hmapped id id' x y hx hy hne
    exact Machine.mappedApart_run created hmapped (Machine.taken_of_handed created hx)
      (Machine.taken_of_handed created hy) hne
  live_injective := by
    intro hmapped id id' x y hid hx hy
    have hne := (Machine.handsOut_run created events).distinct id id' x y hid hx hy
    exact Machine.mappedApart_run created hmapped (Machine.taken_of_handed created hx.1)
      (Machine.taken_of_handed created hy.1) hne

/-- The lower half of a region of 512 bytes. -/
def lowerHalf : Grant Unit := ⟨⟨65536⟩, 256, ⟨0, 0⟩, ()⟩

/-- The upper half of the region, which is somewhere else on the bus. -/
def upperHalf : Grant Unit := ⟨⟨131072⟩, 256, ⟨0, 256⟩, ()⟩

/-- Two calls return with blocks of one segment; the first block is freed and reserved once more;
and a second segment is imported for one more call. -/
def reuseRun : List (Event Unit) :=
  [.call (.allocate AllocFlags.zero), .advance 0, .granularity 0 256, .reply 0 (.ok lowerHalf),
    .advance 0, .advance 0, .call (.allocate AllocFlags.zero), .advance 1, .advance 1,
    .call (.free ⟨65536⟩), .advance 2, .call (.allocate AllocFlags.zero), .advance 3, .advance 3,
    .call (.allocate AllocFlags.zero), .advance 4, .granularity 4 256, .reply 4 (.ok upperHalf),
    .advance 4, .advance 4]

/-- In that run the first and the fourth call return with the same handle, and the blocks that are
live for the fourth and the fifth, in two segments of one region, share no local byte. Three blocks
are out at its end. -/
theorem handle_translation_of_reuse :
    Machine.create "pool" ⟨96, 32, 256⟩ = .ok samplePool ∧
      (takenBlocks (samplePool.run reuseRun).2).map (fun b => b.handle.toNat) =
        [65536, 65632, 65536, 131072] ∧
      (liveBlocks (samplePool.run reuseRun).2).map (fun b => b.pointer.offset) = [256, 0, 96] ∧
      Translation ⟨96, 32, 256⟩ samplePool reuseRun ∧
      (liveBlocks (samplePool.run reuseRun).2).Pairwise (Block.MappedApart ⟨96, 32, 256⟩) ∧
      Block.MappedApart ⟨96, 32, 256⟩ ⟨⟨0, 0⟩, ⟨65536⟩⟩ ⟨⟨0, 256⟩, ⟨131072⟩⟩ := by
  have htranslation := handle_translation samplePool_created reuseRun
  have hmapped : (granted (samplePool.run reuseRun).2).Pairwise Grant.MappedApart := by
    have hgranted : granted (samplePool.run reuseRun).2 = [lowerHalf, upperHalf] := rfl
    rw [hgranted, List.pairwise_pair]
    exact .inr (.inl (Nat.le_refl 256))
  exact ⟨samplePool_created, by decide +kernel, by decide +kernel, htranslation,
    htranslation.injective hmapped,
    htranslation.live_injective hmapped 3 4 _ _ (by decide) (by decide +kernel) (by decide +kernel)⟩

end BusPool.Pool
