import BusPool.Proofs.Pool.Homes
import BusPool.Proofs.Pool.Synchronize

/-!
# Which handles can be freed

A release takes a block back exactly if the handle is that of a block which is out
(**`free_accepts_live_only`**). That block alone is then no longer out, and its bytes are free
again. Every other handle, of all there are, stops at a fault before anything has changed.

Of the many ways to be refused one is told apart. A handle that a call has returned with names a
slot, and spans are kept with their slots, so once the block is no longer out the slot is open as a
whole: the fault says that the handle is freed for the second time
(**`State.Tracks.free_again`**). No block is ever placed differently, which could cover a part of
the slot.
-/

namespace BusPool.Pool

open AddressMap Arena

variable {τ : Type} {c : Config} {s s' : State τ} {live : List Block} {handle : Address}

/-! ### What a release changes -/

/-- One state after another in which the block of a handle was taken back. -/
structure State.TakenBack (c : Config) (handle : Address) (s s' : State τ) : Prop where
  /-- The index is what it was. -/
  index_eq : s'.index = s.index
  /-- So are the spans. -/
  spans_eq : s'.arena.spans = s.arena.spans
  /-- The capacity is what it was. -/
  spanBytes_eq : s'.arena.spanBytes = s.arena.spanBytes
  /-- The block is no longer reserved. -/
  reserved_eq : s'.arena.reserved = s.arena.reserved.erase handle
  /-- Its bytes are free. -/
  freeBytes_eq : s'.arena.freeBytes.toNat = s.arena.freeBytes.toNat + c.blockSize.toNat

/-- The counters follow from the spans and the reserved blocks. -/
theorem State.Sound.takenBack (h : s.Sound c) (h' : s'.Sound c)
    (hblock : (handle, c.blockSize) ∈ s.arena.reserved.entries) (hindex : s'.index = s.index)
    (hspans : s'.arena.spans = s.arena.spans)
    (hreserved : s'.arena.reserved = s.arena.reserved.erase handle) : s.TakenBack c handle s' := by
  have hspan := h.packed.layout.spanBytes_eq
  have hspan' := h'.packed.layout.spanBytes_eq
  have hfree := h.packed.layout.freeBytes_eq
  have hfree' := h'.packed.layout.freeBytes_eq
  have htotal := h.packed.layout.total_eq
  have htotal' := h'.packed.layout.total_eq
  have herase := total_erase hblock
  rw [hspans] at hspan' htotal'
  rw [hreserved] at htotal'
  refine ⟨hindex, hspans, UInt64.toNat_inj.1 (hspan'.trans hspan.symm), hreserved, ?_⟩
  omega

namespace State.Tracks

/-- The blocks that are out are one of them and those of other handles. -/
theorem perm_of_mem (h : s.Tracks c live) {b : Block} (hb : b ∈ live) :
    live.Perm (b :: live.filter fun b' => b'.handle ≠ b.handle) := by
  have hnodup : live.Nodup := h.distinct.imp fun hne heq => hne (congrArg Block.handle heq)
  rw [List.perm_ext_iff_of_nodup hnodup]
  · intro b'
    rw [List.mem_cons, List.mem_filter, decide_eq_true_iff]
    constructor
    · intro hb'
      by_cases hhandle : b'.handle = b.handle
      · exact .inl (h.eq_of_handle hb' hb hhandle)
      · exact .inr ⟨hb', hhandle⟩
    · rintro (rfl | ⟨hb', -⟩)
      · exact hb
      · exact hb'
  · refine List.nodup_cons.2 ⟨?_, hnodup.filter _⟩
    simp

/-- **The handle of a block that is out is taken back**, and its bytes are free. -/
theorem free_live (h : s.Tracks c live) (hc : c.Valid) (m : Memory) (name : String)
    (hout : ∃ b ∈ live, b.handle = handle) :
    ∃ s', Stage.free name c s m handle = ⟨s', m, [.freed handle], .returned .done⟩ ∧
      s.TakenBack c handle s' := by
  have hblock := (h.live_iff handle).1 hout
  obtain ⟨s', hrun, hsound, hindex, hspans, hreserved⟩ := h.sound.outcome_freeBlock hc name hblock
  refine ⟨s', ?_, h.sound.takenBack hsound hblock hindex hspans hreserved⟩
  rw [Stage.free, hrun]

/-- **The handle of a slot whose block is not out is told to be freed for the second time.** -/
theorem free_again (h : s.Tracks c live) (hc : c.Valid) (m : Memory) (name : String)
    (hslot : handle.toNat ∈ c.slots s.arena.spans) (hout : ¬∃ b ∈ live, b.handle = handle) :
    ∃ x ∈ s.arena.free.entries, x.1.toNat ≤ handle.toNat ∧
      handle.toNat + c.blockSize.toNat ≤ stopOf x ∧
      Stage.free name c s m handle =
        ⟨s, m, [], .returned (.fault (.doubleFree ⟨handle, c.blockSize⟩ (extentOf x)))⟩ := by
  have hopen : handle.toNat ∈ openSlots c s.arena := by
    rw [h.openSlots_eq]
    refine ⟨hslot, fun b hb heq => ?_⟩
    exact hout ⟨b, hb, Address.toNat_inj.1 heq⟩
  obtain ⟨x, hx, hlow, hhigh, hrun⟩ := h.sound.outcome_freeBlock_open hc name hopen
  refine ⟨x, hx, hlow, hhigh, ?_⟩
  rw [Stage.free, hrun]

end State.Tracks

/-! ### Handles that calls returned with -/

/-- A handle that a call has returned with is that of a block which was reserved. -/
theorem Machine.taken_of_issued {name : String} {m : Machine τ} (created : create name c = .ok m)
    {events : List (Event τ)} (hissued : handle ∈ issued (m.run events).2) :
    ∃ b ∈ takenBlocks (m.run events).2, b.handle = handle := by
  obtain ⟨r, hr, hgiven⟩ := List.mem_filterMap.1 hissued
  split at hgiven
  · rename_i b hnext
    cases hgiven
    exact ⟨b, taken_of_returned created hr hnext, rfl⟩
  · cases hgiven

/-! ### The whole of a release -/

/-- What a release does in a state in which the blocks in `live` are out, where `issued` are the
handles that calls have returned with. -/
structure ReleasesExactly (c : Config) (s : State τ) (live : List Block) (issued : List Address)
    (handle : Address) (r : Report τ) (s' : State τ) (live' : List Block) : Prop where
  /-- It is carried out exactly for the handle of a block that is out. -/
  done_iff : r.next = .returned .done ↔ ∃ b ∈ live, b.handle = handle
  /-- That block alone is then no longer out, and its bytes are free. -/
  accepted : ∀ b ∈ live, b.handle = handle →
    live.Perm (b :: live') ∧ s.TakenBack c handle s'
  /-- Otherwise it stops at a fault and nothing changes. -/
  refused : (¬∃ b ∈ live, b.handle = handle) →
    (∃ f, r.next = .returned (.fault f)) ∧ s' = s ∧ live' = live
  /-- The fault for a handle that calls have returned with is that of a second release, and the
  whole block is free. -/
  again : handle ∈ issued → (¬∃ b ∈ live, b.handle = handle) →
    ∃ x ∈ s.arena.free.entries, x.1.toNat ≤ handle.toNat ∧
      handle.toNat + c.blockSize.toNat ≤ stopOf x ∧
      r.next = .returned (.fault (.doubleFree ⟨handle, c.blockSize⟩ (extentOf x)))

/-- **A release accepts exactly the handles of blocks that are out**, in every reachable state. -/
theorem free_accepts_live_only {name : String} {m : Machine τ}
    (created : Machine.create name c = .ok m) (events : List (Event τ)) :
    let reached := (m.run events).1
    ∀ id handle, reached.stage? id = some (.freeing handle) →
      ∃ r, (reached.step (.advance id)).2 = some r ∧
        ReleasesExactly c reached.state (liveBlocks (m.run events).2) (issued (m.run events).2)
          handle r (m.run (events ++ [.advance id])).1.state
          (liveBlocks (m.run (events ++ [.advance id])).2) := by
  intro reached id handle hstage
  obtain ⟨hsound, hconfig⟩ := Machine.reachable_sound created events
  have hvalid := hsound.valid
  have htracks := hsound.tracks
  rw [hconfig] at hvalid htracks
  let turn := Stage.free reached.name c reached.state reached.memory handle
  have hturn : (Stage.freeing handle).advance? reached.name reached.config reached.state
      reached.memory = some turn := hconfig ▸ rfl
  have hreport : (reached.step (.advance id)).2 = some ⟨id, turn.records, turn.next⟩ := by
    rw [Machine.step_advance hstage hturn]
  have hstate : (m.run (events ++ [.advance id])).1.state = turn.state := by
    rw [Machine.run_concat]
    exact Machine.step_advance_state hstage hturn
  have hlive : liveBlocks (m.run (events ++ [.advance id])).2 =
      (⟨id, turn.records, turn.next⟩ : Report τ).after (liveBlocks (m.run events).2) := by
    rw [Machine.run_concat, hreport]
    exact liveBlocks_concat _ _
  refine ⟨_, hreport, ?_⟩
  rw [hstate, hlive]
  by_cases hout : ∃ b ∈ liveBlocks (m.run events).2, b.handle = handle
  · obtain ⟨s', hrun, htaken⟩ := htracks.free_live hvalid reached.memory reached.name hout
    have hdone : turn = ⟨s', reached.memory, [.freed handle], .returned .done⟩ := hrun
    rw [hdone]
    refine ⟨⟨fun _ => hout, fun _ => rfl⟩, ?_, fun hno => absurd hout hno,
      fun _ hno => absurd hout hno⟩
    rintro b hb rfl
    rw [Report.after_freed]
    exact ⟨htracks.perm_of_mem hb, htaken⟩
  · obtain ⟨f, hrun⟩ := htracks.free_fault reached.memory reached.name hout
    have hfault : turn = ⟨reached.state, reached.memory, [], .returned (.fault f)⟩ := hrun
    rw [hfault, Report.after_eq_self (by simp) (by simp)]
    refine ⟨⟨?_, fun h => absurd h hout⟩, ?_, fun _ => ⟨⟨f, rfl⟩, rfl, rfl⟩, ?_⟩
    · intro hdone
      cases hdone
    · intro b hb heq
      exact absurd ⟨b, hb, heq⟩ hout
    · intro hissued _
      obtain ⟨b, hb, rfl⟩ := Machine.taken_of_issued created hissued
      obtain ⟨x, hx, hlow, hhigh, hagain⟩ := htracks.free_again hvalid reached.memory reached.name
        (Machine.slots_run created events b hb) hout
      exact ⟨x, hx, hlow, hhigh, congrArg Turn.next (hfault.symm.trans hagain)⟩

/-- Two allocations return with their blocks, the first block is freed and its handle is about to
be freed once more. -/
def secondRelease : List (Event Unit) :=
  [.call (.allocate AllocFlags.zero), .advance 0, .granularity 0 4096, .reply 0 (.ok sampleGrant),
    .advance 0, .advance 0, .call (.allocate AllocFlags.zero), .advance 1, .advance 1,
    .call (.free ⟨65536⟩), .advance 2, .call (.free ⟨65536⟩)]

/-- In that run the second block is out and the first handle is one that a call has returned with,
so that the last release stops at the fault for a second one. -/
theorem free_of_freed_handle :
    let reached := (samplePool.run secondRelease).1
    Machine.create "pool" ⟨96, 32, 256⟩ = .ok samplePool ∧
      reached.stage? 3 = some (.freeing ⟨65536⟩) ∧
      issued (samplePool.run secondRelease).2 = [⟨65536⟩, ⟨65632⟩] ∧
      (liveBlocks (samplePool.run secondRelease).2).map Block.handle = [⟨65632⟩] ∧
      ∃ r, (reached.step (.advance 3)).2 = some r ∧ ∃ x, r.next =
        .returned (.fault (.doubleFree ⟨⟨65536⟩, 96⟩ x)) := by
  intro reached
  have hstage : reached.stage? 3 = some (.freeing ⟨65536⟩) := rfl
  have hissued : issued (samplePool.run secondRelease).2 = [⟨65536⟩, ⟨65632⟩] := by
    decide +kernel
  have hlive : (liveBlocks (samplePool.run secondRelease).2).map Block.handle = [⟨65632⟩] := by
    decide +kernel
  obtain ⟨r, hr, hexact⟩ :=
    free_accepts_live_only samplePool_created secondRelease 3 _ hstage
  refine ⟨samplePool_created, hstage, hissued, hlive, r, hr, ?_⟩
  have hout : ¬∃ b ∈ liveBlocks (samplePool.run secondRelease).2, b.handle = ⟨65536⟩ := by
    rintro ⟨b, hb, hhandle⟩
    have hmem := List.mem_map_of_mem (f := Block.handle) hb
    rw [hlive, hhandle] at hmem
    revert hmem
    decide
  obtain ⟨x, -, -, -, hnext⟩ := hexact.again (hissued ▸ List.mem_cons_self) hout
  exact ⟨_, hnext⟩

end BusPool.Pool
