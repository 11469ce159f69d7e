import BusPool.Proofs.Arena.Histories
import BusPool.Proofs.Pool.Adoption
import BusPool.Proofs.Pool.Agreement
import BusPool.Proofs.Pool.Handover

/-!
# Racing growth loses nothing

Any number of allocations may find a pool full at the same time, and each of them then imports a
segment of its own, whatever the others do in between and in whatever order their grants come in.
As long as the store is honest (**`Machine.Honest`**), **`racing_growth_loses_nothing`** says that

* a call that is granted a segment returns with the block that was reserved for it, and with nothing
  else, as soon as it has carried out two more pieces;
* no call asks for two segments;
* the blocks that are live for different calls have different handles, and so have those that are
  out, among which are the live ones (`Machine.HandsOut`);
* while no grant is on its way, the segments are exactly the grants, and the capacity is their
  total length;
* the bytes in use are those of the blocks that are out, and the other bytes are free.

Nothing is assumed of the callers: they may free whatever they like.
-/

namespace BusPool.Pool

open AddressMap Arena SegmentIndex

variable {τ : Type} {c : Config} {s : State τ} {live : List Block}

namespace State.Tracks

/-- There are as many blocks in the arena as are out. -/
theorem length_reserved (h : s.Tracks c live) : s.arena.reserved.entries.length = live.length := by
  have hkeys : (s.arena.reserved.entries.map Prod.fst).Nodup := by
    rw [List.Nodup, List.pairwise_map]
    apply s.arena.reserved.ordered.imp
    intro x y hlt heq
    rw [heq] at hlt
    exact Nat.lt_irrefl _ hlt
  have hhandles : (live.map Block.handle).Nodup := by
    rw [List.Nodup, List.pairwise_map]
    exact h.distinct
  have hperm : (s.arena.reserved.entries.map Prod.fst).Perm (live.map Block.handle) := by
    rw [List.perm_ext_iff_of_nodup hkeys hhandles]
    intro handle
    rw [List.mem_map, List.mem_map, h.live_iff]
    constructor
    · rintro ⟨r, hr, rfl⟩
      rw [← h.sound.packed.block_len r hr]
      exact hr
    · intro hr
      exact ⟨_, hr, rfl⟩
  have hlen := hperm.length_eq
  rwa [List.length_map, List.length_map] at hlen

/-- The reserved bytes are those of the blocks that are out. -/
theorem total_reserved (h : s.Tracks c live) :
    s.arena.reserved.total = c.blockSize.toNat * live.length := by
  have hsame : s.arena.reserved.entries.map (fun r => r.2.toNat) =
      s.arena.reserved.entries.map fun _ => c.blockSize.toNat := by
    apply List.map_congr_left
    intro r hr
    rw [h.sound.packed.block_len r hr]
  rw [total, hsame, List.map_const', List.sum_replicate_nat, h.length_reserved, Nat.mul_comm]

/-- **What is in use is in blocks that are out**, and what is not is free. -/
theorem exists_inUseBytes (h : s.Tracks c live) : ∃ w, s.arena.inUseBytes = .ok w ∧
    w.toNat = c.blockSize.toNat * live.length ∧
      s.arena.freeBytes.toNat + w.toNat = s.arena.spanBytes.toNat := by
  obtain ⟨w, hw, htotal, hspan⟩ := h.sound.packed.layout.exists_inUseBytes
  exact ⟨w, hw, htotal.trans h.total_reserved, hspan.symm⟩

end State.Tracks

/-- Whether a call is told to ask the store for a segment. -/
def Next.asks : Next τ → Bool
  | goOn (.importing _ _) => true
  | _ => false

/-- A call that is told to ask for a segment has three pieces and answers to go, at most. -/
theorem Next.remaining_of_asks {next : Next τ} (h : next.asks = true) : next.remaining = 3 := by
  cases next with
  | goOn stage =>
    cases stage with
    | importing => rfl
    | _ => cases h
  | returned outcome => cases h

/-- **No call asks for two segments.** -/
theorem Course.asks_le_one {nexts : List (Next τ)} {stage? : Option (Stage τ)}
    (h : Course Stage.Leads nexts stage?) : nexts.countP Next.asks ≤ 1 := by
  have hfalling := h.falling.1.filter Next.asks
  rw [List.countP_eq_length_filter]
  cases hasks : nexts.filter Next.asks with
  | nil => exact Nat.zero_le 1
  | cons first rest =>
    cases rest with
    | nil => exact Nat.le_refl 1
    | cons second rest =>
      have hboth : ∀ next ∈ first :: second :: rest, next.remaining = 3 := by
        intro next hnext
        rw [← hasks] at hnext
        exact Next.remaining_of_asks (List.mem_filter.1 hnext).2
      rw [hasks] at hfalling
      have hlt := (List.pairwise_cons.1 hfalling).1 second List.mem_cons_self
      rw [hboth first (by simp), hboth second (by simp)] at hlt
      exact absurd hlt (Nat.lt_irrefl 3)

namespace Machine

variable {m : Machine τ} {reports : List (Report τ)} {events : List (Event τ)} {id : Nat}
  {granularity : Word} {g : Grant τ}

/-- A call that asks for a segment and is granted one goes on to add it. -/
theorem Supplied.stage?_step {unit limit : Nat}
    (h : Supplied unit limit m reports (.reply id (.ok g))) {flags : AllocFlags} {minSize : Word}
    (hstage : m.stage? id = some (.importing flags minSize)) :
    (m.step (.reply id (.ok g))).1.stage? id = some (.adopting flags g) := by
  simp only [step, h.replied_eq hstage]
  exact (stage?_follow _ id).trans (if_pos rfl)

/-- While no grant is on its way, the segments are the grants. -/
theorem Ledger.perm_extents (h : m.Ledger reports) (hnone : m.pending = []) :
    ((granted reports).map Grant.extent).Perm m.state.index.extents := by
  have haccount := h.account
  rw [hnone, List.nil_append] at haccount
  rw [← map_extent_grants]
  exact haccount.map _

end Machine

/-- The capacity is the total length of the segments, if all of them end on the bus. -/
theorem State.Sound.spanBytes_of_extents (h : s.Sound c)
    (hstop : ∀ e ∈ s.index.extents, e.start.toNat + e.len.toNat < UInt64.size) :
    s.arena.spanBytes.toNat = (s.index.extents.map fun e => e.len.toNat).sum :=
  h.agreement.capacity_eq (h.agreement.agree_iff.2 hstop)

/-- **Racing growth loses nothing**, whatever the number of calls and the order of their pieces and
of the answers of an honest store. -/
theorem racing_growth_loses_nothing {name : String} {m : Machine τ}
    (created : Machine.create name c = .ok m) {granularity : Word}
    (hpow : Word.isPowerOfTwo granularity = true) {events : List (Event τ)}
    (honest : m.Honest granularity events) :
    let reached := (m.run events).1
    let reports := (m.run events).2
    let live := liveBlocks reports
    (∀ front id g back flags minSize, events = front ++ .reply id (.ok g) :: back →
      (m.run front).1.stage? id = some (.importing flags minSize) →
      (∀ r ∈ reports, r.call = id → ∀ outcome, r.next = .returned outcome →
        ∃ b, outcome = .block b ∧ Machine.TakenFor reports id b) ∧
      (2 ≤ back.countP (Event.advances id) → ∃ b, Machine.HandedTo reports id b)) ∧
    (∀ id, (course id reports).countP Next.asks ≤ 1) ∧
    Machine.HandsOut reports ∧
    (live.Pairwise fun x y => x.handle ≠ y.handle) ∧
    ((∀ id flags g, reached.stage? id ≠ some (.adopting flags g)) →
      ((granted reports).map Grant.extent).Perm reached.state.index.extents ∧
      reached.state.arena.spanBytes.toNat = ((granted reports).map fun g => g.len.toNat).sum) ∧
    ∃ w, reached.state.arena.inUseBytes = .ok w ∧
      w.toNat = c.blockSize.toNat * live.length ∧
      reached.state.arena.freeBytes.toNat + w.toNat = reached.state.arena.spanBytes.toNat := by
  intro reached reports live
  obtain ⟨hsound, hconfig⟩ := Machine.reachable_sound created events
  have htracks := hsound.tracks
  rw [hconfig] at htracks
  have hledger := Machine.ledger_run created honest.supplied
  have hnumbered := Machine.numbered_run created events
  have hhands := Machine.handsOut_run created events
  refine ⟨?_, ?_, hhands, htracks.distinct, ?_, htracks.exists_inUseBytes⟩
  · rintro front id g back flags minSize rfl hasked
    have hadopting : (m.run (front ++ [.reply id (.ok g)])).1.stage? id =
        some (.adopting flags g) := by
      rw [Machine.run_concat]
      exact (honest.supplied front _ back rfl).stage?_step hasked
    have hsplit : front ++ .reply id (.ok g) :: back = front ++ [.reply id (.ok g)] ++ back := by
      rw [List.append_assoc, List.singleton_append]
    have htold : .goOn (.adopting flags g) ∈ course id reports := by
      show _ ∈ course id (m.run (front ++ .reply id (.ok g) :: back)).2
      rw [hsplit]
      exact Machine.mem_course_of_stood created back hadopting
    constructor
    · intro r hr hcall outcome hreturned
      obtain ⟨b, rfl⟩ := ((honest.course_grows created hpow id).after_adopting htold).1 outcome
        (mem_course.2 ⟨r, hr, hcall, hreturned⟩)
      exact ⟨b, rfl, hhands.takenFor ⟨r, hr, hcall, Report.given?_eq_some_iff.2 hreturned⟩⟩
    · intro htwice
      rw [hsplit] at honest
      obtain ⟨b, hb⟩ := honest.returned_of_advances created hpow hadopting htwice
      rw [← hsplit] at hb
      obtain ⟨r, hr, hcall, hnext⟩ := mem_course.1 hb
      exact ⟨b, r, hr, hcall, Report.given?_eq_some_iff.2 hnext⟩
  · intro id
    exact (Machine.course_leads created events id).asks_le_one
  · intro hnone
    have hperm := hledger.perm_extents (Machine.pending_eq_nil hnumbered hnone)
    refine ⟨hperm, ?_⟩
    have hstop : ∀ e ∈ reached.state.index.extents, e.start.toNat + e.len.toNat < UInt64.size := by
      intro e he
      obtain ⟨g, hg, rfl⟩ := List.mem_map.1 (hperm.mem_iff.2 he)
      exact (honest.fits created hg).2.2
    rw [htracks.sound.spanBytes_of_extents hstop, ← (hperm.map _).sum_nat, List.map_map]
    rfl

/-- A second segment of 4096 bytes, above the first one. -/
def upperGrant : Grant Unit := ⟨⟨131072⟩, 4096, ⟨1, 0⟩, ()⟩

/-- Two allocations find the pool empty and ask for a segment. The second one is answered first and
is also the first to add its segment. -/
def racingRun : List (Event Unit) :=
  [.call (.allocate AllocFlags.zero), .advance 0, .call (.allocate AllocFlags.zero), .advance 1,
    .granularity 0 4096, .granularity 1 4096, .reply 1 (.ok upperGrant),
    .reply 0 (.ok sampleGrant), .advance 1, .advance 0, .advance 1, .advance 0]

/-- The store is honest in that run. -/
theorem racingRun_honest : samplePool.Honest 4096 racingRun where
  sized := by
    iterate 4
      refine Machine.along_cons.2 ⟨trivial, ?_⟩
    iterate 2
      refine Machine.along_cons.2 ⟨fun _ _ => rfl, ?_⟩
    iterate 6
      refine Machine.along_cons.2 ⟨trivial, ?_⟩
    exact Machine.along_nil
  supplied := by
    iterate 6
      refine Machine.along_cons.2 ⟨trivial, ?_⟩
    refine Machine.along_cons.2 ⟨?_, Machine.along_cons.2 ⟨?_, ?_⟩⟩
    · rintro flags minSize ⟨⟩
      refine ⟨by decide +kernel, by decide +kernel, by decide +kernel, ?_⟩
      intro g hg
      cases hg
    · rintro flags minSize ⟨⟩
      refine ⟨by decide +kernel, by decide +kernel, by decide +kernel, ?_⟩
      intro g hg
      cases List.mem_singleton.1 hg
      exact .inr (by decide +kernel)
    · iterate 4
        refine Machine.along_cons.2 ⟨trivial, ?_⟩
      exact Machine.along_nil

/-- Both allocations of that run return with a block of their own, both segments are there, and two
blocks are in use. -/
theorem racing_growth_of_two :
    let reached := (samplePool.run racingRun).1
    let reports := (samplePool.run racingRun).2
    Machine.create "pool" ⟨96, 32, 256⟩ = .ok samplePool ∧ Word.isPowerOfTwo 4096 = true ∧
      samplePool.Honest 4096 racingRun ∧
      (∃ b, Machine.HandedTo reports 0 b) ∧ (∃ b, Machine.HandedTo reports 1 b) ∧
      (∀ x y, Machine.LiveFor reports 0 x → Machine.LiveFor reports 1 y → x.handle ≠ y.handle) ∧
      Machine.LiveFor reports 0 ⟨⟨0, 0⟩, ⟨65536⟩⟩ ∧ Machine.LiveFor reports 1 ⟨⟨1, 0⟩, ⟨131072⟩⟩ ∧
      [upperGrant.extent, sampleGrant.extent].Perm reached.state.index.extents ∧
      reached.state.arena.spanBytes.toNat = 8192 ∧
      ∃ w, reached.state.arena.inUseBytes = .ok w ∧ w.toNat = 192 := by
  intro reached reports
  have hpow : Word.isPowerOfTwo 4096 = true := rfl
  obtain ⟨hgrants, -, hhands, -, hidle, w, hw, huse, -⟩ :=
    racing_growth_loses_nothing samplePool_created hpow racingRun_honest
  obtain ⟨-, hlower⟩ :=
    hgrants (racingRun.take 7) 0 sampleGrant (racingRun.drop 8) AllocFlags.zero 4096 rfl rfl
  obtain ⟨-, hupper⟩ :=
    hgrants (racingRun.take 6) 1 upperGrant (racingRun.drop 7) AllocFlags.zero 4096 rfl rfl
  have hover : reached.calls = [] := rfl
  obtain ⟨hextents, hcapacity⟩ := hidle fun id flags g hstage => by
    have hmem := Machine.mem_of_stage? hstage
    rw [hover] at hmem
    cases hmem
  exact ⟨samplePool_created, hpow, racingRun_honest, hlower (by decide), hupper (by decide),
    fun x y => hhands.distinct 0 1 x y (by decide), by decide +kernel, by decide +kernel,
    hextents, hcapacity, w, hw, huse⟩

end BusPool.Pool
