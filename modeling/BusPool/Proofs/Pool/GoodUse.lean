import BusPool.Proofs.Pool.Custody
import BusPool.Proofs.Pool.Homes
import BusPool.Proofs.Pool.Teardown

/-!
# Good use meets no fault

Every check that a pool makes, of its callers, of its store and of itself, stops the call at a
fault when it fails. **`good_use_faultless`** says that none of them ever fails as long as

* the size to ask the store for can be computed with its granularity,
* the store names that granularity, and what it grants is as long as was asked for, ends on the bus
  and lies apart from what it granted before, and
* blocks are out when they are taken back, and synchronisations are for blocks that were handed out
  and do not mix the phases (**`Machine.WellUsed`**).

Callers see to the last of these if they ask only for what they hold (**`Machine.Considerate`**), so
that no fault meets them either (**`considerate_use_faultless`**).

The bytes in use can be told at any time then, the segment of a block is found at any time, and
closing the pool comes to its end. The store may start its segments anywhere: an allocation may
find no room in a segment for want of alignment, but this is no fault.
-/

namespace BusPool.Pool

open SegmentIndex

variable {τ : Type} {c : Config} {b : Block}

namespace Machine

variable {m : Machine τ} {reports : List (Report τ)} {events : List (Event τ)} {live : List Block}
  {granularity : Word} {g : Grant τ} {flags : AllocFlags} {f : Fault}

/-- Blocks are out when they are taken back, and synchronisations are of one phase and for blocks
that were reserved. -/
def WellUsed (m : Machine τ) (reports : List (Report τ)) : Event τ → Prop
  | .advance id =>
    (∀ handle, m.stage? id = some (.freeing handle) →
      ∃ b ∈ liveBlocks reports, b.handle = handle) ∧
    ∀ handle ops, m.stage? id = some (.resolving handle ops) → ops.hasBothPhases = false ∧
      ∃ b ∈ takenBlocks reports, b.handle = handle
  | _ => True

/-- Callers ask only for what they hold, and never for both phases of a synchronisation. -/
def Considerate (_ : Machine τ) (reports : List (Report τ)) : Event τ → Prop
  | .call (.free handle) => ∃ b ∈ heldBlocks reports, b.handle = handle
  | .call (.synchronize handle ops) => ops.hasBothPhases = false ∧
    ∃ b ∈ heldBlocks reports, b.handle = handle
  | _ => True

/-- **Considerate callers use a pool well.** -/
theorem wellUsed_of_considerate {name : String} (created : create name c = .ok m)
    (considerate : m.Along Considerate events) : m.Along WellUsed events := by
  rintro front e back rfl
  have hfront := considerate.front
  have entitled : m.Along Entitled front := by
    rintro before e after rfl
    have := hfront before e after rfl
    cases e with
    | call request =>
      cases request with
      | free handle => exact this
      | _ => trivial
    | _ => trivial
  cases e with
  | advance id =>
    constructor
    · intro handle hstage
      exact (custody_run created entitled).live_of_freeing hstage
    · intro handle ops hstage
      obtain ⟨r, hr, -, hnext⟩ := mem_course.1 (mem_course_of_stage? created hstage)
      obtain ⟨before, e, after, rfl, hreport⟩ := exists_event_of_report hr
      have hcall : e = .call (.synchronize handle ops) := call_of_started hreport hnext
      have hasked := hfront before e after rfl
      rw [hcall] at hasked
      obtain ⟨hphases, b, hb, hhandle⟩ := hasked
      obtain ⟨r', hr', hreturned⟩ := returned_of_gathered hb
      refine ⟨hphases, b, taken_of_returned created ?_ hreturned, hhandle⟩
      rw [run_append]
      exact List.mem_append_left _ hr'
  | _ => trivial

/-! ### One piece at a time -/

/-- A first try for a block meets no fault. -/
theorem Sound.reserve_faultless (h : m.Sound live) (flags : AllocFlags) (f : Fault) :
    (Stage.reserve m.config m.state m.memory flags).next ≠ .returned (.fault f) := by
  rcases h.tracks.reserve h.valid m.memory flags with ⟨hrun, -⟩ | ⟨b, s', hrun, -⟩ <;>
    rw [hrun] <;> exact fun hnext => nomatch hnext

/-- The adoption of a grant meets no fault if it overlaps no segment and ends on the bus. -/
theorem Sound.adopt_faultless (h : m.Sound live) (hpos : 0 < g.len.toNat)
    (hclear : ∀ e ∈ m.state.index.extents, e.overlaps g.extent = false)
    (hstop : g.bus.toNat + g.len.toNat < UInt64.size) (flags : AllocFlags) (f : Fault) :
    (Stage.adopt m.config m.state m.memory flags g).next ≠ .returned (.fault f) := by
  rcases h.tracks.adopt h.valid m.memory flags hpos with
    ⟨-, -, e, he, hoverlap⟩ | ⟨hwraps, -⟩ |
    ⟨-, -, t, -, -, -, ⟨hrun, -⟩ | ⟨b, s', hrun, -⟩⟩
  · rw [hclear e he] at hoverlap
    cases hoverlap
  · exact absurd hstop (Nat.not_lt.2 hwraps)
  · rw [hrun]
    exact fun hnext => nomatch hnext
  · rw [hrun]
    exact fun hnext => nomatch hnext

/-- A release of a block that is out meets no fault. -/
theorem Sound.free_faultless (h : m.Sound live) {handle : Address}
    (hout : ∃ b ∈ live, b.handle = handle) (f : Fault) :
    (Stage.free m.name m.config m.state m.memory handle).next ≠ .returned (.fault f) := by
  obtain ⟨s', hrun, -⟩ := h.tracks.free h.valid m.memory m.name hout
  rw [hrun]
  exact fun hnext => nomatch hnext

/-- A block in a segment is found there if the operations are of one phase. -/
theorem Sound.exists_locate (h : m.Sound live) (hb : b.Housed m.config m.state.index)
    {ops : SyncOps} (hphases : ops.hasBothPhases = false) :
    ∃ stage, Stage.locate m.name m.config m.state b.handle ops = .ok stage := by
  obtain ⟨segment, howner, hlies⟩ := hb.exists_owner h.tracks.sound.placed h.valid
  obtain ⟨offset, hexact, -, hfits⟩ := hlies.exists_offset
  exact ⟨_, Stage.locate_eq_ok_iff.2
    ⟨hphases, segment, owner_eq_ok_iff.1 howner, offset, hexact, hfits, rfl⟩⟩

/-- A lookup of a block in a segment meets no fault if the operations are of one phase. -/
theorem Sound.resolve_faultless (h : m.Sound live) (hb : b.Housed m.config m.state.index)
    {ops : SyncOps} (hphases : ops.hasBothPhases = false) (f : Fault) :
    (Stage.resolve m.name m.config m.state m.memory b.handle ops).next ≠
      .returned (.fault f) := by
  obtain ⟨stage, hlocate⟩ := h.exists_locate hb hphases
  unfold Stage.resolve
  rw [hlocate]
  exact fun hnext => nomatch hnext

/-! ### One event -/

/-- **No event stops a call at a fault**, after a run of good use. -/
theorem step_faultless {name : String} (created : create name c = .ok m) {minSize : Word}
    (request : c.growthRequest granularity = .ok minSize)
    (supplied : m.Along (Supplied 1 (UInt64.size - 1)) events) {e : Event τ}
    (sized : SizedBy granularity (m.run events).1 (m.run events).2 e)
    (promised : Supplied 1 (UInt64.size - 1) (m.run events).1 (m.run events).2 e)
    (used : WellUsed (m.run events).1 (m.run events).2 e) {r : Report τ}
    (hr : ((m.run events).1.step e).2 = some r) (f : Fault) : r.next ≠ .returned (.fault f) := by
  obtain ⟨hsound, hconfig⟩ := reachable_sound created events
  cases prompts_of_step hr with
  | begins request => exact fun hnext => nomatch hnext
  | @advances id stage turn stands advance =>
    cases stage with
    | reserving flags =>
      cases advance
      exact hsound.reserve_faultless flags f
    | adopting flags g =>
      cases advance
      have hledger := ledger_run created supplied
      have hpending := Ledger.mem_pending stands
      obtain ⟨_, _, _, _, _, _, -, -, hpromised⟩ := promised_of_granted supplied
        (hledger.account.mem_iff.2 (List.mem_append_left _ hpending))
      exact hsound.adopt_faultless (hsound.ready _ (mem_of_stage? stands))
        (hledger.clear_of_pending hpending)
        (Nat.lt_of_le_sub_one (by decide) hpromised.below) flags f
    | delivering flags b =>
      cases advance
      exact fun hnext => nomatch hnext
    | freeing handle =>
      cases advance
      exact hsound.free_faultless (used.1 handle stands) f
    | resolving handle ops =>
      cases advance
      obtain ⟨hphases, b, hb, rfl⟩ := used.2 handle ops stands
      have hhoused := housed_run created events b hb
      rw [← hconfig] at hhoused
      exact hsound.resolve_faultless hhoused hphases f
    | sizing => cases advance
    | importing => cases advance
    | syncing => cases advance
  | sizes stands answered =>
    obtain ⟨flags, rfl, ⟨-, -, rfl⟩ | ⟨f', hgrowth, rfl⟩⟩ := Stage.sized?_cases answered
    · exact fun hnext => nomatch hnext
    · rw [sized flags stands, hconfig, request] at hgrowth
      cases hgrowth
  | replies stands answered =>
    obtain ⟨flags, minSize, rfl, ⟨g, -, -, -, rfl⟩ | ⟨g, rfl, hshort, -, -⟩ | ⟨cause, -, -, rfl⟩⟩ :=
      Stage.replied?_cases answered
    · exact fun hnext => nomatch hnext
    · exact absurd (UInt64.le_iff_toNat_le.2 (promised flags minSize stands).long) hshort
    · exact fun hnext => nomatch hnext
  | acknowledges stands answered =>
    rw [Stage.acknowledged?_eq answered]
    exact fun hnext => nomatch hnext

/-! ### All events -/

/-- **A run of good use meets no fault.** -/
theorem run_faultless {name : String} (created : create name c = .ok m) {minSize : Word}
    (request : c.growthRequest granularity = .ok minSize)
    (sized : m.Along (SizedBy granularity) events)
    (supplied : m.Along (Supplied 1 (UInt64.size - 1)) events) (used : m.Along WellUsed events) :
    ∀ r ∈ (m.run events).2, ∀ f, r.next ≠ .returned (.fault f) := by
  intro r hr
  obtain ⟨front, e, back, rfl, hreport⟩ := exists_event_of_report hr
  exact step_faultless created request supplied.front (sized front e back rfl)
    (supplied front e back rfl) (used front e back rfl) hreport

/-- After any run the bytes in use can be told, and the pool can be closed. -/
theorem close_run {name : String} (created : create name c = .ok m) (events : List (Event τ)) :
    (∃ w, (m.run events).1.state.arena.inUseBytes = .ok w) ∧
      (m.run events).1.close.outcome = .done ∧ (m.run events).1.destroy.outcome = .done := by
  obtain ⟨hsound, -⟩ := reachable_sound created events
  obtain ⟨w, hw, -⟩ := hsound.tracks.sound.packed.layout.exists_inUseBytes
  obtain ⟨-, hclosed⟩ := hsound.close_eq
  exact ⟨⟨w, hw⟩, hclosed, hclosed⟩

end Machine

/-- **Good use meets no fault**, and the pool can be closed after it. -/
theorem good_use_faultless {name : String} {m : Machine τ}
    (created : Machine.create name c = .ok m) {granularity : Word}
    (request : ∃ minSize, c.growthRequest granularity = .ok minSize) {events : List (Event τ)}
    (sized : m.Along (Machine.SizedBy granularity) events)
    (supplied : m.Along (Machine.Supplied 1 (UInt64.size - 1)) events)
    (used : m.Along Machine.WellUsed events) :
    let reached := (m.run events).1
    (∀ r ∈ (m.run events).2, ∀ f, r.next ≠ .returned (.fault f)) ∧
      (∃ w, reached.state.arena.inUseBytes = .ok w) ∧
      (∀ b ∈ takenBlocks (m.run events).2, ∃ segment,
        reached.state.index.owner b.handle = .ok segment ∧
        segment.pointerTo b.handle = .ok b.pointer) ∧
      reached.close.outcome = .done ∧ reached.destroy.outcome = .done := by
  intro reached
  obtain ⟨minSize, hrequest⟩ := request
  obtain ⟨hinUse, hclosed⟩ := Machine.close_run created events
  refine ⟨Machine.run_faultless created hrequest sized supplied used, hinUse, ?_, hclosed⟩
  intro b hb
  obtain ⟨hsound, hconfig⟩ := Machine.reachable_sound created events
  have hvalid : c.Valid := hconfig ▸ hsound.valid
  obtain ⟨segment, howner, hlies⟩ :=
    (Machine.housed_run created events b hb).exists_owner hsound.tracks.sound.placed hvalid
  exact ⟨segment, howner, hlies.pointerTo_eq hvalid⟩

/-- **Considerate callers meet no fault**, with a store that keeps its promises: neither in their
calls nor when the bytes in use are told or the pool is closed. -/
theorem considerate_use_faultless {name : String} {m : Machine τ}
    (created : Machine.create name c = .ok m) {granularity : Word}
    (request : ∃ minSize, c.growthRequest granularity = .ok minSize) {events : List (Event τ)}
    (sized : m.Along (Machine.SizedBy granularity) events)
    (supplied : m.Along (Machine.Supplied 1 (UInt64.size - 1)) events)
    (considerate : m.Along Machine.Considerate events) :
    (∀ r ∈ (m.run events).2, ∀ f, r.next ≠ .returned (.fault f)) ∧
      (∃ w, (m.run events).1.state.arena.inUseBytes = .ok w) ∧
      (m.run events).1.close.outcome = .done ∧ (m.run events).1.destroy.outcome = .done := by
  obtain ⟨minSize, hrequest⟩ := request
  have used := Machine.wellUsed_of_considerate created considerate
  exact ⟨Machine.run_faultless created hrequest sized supplied used,
    Machine.close_run created events⟩

/-- A block is handed out, synchronised and taken back. -/
def exchangeRun : List (Event Unit) :=
  [.call (.allocate AllocFlags.zero), .advance 0, .granularity 0 4096, .reply 0 (.ok sampleGrant),
    .advance 0, .advance 0, .call (.synchronize ⟨65536⟩ SyncOps.pre), .advance 1, .acknowledge 1,
    .call (.free ⟨65536⟩), .advance 2]

/-- The callers are considerate there. -/
theorem exchangeRun_considerate : samplePool.Along Machine.Considerate exchangeRun := by
  iterate 6
    refine Machine.along_cons.2 ⟨trivial, ?_⟩
  have hheld : ∃ b ∈ heldBlocks (samplePool.run (exchangeRun.take 6)).2, b.handle = ⟨65536⟩ := by
    decide +kernel
  refine Machine.along_cons.2 ⟨⟨by decide +kernel, hheld⟩, ?_⟩
  iterate 2
    refine Machine.along_cons.2 ⟨trivial, ?_⟩
  refine Machine.along_cons.2 ⟨hheld, Machine.along_cons.2 ⟨trivial, Machine.along_nil⟩⟩

/-- The store keeps its promises there. -/
theorem exchangeRun_supplied :
    samplePool.Along (Machine.SizedBy 4096) exchangeRun ∧
      samplePool.Along (Machine.Supplied 1 (UInt64.size - 1)) exchangeRun := by
  constructor
  · iterate 2
      refine Machine.along_cons.2 ⟨trivial, ?_⟩
    refine Machine.along_cons.2 ⟨fun _ _ => rfl, ?_⟩
    iterate 8
      refine Machine.along_cons.2 ⟨trivial, ?_⟩
    exact Machine.along_nil
  · iterate 3
      refine Machine.along_cons.2 ⟨trivial, ?_⟩
    refine Machine.along_cons.2 ⟨?_, ?_⟩
    · rintro flags minSize ⟨⟩
      refine ⟨Nat.one_dvd _, by decide +kernel, by decide +kernel, ?_⟩
      intro g hg
      cases hg
    · iterate 7
        refine Machine.along_cons.2 ⟨trivial, ?_⟩
      exact Machine.along_nil

/-- In that run each of the three calls comes to its end, and the pool can be closed. -/
theorem good_use_of_exchange :
    Machine.create "pool" ⟨96, 32, 256⟩ = .ok samplePool ∧
      Config.growthRequest ⟨96, 32, 256⟩ 4096 = .ok 4096 ∧
      samplePool.Along (Machine.SizedBy 4096) exchangeRun ∧
      samplePool.Along (Machine.Supplied 1 (UInt64.size - 1)) exchangeRun ∧
      samplePool.Along Machine.WellUsed exchangeRun ∧
      (samplePool.run exchangeRun).1.calls = [] ∧
      (∀ r ∈ (samplePool.run exchangeRun).2, ∀ f, r.next ≠ .returned (.fault f)) ∧
      (samplePool.run exchangeRun).1.destroy.outcome = .done := by
  have request : Config.growthRequest ⟨96, 32, 256⟩ 4096 = .ok 4096 := rfl
  obtain ⟨sized, supplied⟩ := exchangeRun_supplied
  have used := Machine.wellUsed_of_considerate samplePool_created exchangeRun_considerate
  obtain ⟨hfaultless, -, -, -, hdone⟩ :=
    good_use_faultless samplePool_created ⟨4096, request⟩ sized supplied used
  exact ⟨samplePool_created, request, sized, supplied, used, rfl, hfaultless, hdone⟩

end BusPool.Pool
