import BusPool.Proofs.Arena.Canonical
import BusPool.Proofs.Pool.Bystanders
import BusPool.Proofs.Pool.Grants

/-!
# Growth that fails

An allocation that asks the store for a segment may still end without a block. What it leaves
behind is told by a comparison with the run of the other events, those that take place between its
first try and its end and are not about it (**`failed_growth_leaves`**). If the store gives no
segment, nothing is left behind. If the segment has no room for a block, exactly this segment is
(**`State.Grown`**): it is one more in the index, its extent is one more span and one more free
extent, and the reserved blocks are the same.

Both first and second tries that find no room leave the pool as it is; and what spans and blocks
there are decides what is free (`Arena.Layout.eq_of_addSpan`), so that no free extent of another
segment is touched.
-/

namespace BusPool.Pool

open AddressMap Arena SegmentIndex

variable {τ : Type} {c : Config} {s s' : State τ} {live : List Block} {g : Grant τ}

/-- One state after another to which a granted segment was added, and nothing else. -/
structure State.Grown (g : Grant τ) (s s' : State τ) : Prop where
  /-- The segment is kept at its first address. -/
  index_eq : s'.index = s.index.adding (.ofGrant g)
  /-- It is put to the others. -/
  segments_perm : s'.index.toList.Perm (.ofGrant g :: s.index.toList)
  /-- Its extent is a span. -/
  spans_eq : s'.arena.spans = s.arena.spans.insert g.bus g.len
  /-- The span takes the place of none. -/
  span_new : ∀ len, (g.bus, len) ∉ s.arena.spans.entries
  /-- Its extent is free. -/
  free_eq : s'.arena.free = s.arena.free.insert g.bus g.len
  /-- The free extent takes the place of none. -/
  free_new : ∀ len, (g.bus, len) ∉ s.arena.free.entries
  /-- The reserved blocks are the same. -/
  reserved_eq : s'.arena.reserved = s.arena.reserved
  /-- The capacity grows by the length of the segment. -/
  spanBytes_eq : s'.arena.spanBytes.toNat = s.arena.spanBytes.toNat + g.len.toNat
  /-- So does the number of free bytes. -/
  freeBytes_eq : s'.arena.freeBytes.toNat = s.arena.freeBytes.toNat + g.len.toNat

namespace State.Tracks

/-- A state with the blocks that were out before and the segment and the span of a grant in addition
has grown by the grant. -/
theorem grown (h : s.Tracks c live) (h' : s'.Tracks c live) (hpos : 0 < g.len.toNat)
    (hstop : g.bus.toNat + g.len.toNat < UInt64.size)
    (hclear : ∀ e ∈ s.index.extents, e.overlaps g.extent = false)
    (hindex : s'.index = s.index.adding (.ofGrant g))
    (hspans : s'.arena.spans = s.arena.spans.insert g.bus g.len) : s.Grown g s' := by
  have hlayout := h.sound.packed.layout
  have hadd : s.arena.Addable g.extent := h.sound.addable hpos hclear hstop
  have hreserved := h.reserved_eq h'
  obtain ⟨hfree, hspanBytes, hfreeBytes⟩ :=
    hlayout.eq_of_addSpan h'.sound.packed.layout hadd hspans hreserved
  have hbytes : 0 < (g.bus, g.len).2.toNat := hpos
  have hspaced := hlayout.spaced_insert hadd.stop fun x hx =>
    hadd.apart x (mem_of_mem_neighbours hx)
  have hnew := hlayout.span_not_mem hadd
  refine ⟨hindex, ?_, hspans, hnew, hfree, hlayout.free_not_mem_span hbytes hnew hspaced, hreserved,
    hspanBytes, hfreeBytes⟩
  rw [hindex]
  exact perm_toList_adding (h.sound.placed.not_mem_of_clear hpos hstop hclear)

/-- **A segment without room for a block is all that is added.** -/
theorem grown_of_exhausted (h : s.Tracks c live) (hc : c.Valid) (m : Memory) (flags : AllocFlags)
    (hpos : 0 < g.len.toNat)
    (hnext : (Stage.adopt c s m flags g).next = .returned (.failed .exhausted)) :
    s.Grown g (Stage.adopt c s m flags g).state := by
  rcases h.adopt hc m flags hpos with
    ⟨f, hrun, -⟩ | ⟨-, -, hrun, -⟩ |
    ⟨hstop, hclear, t, ht, hindex, hspans, ⟨hrun, -⟩ | ⟨b, s', hrun, -⟩⟩
  · rw [hrun] at hnext
    cases hnext
  · rw [hrun] at hnext
    cases hnext
  · rw [hrun]
    exact h.grown ht hpos hstop hclear hindex hspans
  · rw [hrun] at hnext
    cases hnext

end State.Tracks

/-! ### Segments that a call is granted -/

/-- A call that is about to try for a block for the first time was told nothing else before. -/
theorem Course.eq_of_start {nexts : List (Next τ)} (request : Request)
    (h : Course Stage.Leads nexts (some request.start)) : nexts = [.goOn request.start] := by
  generalize hlast : some request.start = last at h
  cases h with
  | idle => cases hlast
  | began request' => rw [Option.some.inj hlast]
  | @moved nexts stage next before leads =>
    cases next with
    | goOn next =>
      cases hlast
      exact absurd leads (Stage.Leads.ne_start request)
    | returned outcome => cases hlast

namespace Machine

variable {m : Machine τ} {name : String} {events : List (Event τ)} {id : Nat} {flags : AllocFlags}

/-- What a call is about to add was granted after its first try. -/
theorem granted_since (created : create name c = .ok m)
    (tries : (m.run events).1.stage? id = some (.reserving flags)) {more : List (Event τ)}
    {flags' : AllocFlags}
    (stands : (m.run (events ++ more)).1.stage? id = some (.adopting flags' g)) :
    .reply id (.ok g) ∈ more := by
  obtain ⟨r, hr, hcall, hnext⟩ := mem_course.1 (mem_course_of_stage? created stands)
  rw [run_append] at hr
  rcases List.mem_append.1 hr with hr | hr
  · -- before its first try the call was only told to begin
    have hcourse := course_leads created events id
    rw [tries] at hcourse
    have htold : .goOn (.adopting flags' g) ∈ course id (m.run events).2 :=
      mem_course.2 ⟨r, hr, hcall, hnext⟩
    have hstart : course id (m.run events).2 = [.goOn (.reserving flags)] :=
      Course.eq_of_start (.allocate flags) hcourse
    rw [hstart, List.mem_singleton] at htold
    cases htold
  · obtain ⟨front, e, back, rfl, hreport⟩ := exists_event_of_report hr
    have hgrant : r.next.grant? = some g := by
      rw [hnext]
      rfl
    obtain ⟨-, -, rfl, -⟩ := reply_of_granted hreport hgrant
    rw [hcall]
    simp

end Machine

/-! ### What failed growth leaves behind -/

/-- What a call leaves behind that was about to try for a block for the first time after `events`
and has come so far after `more`. -/
structure FailureLeaves (m : Machine τ) (events more : List (Event τ)) (id : Nat) : Prop where
  /-- If the store gives no segment, the call returns with the reason, and everything is as if only
  the other events had taken place. -/
  refused : ∀ flags minSize cause,
    (m.run (events ++ more)).1.stage? id = some (.importing flags minSize) →
    ((m.run (events ++ more)).1.step (.reply id (.error cause))).2 =
      some ⟨id, [.importFailed minSize cause], .returned (.failed (.store cause))⟩ ∧
    ((m.run (events ++ more)).1.step (.reply id (.error cause))).1.state =
      (m.run (events ++ others id more)).1.state ∧
    reportsBut id (m.run (events ++ more)).2 = reportsBut id (m.run (events ++ others id more)).2
  /-- If the segment has no room for a block, everything is as if only the other events had taken
  place and the segment had been added. -/
  exhausted : ∀ e r, ((m.run (events ++ more)).1.step e).2 = some r → r.call = id →
    r.next = .returned (.failed .exhausted) →
    ∃ g, .reply id (.ok g) ∈ more ∧
      (m.run (events ++ others id more)).1.state.Grown g
        ((m.run (events ++ more)).1.step e).1.state ∧
      reportsBut id (m.run (events ++ more)).2 = reportsBut id (m.run (events ++ others id more)).2

/-- **Failed growth leaves nothing behind but the segment** that was granted, whatever takes place
between the first try and the end of the call. -/
theorem failed_growth_leaves {name : String} {m : Machine τ}
    (created : Machine.create name c = .ok m) (events : List (Event τ)) {id : Nat}
    {flags : AllocFlags} (tries : (m.run events).1.stage? id = some (.reserving flags))
    (more : List (Event τ)) : FailureLeaves m events more id where
  refused := by
    intro flags' minSize cause stands
    obtain ⟨hsame, hreports⟩ := Machine.run_others created tries more stands rfl
    have hstep : (m.run (events ++ more)).1.step (.reply id (.error cause)) =
        ((m.run (events ++ more)).1.follow id (.returned (.failed (.store cause))),
          some ⟨id, [.importFailed minSize cause], .returned (.failed (.store cause))⟩) := by
      simp only [Machine.step, stands, Option.bind_some, Stage.replied?]
    rw [hstep]
    refine ⟨rfl, ?_, hreports⟩
    rw [← hsame.state_eq]
    exact Machine.follow_state _
  exhausted := by
    rintro e r hr rfl hnext
    obtain ⟨hsound, hconfig⟩ := Machine.reachable_sound created (events ++ more)
    rcases (m.run (events ++ more)).1.step_call_cases e r.call with
      ⟨-, hother⟩ | ⟨-, request, -, hbegan⟩ | ⟨stage, turn, hstage, hmove, hstate, -, hmoved⟩
    · exact absurd rfl (hother r hr)
    · rw [hr] at hbegan
      rw [Option.some.inj hbegan] at hnext
      cases hnext
    · rw [hr] at hmoved
      rw [Option.some.inj hmoved] at hnext
      have hleads := hmove.leads
      rw [show turn.next = .returned (.failed .exhausted) from hnext] at hleads
      cases hleads with
      | exhausted flags' g =>
        cases hmove.eq_of_advance rfl
        have hpos : 0 < g.len.toNat := hsound.ready _ (Machine.mem_of_stage? hstage)
        obtain ⟨hsame, hreports⟩ := Machine.run_others created tries more hstage rfl
        have hgrown := hsound.tracks.grown_of_exhausted hsound.valid
          (m.run (events ++ more)).1.memory flags' hpos hnext
        refine ⟨g, Machine.granted_since created tries hstage, ?_, hreports⟩
        rw [hstate, ← hsame.state_eq]
        exact hgrown

/-- A new pool of blocks with 4096 bytes at multiples of 8192. -/
def coarsePool : Machine Unit := ⟨"pool", ⟨4096, 8192, 0⟩, .empty, .empty, 0, []⟩

/-- Its parameters are accepted. -/
theorem coarsePool_created : Machine.create "pool" ⟨4096, 8192, 0⟩ = .ok coarsePool := rfl

/-- A segment with room for one block. -/
def evenGrant : Grant Unit := ⟨⟨131072⟩, 8192, ⟨0, 0⟩, ()⟩

/-- A segment as long, but with the only multiple of 8192 too near to its end. -/
def skewedGrant : Grant Unit := ⟨⟨67584⟩, 8192, ⟨1, 0⟩, ()⟩

/-- A call begins. -/
def firstCall : List (Event Unit) := [.call (.allocate AllocFlags.zero)]

/-- It finds no room. While it asks for a segment, a second call is granted one and reserves the
block in it. -/
def overtakenGrowth : List (Event Unit) :=
  [.advance 0, .call (.allocate AllocFlags.zero), .advance 1, .granularity 1 4096,
    .reply 1 (.ok evenGrant), .granularity 0 4096, .advance 1]

/-- The same, and then the first call is granted a segment without room for a block. -/
def skewedGrowth : List (Event Unit) := overtakenGrowth ++ [.reply 0 (.ok skewedGrant)]

/-- If the store has no memory for the first call, the pool is as without that call; if it grants a
segment without room for a block, the pool has that segment in addition. -/
theorem failed_growth_of_overtaken :
    let reached := (coarsePool.run (firstCall ++ overtakenGrowth)).1
    let without := (coarsePool.run (firstCall ++ others 0 overtakenGrowth)).1
    Machine.create "pool" ⟨4096, 8192, 0⟩ = .ok coarsePool ∧
      (coarsePool.run firstCall).1.stage? 0 = some (.reserving AllocFlags.zero) ∧
      reached.stage? 0 = some (.importing AllocFlags.zero 8192) ∧
      without.state.index.extents = [⟨⟨131072⟩, 8192⟩] ∧
      (reached.step (.reply 0 (.error .outOfMemory))).1.state = without.state ∧
      without.state.Grown skewedGrant
        ((coarsePool.run (firstCall ++ skewedGrowth)).1.step (.advance 0)).1.state := by
  intro reached without
  have htries : (coarsePool.run firstCall).1.stage? 0 = some (.reserving AllocFlags.zero) := rfl
  have hasks : reached.stage? 0 = some (.importing AllocFlags.zero 8192) := rfl
  obtain ⟨-, hstate, -⟩ :=
    (failed_growth_leaves coarsePool_created firstCall htries overtakenGrowth).refused _ _
      .outOfMemory hasks
  have hfails : ((coarsePool.run (firstCall ++ skewedGrowth)).1.step (.advance 0)).2 =
      some ⟨0, [.imported skewedGrant.extent 2, .unplaceable skewedGrant.extent],
        .returned (.failed .exhausted)⟩ := rfl
  obtain ⟨g, hreply, hgrown, -⟩ :=
    (failed_growth_leaves coarsePool_created firstCall htries skewedGrowth).exhausted _ _ hfails rfl
      rfl
  have hg : g = skewedGrant := by simpa [skewedGrowth, overtakenGrowth] using hreply
  rw [hg] at hgrown
  exact ⟨coarsePool_created, htries, hasks, by decide +kernel, hstate, hgrown⟩

end BusPool.Pool
