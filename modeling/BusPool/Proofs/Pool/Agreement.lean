import BusPool.Proofs.Pool.Runs

/-!
# Agreement of index and arena

Segments are kept twice, in the index and as spans of the arena. The two are meant to agree, also
after an import that stopped at a fault. They do as long as no segment reaches past the top of the
bus (**`index_arena_agreement`**): the index cuts the end of such a segment off and takes it, the
arena refuses it, and nothing takes it out of the index again.

An import that faults leaves everything as it was when the grant overlaps a segment. In the only
other case it leaves the segment behind, which then counts as a segment, is searched, and is given
back to the store when the pool is closed, but has no bytes in the arena
(**`segment_left_behind`**).
-/

namespace BusPool.Pool

open AddressMap SegmentIndex

variable {τ : Type} {c : Config} {s : State τ}

/-- First address and length of each indexed segment, in ascending order. -/
def indexed (index : SegmentIndex τ) : List (Address × Word) :=
  index.extents.map fun e => (e.start, e.len)

/-- How far index and arena agree. -/
structure State.Agreement (s : State τ) : Prop where
  /-- The spans are the segments that end on the bus. -/
  spans_eq : s.arena.spans.entries = (indexed s.index).filter fun x => stopOf x < UInt64.size
  /-- Index and arena agree exactly when all segments end on the bus. -/
  agree_iff : indexed s.index = s.arena.spans.entries ↔
    ∀ e ∈ s.index.extents, e.start.toNat + e.len.toNat < UInt64.size
  /-- Where they agree, the segments are counted by the spans. -/
  size_eq : indexed s.index = s.arena.spans.entries → s.index.size = s.arena.spans.size
  /-- Where they agree, the capacity is the length of all segments. -/
  capacity_eq : indexed s.index = s.arena.spans.entries →
    s.arena.spanBytes.toNat = (s.index.extents.map fun e => e.len.toNat).sum

namespace State.Sound

/-- What is indexed, by the segments. -/
theorem mem_indexed (h : s.Sound c) {x : Address × Word} : x ∈ indexed s.index ↔
    ∃ segment, (x.1, segment) ∈ s.index.segments.entries ∧ segment.extent.len = x.2 := by
  rw [indexed, List.mem_map]
  constructor
  · rintro ⟨e, he, rfl⟩
    obtain ⟨y, hy, rfl⟩ := mem_extents.1 he
    refine ⟨y.2, ?_, rfl⟩
    dsimp only
    rw [h.placed.start_eq y hy]
    exact hy
  · rintro ⟨segment, hmem, hlen⟩
    refine ⟨segment.extent, mem_extents.2 ⟨_, hmem, rfl⟩, ?_⟩
    exact Prod.ext (h.placed.start_eq _ hmem) hlen

/-- What is indexed is in ascending order. -/
theorem indexed_ordered (h : s.Sound c) : (indexed s.index).Pairwise fun x y => x.1 < y.1 := by
  rw [indexed, extents, toList, values, List.map_map, List.map_map, List.pairwise_map]
  refine s.index.segments.ordered.imp_of_mem fun {x y} hx hy hlt => ?_
  simp only [Function.comp_apply, h.placed.start_eq x hx, h.placed.start_eq y hy]
  exact hlt

/-- The spans are the segments that end on the bus. -/
theorem spans_eq (h : s.Sound c) :
    s.arena.spans.entries = (indexed s.index).filter fun x => stopOf x < UInt64.size := by
  have hsame : s.arena.spans = ⟨_, h.indexed_ordered.filter fun x => stopOf x < UInt64.size⟩ := by
    refine ext_mem fun x => ?_
    rw [h.span_iff x, ← h.mem_indexed, List.mem_filter, decide_eq_true_iff, and_comm]
  exact congrArg AddressMap.entries hsame

/-- A sound state is as far in agreement as can be. -/
theorem agreement (h : s.Sound c) : s.Agreement := by
  refine ⟨h.spans_eq, ?_, fun hsame => ?_, fun hsame => ?_⟩
  · rw [h.spans_eq, eq_comm, List.filter_eq_self]
    constructor
    · intro hall e he
      exact of_decide_eq_true (hall _ (List.mem_map_of_mem he))
    · intro hall x hx
      obtain ⟨e, he, rfl⟩ := List.mem_map.1 hx
      exact decide_eq_true (hall e he)
  · have hlen := congrArg List.length hsame
    rw [indexed, extents, toList, values, List.length_map, List.length_map, List.length_map] at hlen
    exact hlen
  · rw [h.packed.layout.spanBytes_eq, total, ← hsame, indexed, List.map_map]
    rfl

end State.Sound

/-- **Index and arena agree up to segments that reach past the top of the bus**, in every reachable
state. When a call stops at a fault while it imports a grant, the arena is as it was before, and so
is the index if the grant overlaps a segment; otherwise the grant reaches past the top of the bus
and is in the index. -/
theorem index_arena_agreement {name : String} {m : Machine τ}
    (created : Machine.create name c = .ok m) (events : List (Event τ)) :
    let reached := (m.run events).1
    reached.state.Agreement ∧
    ∀ id flags g, reached.stage? id = some (.adopting flags g) →
    ∀ r f, (reached.step (.advance id)).2 = some r → r.next = .returned (.fault f) →
      let s' := (reached.step (.advance id)).1.state
      s'.arena = reached.state.arena ∧
      ((∃ e ∈ reached.state.index.extents, e.overlaps g.extent = true) → s' = reached.state) ∧
      ((∀ e ∈ reached.state.index.extents, e.overlaps g.extent = false) →
        UInt64.size ≤ g.bus.toNat + g.len.toNat ∧
          s'.index = reached.state.index.adding (.ofGrant g)) := by
  intro reached
  obtain ⟨hsound, hconfig⟩ := Machine.reachable_sound created events
  refine ⟨hsound.tracks.sound.agreement, fun id flags g hstage r f hr hf => ?_⟩
  have hpos : 0 < g.len.toNat := hsound.ready _ (Machine.mem_of_stage? hstage)
  have hstep := Machine.step_advance hstage rfl
  have hstate := Machine.step_advance_state hstage rfl
  rw [hstep] at hr
  cases hr
  dsimp only at hf ⊢
  rw [hstate]
  rcases hsound.tracks.adopt hsound.valid reached.memory flags hpos with
    ⟨f, hrun, e, he, hoverlap⟩ | ⟨hwraps, hclear, hrun, -⟩ |
    ⟨-, -, t, -, -, -, ⟨hrun, -⟩ | ⟨b, s', hrun, -⟩⟩
  · rw [hrun]
    refine ⟨rfl, fun _ => rfl, fun hclear => ?_⟩
    rw [hclear e he] at hoverlap
    cases hoverlap
  · rw [hrun]
    refine ⟨rfl, fun hoverlap => ?_, fun _ => ⟨hwraps, rfl⟩⟩
    obtain ⟨e, he, hoverlap⟩ := hoverlap
    rw [hclear e he] at hoverlap
    cases hoverlap
  · rw [hrun] at hf
    cases hf
  · rw [hrun] at hf
    cases hf

/-- A segment that ends at the very top of the bus. -/
def topGrant : Grant Unit := ⟨⟨18446744073709547520⟩, 4096, ⟨0, 0⟩, ()⟩

/-- A first allocation, for which the segment at the top is granted and about to be added. -/
def topRun : List (Event Unit) :=
  [.call (.allocate AllocFlags.zero), .advance 0, .granularity 0 4096, .reply 0 (.ok topGrant)]

/-- The import of the segment at the top changes the index and not the arena. -/
theorem agreement_at_top :
    let before := (samplePool.run topRun).1
    let after := (before.step (.advance 0)).1.state
    Machine.create "pool" ⟨96, 32, 256⟩ = .ok samplePool ∧ before.state.Agreement ∧
      before.stage? 0 = some (.adopting AllocFlags.zero topGrant) ∧
      after.arena = before.state.arena ∧
      after.index = before.state.index.adding (.ofGrant topGrant) := by
  intro before after
  obtain ⟨hagree, himport⟩ := index_arena_agreement samplePool_created topRun
  have hreport : (before.step (.advance 0)).2 =
      some ⟨0, [], .returned (.fault (.spanWraps topGrant.extent))⟩ := rfl
  obtain ⟨harena, -, hindex⟩ := himport 0 AllocFlags.zero topGrant rfl _ _ hreport rfl
  refine ⟨samplePool_created, hagree, rfl, harena, (hindex ?_).2⟩
  intro e he
  cases he

/-- Index and arena need not agree: once the import has faulted, the index holds a segment of
which the arena knows nothing. -/
theorem segment_left_behind :
    let before := (samplePool.run topRun).1
    let after := (before.step (.advance 0)).1.state
    Machine.create "pool" ⟨96, 32, 256⟩ = .ok samplePool ∧ before.state.index.size = 0 ∧
      after.index.size = 1 ∧ after.arena.spans.size = 0 ∧ after.arena.spanBytes = 0 ∧
      indexed after.index ≠ after.arena.spans.entries := by
  refine ⟨samplePool_created, rfl, rfl, rfl, rfl, ?_⟩
  decide +kernel

end BusPool.Pool
