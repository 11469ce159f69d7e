import BusPool.Proofs.Pool.Grants
import BusPool.Proofs.Pool.Handover

/-!
# Where blocks are mapped

A block is mapped where the segment is that it lies in. Other calls may add segments in the
meantime, and a segment that reaches past the top of the bus may take the place of another one in
the index. None of this moves a block: an import leaves every segment in the index that has a block
(**`Machine.Sound.keeps`**), so whatever was reserved in a run still lies in a segment, however much
later and whether or not it was taken back (**`Machine.housed_run`**). The lookup that a
synchronisation makes finds that segment (**`Block.Housed.exists_owner`**). Spans are kept with
their segments, and with them the slots that blocks were put in (**`Machine.slots_run`**). So any
two blocks that were ever reserved are one block or lie apart (**`Machine.eq_or_apart_run`**).
-/

namespace BusPool.Pool

open AddressMap SegmentIndex

variable {τ : Type} {c : Config} {b : Block}

/-! ### Blocks in segments -/

/-- The place of a block in its segment. -/
theorem Block.LiesIn.exists_offset {segment : Segment τ} (h : b.LiesIn c segment) :
    ∃ offset : Word, b.handle.toNat = segment.extent.start.toNat + offset.toNat ∧
      b.pointer = segment.mapping.advance offset ∧
      offset.toNat + c.blockSize.toNat ≤ segment.extent.len.toNat := by
  obtain ⟨offset, -, hexact⟩ :=
    Checked.exists_sub (a := b.handle.word) (b := segment.extent.start.word) h.start_le
  have hhandle : b.handle.toNat = segment.extent.start.toNat + offset.toNat := hexact
  have hdistance : offset.toNat = b.handle.toNat - segment.extent.start.toNat :=
    Nat.eq_sub_of_add_eq' hhandle.symm
  have hfits := h.fits
  rw [Extent.toNat_endWord] at hfits
  refine ⟨offset, hhandle, ?_, by omega⟩
  rw [h.pointer_eq, ← hdistance]
  rfl

/-- The pointer of a block is the one that its segment gives for its handle. -/
theorem Block.LiesIn.pointerTo_eq {segment : Segment τ} (h : b.LiesIn c segment) (hc : c.Valid) :
    segment.pointerTo b.handle = .ok b.pointer := by
  obtain ⟨offset, hexact, hpointer, -⟩ := h.exists_offset
  have hpos := hc.blockSize_pos
  have hfits := h.fits
  have hin : demand (segment.extent.contains b.handle) .outsideSegment = .ok () :=
    demand_eq_ok.2 (Extent.contains_iff.2 ⟨h.start_le, by omega⟩)
  have hoffset : segment.offsetOf b.handle = .ok offset := Checked.sub_eq_ok_iff.2 hexact
  rw [Segment.pointerTo, hin, hoffset, hpointer]
  rfl

namespace Block.Housed

variable {i j : SegmentIndex τ}

/-- A segment with a block is one that addresses are looked up in. -/
theorem exists_entry (h : b.Housed c i) (hplaced : i.Placed) (hc : c.Valid) :
    ∃ x ∈ i.segments.entries, b.LiesIn c x.2 ∧ x.1.toNat ≤ b.handle.toNat ∧
      b.handle.toNat < segmentStop x := by
  obtain ⟨x, hx, hlies⟩ := h
  have hpos := hc.blockSize_pos
  have hlow := hlies.start_le
  have hfits := hlies.fits
  rw [hplaced.start_eq x hx] at hlow
  exact ⟨x, hx, hlies, hlow, Nat.lt_of_lt_of_le (Nat.lt_add_of_pos_right hpos) hfits⟩

/-- A block stays in its segment as long as the index keeps that. -/
theorem keep (h : b.Housed c i) (hplaced : i.Placed) (hc : c.Valid) (hkeeps : i.Keeps j) :
    b.Housed c j := by
  obtain ⟨x, hx, hlies, hlow, hhigh⟩ := h.exists_entry hplaced hc
  exact ⟨x, hkeeps x hx (Nat.lt_of_le_of_lt hlow hhigh), hlies⟩

/-- The owner of a block's handle is the segment that the block lies in, for as long as the index
keeps its segments. -/
theorem exists_fixed_owner (h : b.Housed c i) (hplaced : i.Placed) (hc : c.Valid) :
    ∃ x ∈ i.segments.entries, b.LiesIn c x.2 ∧
      ∀ j : SegmentIndex τ, j.Placed → i.Keeps j → j.owner b.handle = .ok x.2 := by
  obtain ⟨x, hx, hlies, hlow, hhigh⟩ := h.exists_entry hplaced hc
  refine ⟨x, hx, hlies, fun j hj hkeeps => ?_⟩
  rw [owner_eq_ok_iff, hj.segmentAt?_eq_some_iff]
  exact ⟨x, hkeeps x hx (Nat.lt_of_le_of_lt hlow hhigh), rfl, hlow, hhigh⟩

/-- The owner of a block's handle is the segment that the block lies in. -/
theorem exists_owner (h : b.Housed c i) (hplaced : i.Placed) (hc : c.Valid) :
    ∃ segment, i.owner b.handle = .ok segment ∧ b.LiesIn c segment := by
  obtain ⟨x, -, hlies, howner⟩ := h.exists_fixed_owner hplaced hc
  exact ⟨x.2, howner i hplaced (.refl i), hlies⟩

/-- Blocks of one handle are mapped at one place. -/
theorem pointer_eq {b' : Block} (h : b.Housed c i) (h' : b'.Housed c i) (hplaced : i.Placed)
    (hc : c.Valid) (hhandle : b.handle = b'.handle) : b.pointer = b'.pointer := by
  obtain ⟨x, hx, hlies, hlow, hhigh⟩ := h.exists_entry hplaced hc
  obtain ⟨y, hy, hlies', hlow', hhigh'⟩ := h'.exists_entry hplaced hc
  rw [← hhandle] at hlow' hhigh'
  have hsame : x = y := hplaced.apart.eq_of_shared hx hy ⟨hlow, hhigh⟩ ⟨hlow', hhigh'⟩
  rw [hlies.pointer_eq, hlies'.pointer_eq, hsame, hhandle]

end Block.Housed

/-! ### Blocks that were reserved -/

/-- All blocks that were ever reserved for a call, whether or not they are still out. -/
def takenBlocks (reports : List (Report τ)) : List Block := reports.filterMap Report.taken?

/-- The blocks that were reserved after more reports. -/
theorem takenBlocks_append (reports more : List (Report τ)) :
    takenBlocks (reports ++ more) = takenBlocks reports ++ takenBlocks more :=
  List.filterMap_append

/-- A block was reserved if a call reported it. -/
theorem mem_takenBlocks {reports : List (Report τ)} :
    b ∈ takenBlocks reports ↔ ∃ r ∈ reports, r.taken? = some b := List.mem_filterMap

/-- Blocks that are out were reserved. -/
theorem taken_of_live {reports : List (Report τ)} (hb : b ∈ liveBlocks reports) :
    b ∈ takenBlocks reports := by
  obtain ⟨front, r, back, rfl, htaken, -⟩ := mem_liveBlocks_iff.1 hb
  exact mem_takenBlocks.2 ⟨r, by simp, htaken⟩

/-- A call that has just reserved a block goes on to deliver it. -/
theorem Report.taken?_eq_some_iff {r : Report τ} :
    r.taken? = some b ↔ ∃ flags, r.next = .goOn (.delivering flags b) := by
  constructor
  · intro h
    unfold Report.taken? at h
    split at h
    · rename_i flags _ hnext
      cases h
      exact ⟨flags, hnext⟩
    · cases h
  · rintro ⟨flags, hnext⟩
    unfold Report.taken?
    rw [hnext]

namespace Machine

variable {m : Machine τ} {live : List Block} {stage : Stage τ} {turn : Turn τ}

/-- A block that a call is about to deliver was reserved. -/
theorem taken_of_delivering {name : String} (created : create name c = .ok m)
    {events : List (Event τ)} {id : Nat} {flags : AllocFlags}
    (hstage : (m.run events).1.stage? id = some (.delivering flags b)) :
    b ∈ takenBlocks (m.run events).2 := by
  obtain ⟨r, hr, -, hnext⟩ := mem_course.1 (mem_course_of_stage? created hstage)
  exact mem_takenBlocks.2 ⟨r, hr, Report.taken?_eq_some_iff.2 ⟨flags, hnext⟩⟩

/-- A block that a call has returned with was reserved. -/
theorem taken_of_returned {name : String} (created : create name c = .ok m)
    {events : List (Event τ)} {r : Report τ} (hr : r ∈ (m.run events).2)
    (hnext : r.next = .returned (.block b)) : b ∈ takenBlocks (m.run events).2 := by
  obtain ⟨front, back, hsplit⟩ := List.append_of_mem hr
  obtain ⟨taken, htaken, -, hblock⟩ := takenFor_of_returned created events hsplit hnext
  rw [hsplit]
  exact mem_takenBlocks.2 ⟨taken, List.mem_append_left _ htaken, hblock⟩

/-- A block that a call was handed was reserved. -/
theorem taken_of_handed {name : String} (created : create name c = .ok m) {events : List (Event τ)}
    {id : Nat} (h : HandedTo (m.run events).2 id b) : b ∈ takenBlocks (m.run events).2 := by
  obtain ⟨r, hr, -, hgiven⟩ := h
  exact taken_of_returned created hr (Report.given?_eq_some_iff.1 hgiven)

/-- So was every block that is out or that any call was handed. -/
theorem taken_of_live_or_handed {name : String} (created : create name c = .ok m)
    {events : List (Event τ)}
    (h : b ∈ liveBlocks (m.run events).2 ∨ ∃ id, HandedTo (m.run events).2 id b) :
    b ∈ takenBlocks (m.run events).2 := by
  rcases h with hlive | ⟨id, hhanded⟩
  · exact taken_of_live hlive
  · exact taken_of_handed created hhanded

/-- **No event takes a segment with a block out of the index.** -/
theorem Sound.keeps (h : m.Sound live) (e : Event τ) :
    m.state.index.Keeps (m.step e).1.state.index := by
  rcases h.step_index_cases e with hindex | ⟨-, -, g, -, -, hpos, hclear, hindex⟩
  · rw [hindex]
    exact .refl _
  · rw [hindex]
    exact h.tracks.sound.placed.keeps_adding hpos hclear

/-- No run takes a segment with a block out of the index. -/
theorem Sound.keeps_run (h : m.Sound live) (events : List (Event τ)) :
    m.state.index.Keeps (m.run events).1.state.index := by
  induction events generalizing m live with
  | nil => exact .refl _
  | cons e rest ih =>
    intro x hx hfull
    show x ∈ ((m.step e).1.run rest).1.state.index.segments.entries
    exact ih (h.step e) x (h.keeps e x hx hfull) hfull

/-- A block that a call has just reserved lies in a segment. -/
theorem Sound.housed_of_taken (h : m.Sound live) (hready : stage.Ready)
    (hmove : m.Moves stage turn) {flags : AllocFlags}
    (hnext : turn.next = .goOn (.delivering flags b)) : b.Housed m.config turn.state.index := by
  have hleads := hmove.leads
  rw [hnext] at hleads
  cases hleads with
  | reserved =>
    cases hmove.eq_of_advance rfl
    rcases h.tracks.reserve h.valid m.memory flags with
      ⟨hrun, -⟩ | ⟨b', s', hrun, -, -, hindex, -, hhoused⟩
    · rw [hrun] at hnext
      cases hnext
    · rw [hrun] at hnext ⊢
      cases hnext
      exact hindex ▸ hhoused
  | adopted _ g =>
    have hpos : 0 < g.len.toNat := hready
    cases hmove.eq_of_advance rfl
    rcases h.tracks.adopt h.valid m.memory flags hpos with
      ⟨f, hrun, -⟩ | ⟨-, -, hrun, -⟩ |
      ⟨-, -, t, -, -, -, ⟨hrun, -⟩ | ⟨b', s', hrun, -, -, hindex, -, hhoused⟩⟩
    · rw [hrun] at hnext
      cases hnext
    · rw [hrun] at hnext
      cases hnext
    · rw [hrun] at hnext
      cases hnext
    · rw [hrun] at hnext ⊢
      cases hnext
      exact hindex ▸ hhoused

/-- A block that is reserved at an event lies in a segment. -/
theorem Sound.housed_of_report (h : m.Sound live) {e : Event τ} {r : Report τ}
    (hr : (m.step e).2 = some r) (htaken : r.taken? = some b) :
    b.Housed m.config (m.step e).1.state.index := by
  obtain ⟨flags, hnext⟩ := Report.taken?_eq_some_iff.1 htaken
  rcases m.step_cases e with ⟨memory, heq⟩ | ⟨request, -, heq⟩ |
    ⟨id, stage, turn, hstage, hmove, heq⟩
  · rw [heq] at hr
    cases hr
  · rw [heq] at hr
    cases hr
    cases request <;> cases hnext
  · rw [heq] at hr
    cases hr
    have hhoused := h.housed_of_taken (h.ready _ (mem_of_stage? hstage)) hmove hnext
    rw [heq]
    dsimp only
    rw [follow_state]
    exact hhoused

/-- **Whatever was reserved lies in a segment**, from then on. -/
theorem housed_run {name : String} (created : create name c = .ok m) (events : List (Event τ)) :
    ∀ b ∈ takenBlocks (m.run events).2, b.Housed c (m.run events).1.state.index := by
  induction events using List.reverseRecOn with
  | nil =>
    intro b hb
    cases hb
  | append_singleton events e ih =>
    obtain ⟨hsound, hconfig⟩ := reachable_sound created events
    have hvalid : c.Valid := hconfig ▸ hsound.valid
    rw [run_concat, takenBlocks_append]
    intro b hb
    rcases List.mem_append.1 hb with hb | hb
    · exact (ih b hb).keep hsound.tracks.sound.placed hvalid (hsound.keeps e)
    · obtain ⟨r, hr, htaken⟩ := mem_takenBlocks.1 hb
      exact hconfig ▸ hsound.housed_of_report (Option.mem_toList.1 hr) htaken

end Machine

/-! ### Slots of blocks that were reserved -/

namespace State.Sound

variable {s s' : State τ} {x : Address × Word}

/-- A span stays a span as long as the index keeps its segments. -/
theorem span_of_keeps (h : s.Sound c) (h' : s'.Sound c) (hkeeps : s.index.Keeps s'.index)
    (hx : x ∈ s.arena.spans.entries) : x ∈ s'.arena.spans.entries := by
  obtain ⟨segment, hmem, hextent, hstop⟩ := h.segment_of_span hx
  have hfull : x.1.toNat < segmentStop (x.1, segment) := by
    rw [hstop]
    exact (Arena.holds_start (h.packed.layout.span_pos x hx)).2
  refine (h'.span_iff x).2 ⟨h.packed.layout.span_stop x hx, segment, hkeeps _ hmem hfull, ?_⟩
  exact congrArg Extent.len hextent

/-- A slot stays a slot as long as the index keeps its segments. -/
theorem slots_of_keeps (h : s.Sound c) (h' : s'.Sound c) (hkeeps : s.index.Keeps s'.index) {n : Nat}
    (hn : n ∈ c.slots s.arena.spans) : n ∈ c.slots s'.arena.spans := by
  obtain ⟨x, hx, hslot⟩ := hn
  exact ⟨x, h.span_of_keeps h' hkeeps hx, hslot⟩

end State.Sound

namespace Machine

variable {m : Machine τ}

/-- **Whatever was reserved is in a slot**, from then on. -/
theorem slots_run {name : String} (created : create name c = .ok m) (events : List (Event τ)) :
    ∀ b ∈ takenBlocks (m.run events).2,
      b.handle.toNat ∈ c.slots (m.run events).1.state.arena.spans := by
  induction events using List.reverseRecOn with
  | nil =>
    intro b hb
    cases hb
  | append_singleton events e ih =>
    obtain ⟨hsound, hconfig⟩ := reachable_sound created events
    obtain ⟨hsound', hconfig'⟩ := reachable_sound created (events ++ [e])
    have htracks := hsound.tracks
    have htracks' := hsound'.tracks
    rw [hconfig] at htracks
    rw [hconfig'] at htracks'
    intro b hb
    rw [run_concat, takenBlocks_append] at hb
    rcases List.mem_append.1 hb with hb | hb
    · have hkeeps := hsound.keeps e
      rw [← show (m.run (events ++ [e])).1 = ((m.run events).1.step e).1 from
        congrArg Prod.fst (run_concat m events e)] at hkeeps
      exact htracks.sound.slots_of_keeps htracks'.sound hkeeps (ih b hb)
    · -- a block that was reserved just now is out
      obtain ⟨r, hr, htaken⟩ := mem_takenBlocks.1 hb
      apply htracks'.mem_slots
      rw [run_concat, Option.mem_toList.1 hr]
      exact mem_liveBlocks_iff.2 ⟨_, r, [], rfl, htaken, by simp⟩

variable {x y : Block} {name : String} {events : List (Event τ)}

/-- Blocks of one handle are one block, whenever they were reserved. -/
theorem eq_of_handle_run (created : create name c = .ok m) (hx : x ∈ takenBlocks (m.run events).2)
    (hy : y ∈ takenBlocks (m.run events).2) (hhandle : x.handle = y.handle) : x = y := by
  obtain ⟨hsound, hconfig⟩ := reachable_sound created events
  have hpointer := (housed_run created events x hx).pointer_eq (housed_run created events y hy)
    hsound.tracks.sound.placed (hconfig ▸ hsound.valid) hhandle
  cases x
  cases y
  cases hpointer
  cases hhandle
  rfl

/-- Blocks of different handles lie apart, whenever they were reserved. -/
theorem apart_run (created : create name c = .ok m) (hx : x ∈ takenBlocks (m.run events).2)
    (hy : y ∈ takenBlocks (m.run events).2) (hne : x.handle ≠ y.handle) : x.Apart c y := by
  obtain ⟨hsound, -⟩ := reachable_sound created events
  exact Config.slots_apart hsound.tracks.sound.packed.layout.span_apart
    (slots_run created events x hx) (slots_run created events y hy) (Address.toNat_inj.not.2 hne)

/-- **Any two blocks that were ever reserved are one block or lie apart.** -/
theorem eq_or_apart_run (created : create name c = .ok m) (hx : x ∈ takenBlocks (m.run events).2)
    (hy : y ∈ takenBlocks (m.run events).2) : x = y ∨ x.Apart c y := by
  by_cases hhandle : x.handle = y.handle
  · exact .inl (eq_of_handle_run created hx hy hhandle)
  · exact .inr (apart_run created hx hy hhandle)

end Machine

end BusPool.Pool
