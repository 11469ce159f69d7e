import BusPool.Proofs.Pool.Runs

/-!
# A pool is a map of slots

The arena splits and joins free extents and knows nothing of slots. All the same, a pool behaves
like a plain map that says of each slot whether it is taken (**`refines_slotMap`**):

* every block that is out takes a slot of its span;
* each try for a block, the first one of an allocation as well as the one after an import, takes
  the lowest vacant slot, and finds none exactly when no slot is vacant;
* a release makes the slot of the block vacant and no other.

Which slots there are depends on the spans only. An import that succeeds adds those of the new
span, wherever it lies.
-/

namespace BusPool.Pool

open AddressMap Arena

variable {τ : Type} {c : Config} {s : State τ} {live : List Block}

/-- Which slots there are, and which of them are taken. -/
@[ext]
structure SlotMap where
  /-- All slots. -/
  slots : Set Nat
  /-- The slots that are taken. -/
  taken : Set Nat

namespace SlotMap

/-- The slots that are not taken. -/
def vacant (p : SlotMap) : Set Nat := p.slots \ p.taken

/-- A try for a slot, with its answer. -/
inductive Reserves : SlotMap → Option Nat → SlotMap → Prop
  /-- The lowest vacant slot is taken. -/
  | lowest {p : SlotMap} {n : Nat} (least : IsLeast p.vacant n) :
    Reserves p (some n) { p with taken := insert n p.taken }
  /-- No slot is vacant. -/
  | full {p : SlotMap} (none_vacant : p.vacant = ∅) : Reserves p none p

/-- A try that finds a slot finds the lowest vacant one. -/
theorem Reserves.least {p p' : SlotMap} {n : Nat} (h : p.Reserves (some n) p') :
    IsLeast p.vacant n := by
  cases h with
  | lowest least => exact least

/-- A slot becomes vacant. -/
def release (p : SlotMap) (n : Nat) : SlotMap := { p with taken := p.taken \ {n} }

end SlotMap

/-- The slots that blocks take. -/
def takenSlots (live : List Block) : Set Nat := {n | ∃ b ∈ live, b.handle.toNat = n}

/-- The pool as a map of slots. -/
def State.slotMap (c : Config) (s : State τ) (live : List Block) : SlotMap :=
  ⟨c.slots s.arena.spans, takenSlots live⟩

/-- One more block takes one more slot. -/
theorem takenSlots_cons (b : Block) (live : List Block) :
    takenSlots (b :: live) = insert b.handle.toNat (takenSlots live) := by
  ext n
  rw [takenSlots, Set.mem_ofPred_eq, List.exists_mem_cons_iff, Set.mem_insert_iff]
  exact or_congr_left eq_comm

/-- The slots of other blocks stay taken. -/
theorem takenSlots_filter (handle : Address) (live : List Block) :
    takenSlots (live.filter fun b => b.handle ≠ handle) =
      takenSlots live \ {handle.toNat} := by
  ext n
  rw [Set.mem_sdiff, Set.mem_singleton_iff]
  constructor
  · rintro ⟨b, hb, rfl⟩
    obtain ⟨hb, hne⟩ := List.mem_filter.1 hb
    exact ⟨⟨b, hb, rfl⟩, Address.toNat_inj.not.2 (of_decide_eq_true hne)⟩
  · rintro ⟨⟨b, hb, rfl⟩, hne⟩
    exact ⟨b, List.mem_filter.2 ⟨hb, decide_eq_true (Address.toNat_inj.not.1 hne)⟩, rfl⟩

/-- The slots at which no block starts are the vacant ones. -/
theorem State.Tracks.vacant_eq (h : s.Tracks c live) :
    (s.slotMap c live).vacant = openSlots c s.arena := by
  rw [h.openSlots_eq]
  ext n
  refine and_congr_right fun _ => ⟨fun hn b hb heq => hn ⟨b, hb, heq⟩, ?_⟩
  rintro hn ⟨b, hb, heq⟩
  exact hn b hb heq

/-- A block that is reserved at the lowest open slot takes the lowest vacant one. -/
theorem State.Tracks.reserves_lowest (h : s.Tracks c live) {s' : State τ} {b : Block}
    (hleast : IsLeast (openSlots c s.arena) b.handle.toNat)
    (hspans : s'.arena.spans = s.arena.spans) :
    (s.slotMap c live).Reserves (some b.handle.toNat) (s'.slotMap c (b :: live)) := by
  rw [← h.vacant_eq] at hleast
  have hafter : s'.slotMap c (b :: live) =
      { s.slotMap c live with taken := insert b.handle.toNat (takenSlots live) } := by
    rw [slotMap, hspans, takenSlots_cons]
    rfl
  rw [hafter]
  exact .lowest hleast

/-- A grant that can be imported: no segment overlaps it, and it ends on the bus. -/
def State.Importable (s : State τ) (g : Grant τ) : Prop :=
  (∀ e ∈ s.index.extents, e.overlaps g.extent = false) ∧
    g.bus.toNat + g.len.toNat < UInt64.size

namespace Machine.Sound

variable {m : Machine τ} {id : Nat} {flags : AllocFlags}

/-- The first try of an allocation is a try for a slot. -/
theorem reserve_refines (h : m.Sound live) (hstage : m.stage? id = some (.reserving flags)) :
    ∃ r, (m.step (.advance id)).2 = some r ∧
      (r.taken? = none → r.next = .goOn (.sizing flags)) ∧
      (m.state.slotMap m.config live).Reserves (r.taken?.map fun b => b.handle.toNat)
        ((m.step (.advance id)).1.state.slotMap m.config (r.after live)) := by
  rw [step_advance_state hstage rfl, step_advance hstage rfl]
  refine ⟨_, rfl, ?_⟩
  rcases h.tracks.reserve h.valid m.memory flags with
    ⟨hrun, hnone⟩ | ⟨b, s', hrun, hleast, -, -, hspans, -⟩
  · rw [hrun, Report.after_eq_self (by simp) (by simp)]
    rw [← h.tracks.vacant_eq] at hnone
    exact ⟨fun _ => rfl, .full hnone⟩
  · rw [hrun, Report.after_of_not_freed (by simp)]
    refine ⟨fun htaken => ?_, h.tracks.reserves_lowest hleast hspans⟩
    cases htaken

/-- The try after an import is a try for a slot, with those of the new span. -/
theorem adopt_refines (h : m.Sound live) {g : Grant τ}
    (hstage : m.stage? id = some (.adopting flags g)) (himport : m.state.Importable g) :
    ∃ r, (m.step (.advance id)).2 = some r ∧
      (r.taken? = none → r.next = .returned (.failed .exhausted)) ∧
      SlotMap.Reserves
        ⟨m.config.slots (m.state.arena.spans.insert g.bus g.len), takenSlots live⟩
        (r.taken?.map fun b => b.handle.toNat)
        ((m.step (.advance id)).1.state.slotMap m.config (r.after live)) := by
  have hpos : 0 < g.len.toNat := h.ready _ (mem_of_stage? hstage)
  rw [step_advance_state hstage rfl, step_advance hstage rfl]
  refine ⟨_, rfl, ?_⟩
  rcases h.tracks.adopt h.valid m.memory flags hpos with
    ⟨f, -, e, he, hoverlap⟩ | ⟨hwraps, -⟩ | ⟨-, -, t, ht, -, hspans, htry⟩
  · rw [himport.1 e he] at hoverlap
    cases hoverlap
  · exact absurd himport.2 (Nat.not_lt.2 hwraps)
  · rw [← hspans]
    rcases htry with ⟨hrun, hnone⟩ | ⟨b, s', hrun, hleast, -, -, hspans', -⟩
    · rw [hrun, Report.after_eq_self (by simp) (by simp)]
      rw [← ht.vacant_eq] at hnone
      exact ⟨fun _ => rfl, .full hnone⟩
    · rw [hrun, Report.after_of_not_freed (by simp)]
      refine ⟨fun htaken => ?_, ht.reserves_lowest hleast hspans'⟩
      cases htaken

/-- An import that is refused ends the call before its second try, and no slot is touched. -/
theorem adopt_refused (h : m.Sound live) {g : Grant τ}
    (hstage : m.stage? id = some (.adopting flags g)) (himport : ¬m.state.Importable g) :
    ∃ r f, (m.step (.advance id)).2 = some r ∧ r.next = .returned (.fault f) ∧
      (m.step (.advance id)).1.state.slotMap m.config (r.after live) =
        m.state.slotMap m.config live := by
  have hpos : 0 < g.len.toNat := h.ready _ (mem_of_stage? hstage)
  rw [step_advance_state hstage rfl, step_advance hstage rfl]
  rcases h.tracks.adopt h.valid m.memory flags hpos with
    ⟨f, hrun, -⟩ | ⟨-, -, hrun, -⟩ | ⟨hstop, hclear, -⟩
  · refine ⟨_, f, rfl, ?_⟩
    rw [hrun, Report.after_eq_self (by simp) (by simp)]
    exact ⟨rfl, rfl⟩
  · refine ⟨_, .spanWraps g.extent, rfl, ?_⟩
    rw [hrun, Report.after_eq_self (by simp) (by simp)]
    exact ⟨rfl, rfl⟩
  · exact absurd ⟨hclear, hstop⟩ himport

/-- A release of a block that is out is a release of its slot. -/
theorem free_refines (h : m.Sound live) {b : Block} (hb : b ∈ live)
    (hstage : m.stage? id = some (.freeing b.handle)) :
    ∃ r, (m.step (.advance id)).2 = some r ∧ r.next = .returned .done ∧
      (m.step (.advance id)).1.state.slotMap m.config (r.after live) =
        (m.state.slotMap m.config live).release b.handle.toNat := by
  rw [step_advance_state hstage rfl, step_advance hstage rfl]
  refine ⟨_, rfl, ?_⟩
  obtain ⟨s', hrun, -, -, hspans⟩ := h.tracks.free h.valid m.memory m.name ⟨b, hb, rfl⟩
  have hturn : Stage.free m.name m.config m.state m.memory b.handle =
      ⟨s', m.memory, [.freed b.handle], .returned .done⟩ := hrun
  rw [hturn, Report.after_freed]
  refine ⟨rfl, ?_⟩
  rw [State.slotMap, hspans, takenSlots_filter]
  rfl

end Machine.Sound

/-- **A pool refines a map of slots.** In every reachable state blocks that are out take slots of
spans, and what a call does next to reserve or release a block is what the map of slots does. -/
theorem refines_slotMap {name : String} {m : Machine τ} (created : Machine.create name c = .ok m)
    (events : List (Event τ)) :
    let reached := (m.run events).1
    let live := liveBlocks (m.run events).2
    let before := reached.state.slotMap c live
    (∀ b ∈ live, ∃ span ∈ reached.state.arena.spans.entries, c.IsSlot span b.handle.toNat) ∧
    (∀ id flags, reached.stage? id = some (.reserving flags) →
      ∃ r, (reached.step (.advance id)).2 = some r ∧
        (r.taken? = none → r.next = .goOn (.sizing flags)) ∧
        before.Reserves (r.taken?.map fun b => b.handle.toNat)
          ((reached.step (.advance id)).1.state.slotMap c (r.after live))) ∧
    (∀ id flags g, reached.stage? id = some (.adopting flags g) → reached.state.Importable g →
      ∃ r, (reached.step (.advance id)).2 = some r ∧
        (r.taken? = none → r.next = .returned (.failed .exhausted)) ∧
        SlotMap.Reserves
          { before with slots := c.slots (reached.state.arena.spans.insert g.bus g.len) }
          (r.taken?.map fun b => b.handle.toNat)
          ((reached.step (.advance id)).1.state.slotMap c (r.after live))) ∧
    (∀ id flags g, reached.stage? id = some (.adopting flags g) → ¬reached.state.Importable g →
      ∃ r f, (reached.step (.advance id)).2 = some r ∧ r.next = .returned (.fault f) ∧
        (reached.step (.advance id)).1.state.slotMap c (r.after live) = before) ∧
    (∀ id, ∀ b ∈ live, reached.stage? id = some (.freeing b.handle) →
      ∃ r, (reached.step (.advance id)).2 = some r ∧ r.next = .returned .done ∧
        (reached.step (.advance id)).1.state.slotMap c (r.after live) =
          before.release b.handle.toNat) := by
  intro reached live before
  obtain ⟨hsound, hconfig⟩ := Machine.reachable_sound created events
  have hbefore : before = reached.state.slotMap reached.config live := by rw [hconfig]
  rw [hbefore, ← hconfig]
  refine ⟨fun b hb => ?_, fun id flags hstage => hsound.reserve_refines hstage,
    fun id flags g hstage himport => hsound.adopt_refines hstage himport,
    fun id flags g hstage himport => hsound.adopt_refused hstage himport,
    fun id b hb hstage => hsound.free_refines hb hstage⟩
  exact hsound.tracks.sound.packed.block_slot _ ((hsound.tracks.live_iff b.handle).1 ⟨b, hb, rfl⟩)

/-- In the small run the third allocation takes the slot behind the boundary: the bytes right after
the second block are too few before it. -/
theorem refines_slotMap_sample :
    let reached := (samplePool.run sampleRun).1
    let live := liveBlocks (samplePool.run sampleRun).2
    Machine.create "pool" ⟨96, 32, 256⟩ = .ok samplePool ∧
      reached.stage? 2 = some (.reserving AllocFlags.zero) ∧
      IsLeast (reached.state.slotMap ⟨96, 32, 256⟩ live).vacant 65792 := by
  intro reached live
  have hstage : reached.stage? 2 = some (.reserving AllocFlags.zero) := rfl
  obtain ⟨-, hreserve, -⟩ := refines_slotMap samplePool_created sampleRun
  obtain ⟨r, hr, -, htry⟩ := hreserve 2 AllocFlags.zero hstage
  have htaken : (reached.step (.advance 2)).2.map Report.taken? =
      some (some ⟨⟨0, 256⟩, ⟨65792⟩⟩) := by decide +kernel
  rw [hr] at htaken
  rw [Option.some.inj htaken] at htry
  exact ⟨samplePool_created, hstage, htry.least⟩

end BusPool.Pool
