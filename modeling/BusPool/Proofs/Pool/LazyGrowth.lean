import BusPool.Proofs.Packings
import BusPool.Proofs.Pool.Courses
import BusPool.Proofs.Pool.Runs

/-!
# A pool grows only when it is full

A call asks the store for a segment only after a first try that found no open slot. At that moment
there is a block in every slot of every span, and since no packing has more blocks than there are
slots, every span holds as many blocks as it possibly can (**`growth_only_when_full`**). What was
reserved and freed before makes no difference: freed blocks leave slots open, and never bytes that
cannot be used again.
-/

namespace BusPool.Pool

open AddressMap Arena Config

variable {τ : Type} {c : Config} {s : State τ} {live : List Block} {x : Address × Word}

/-- The blocks that lie inside a stretch. -/
def blocksInside (c : Config) (x : Address × Word) (live : List Block) : List Block :=
  live.filter fun b =>
    x.1.toNat ≤ b.handle.toNat ∧ b.handle.toNat + c.blockSize.toNat ≤ stopOf x

/-- Which blocks these are. -/
theorem mem_blocksInside {b : Block} : b ∈ blocksInside c x live ↔
    b ∈ live ∧ x.1.toNat ≤ b.handle.toNat ∧ b.handle.toNat + c.blockSize.toNat ≤ stopOf x := by
  rw [blocksInside, List.mem_filter, decide_eq_true_iff]

namespace State.Tracks

/-- A block that lies inside a span is in a slot of it. -/
theorem isSlot_of_inside (h : s.Tracks c live) (hc : c.Valid) (hx : x ∈ s.arena.spans.entries)
    {b : Block} (hb : b ∈ blocksInside c x live) : c.IsSlot x b.handle.toNat := by
  obtain ⟨hb, hlow, hhigh⟩ := mem_blocksInside.1 hb
  have hblock := (h.live_iff b.handle).1 ⟨b, hb, rfl⟩
  have hpos := hc.blockSize_pos
  apply h.sound.packed.slot_of_shared hc hblock hx (n := b.handle.toNat)
  · exact holds_start hpos
  · exact ⟨hlow, by omega⟩

/-- Where no slot is open, every slot of a span has a block. -/
theorem exists_block_of_slot (h : s.Tracks c live) (hx : x ∈ s.arena.spans.entries)
    (hfull : openSlots c s.arena = ∅) {n : Nat} (hn : c.IsSlot x n) :
    ∃ b ∈ blocksInside c x live, b.handle.toNat = n := by
  rw [h.openSlots_eq] at hfull
  by_contra hnone
  have hopen : n ∈ {n ∈ c.slots s.arena.spans | ∀ b ∈ live, b.handle.toNat ≠ n} := by
    refine ⟨⟨x, hx, hn⟩, ?_⟩
    rintro b hb rfl
    exact hnone ⟨b, mem_blocksInside.2 ⟨hb, hn.start_le, hn.fits⟩, rfl⟩
  rw [hfull] at hopen
  exact hopen

/-- **Where no slot is open, every span holds as many blocks as fit.** -/
theorem isGreatest_of_full (h : s.Tracks c live) (hc : c.Valid) (hx : x ∈ s.arena.spans.entries)
    (hfull : openSlots c s.arena = ∅) :
    IsGreatest (c.packingSizes x) (blocksInside c x live).length := by
  have hdistinct : ((blocksInside c x live).map fun b => b.handle.toNat).Nodup := by
    rw [List.Nodup, List.pairwise_map]
    apply (h.distinct.filter _).imp
    intro a b hne
    exact Address.toNat_inj.not.2 hne
  have hslots : ∀ n, n ∈ ((blocksInside c x live).map fun b => b.handle.toNat).toFinset ↔
      c.IsSlot x n := by
    intro n
    rw [List.mem_toFinset, List.mem_map]
    constructor
    · rintro ⟨b, hb, rfl⟩
      exact h.isSlot_of_inside hc hx hb
    · intro hn
      exact h.exists_block_of_slot hx hfull hn
  have hgreatest := isGreatest_packingSizes hc hslots
  rwa [List.toFinset_card_of_nodup hdistinct, List.length_map] at hgreatest

end State.Tracks

namespace Machine

variable {m : Machine τ} {id : Nat} {flags : AllocFlags}

/-- **A first try that fails finds no open slot** and changes nothing. -/
theorem Sound.full_of_missed (h : m.Sound live) {stage : Stage τ} {turn : Turn τ}
    (hmove : m.Moves stage turn) (hnext : turn.next = .goOn (.sizing flags)) :
    stage = .reserving flags ∧ turn = ⟨m.state, m.memory, [], .goOn (.sizing flags)⟩ ∧
      openSlots m.config m.state.arena = ∅ := by
  have hleads := hmove.leads
  rw [hnext] at hleads
  cases hleads
  cases hmove.eq_of_advance rfl
  rcases h.tracks.reserve h.valid m.memory flags with ⟨hrun, hnone⟩ | ⟨b, s', hrun, -⟩
  · exact ⟨rfl, hrun, hnone⟩
  · rw [hrun] at hnext
    cases hnext

end Machine

/-- A call that asks the store for a segment was told to ask for the granularity before. -/
theorem Course.sizing_of_importing {nexts : List (Next τ)} {flags : AllocFlags} {minSize : Word}
    (h : Course Stage.Leads nexts (some (.importing flags minSize))) :
    .goOn (.sizing flags) ∈ nexts := by
  generalize hlast : some (Stage.importing flags minSize) = last at h
  cases h with
  | idle => cases hlast
  | began request => cases request <;> cases hlast
  | @moved nexts stage next before leads =>
    cases next with
    | goOn next =>
      cases hlast
      cases leads
      exact List.mem_append_left _ before.mem_of_stage
    | returned outcome => cases hlast

/-- **A pool grows only when it is full.** When a call asks the store for a segment, it has tried
for a block before, and in the state of that try, which it left as it was, every span of the arena
held as many of the blocks that were out as any packing of the span has. -/
theorem growth_only_when_full {name : String} {m : Machine τ}
    (created : Machine.create name c = .ok m) (events : List (Event τ)) {id : Nat}
    {flags : AllocFlags} {minSize : Word}
    (asks : (m.run events).1.stage? id = some (.importing flags minSize)) :
    ∃ front e back, events = front ++ e :: back ∧
      (m.run front).1.stage? id = some (.reserving flags) ∧
      ((m.run front).1.step e).2 = some ⟨id, [], .goOn (.sizing flags)⟩ ∧
      ((m.run front).1.step e).1.state = (m.run front).1.state ∧
      ∀ x ∈ (m.run front).1.state.arena.spans.entries,
        IsGreatest (c.packingSizes x) (blocksInside c x (liveBlocks (m.run front).2)).length := by
  have hcourse := Machine.course_leads created events id
  rw [asks] at hcourse
  obtain ⟨r, hr, rfl, hnext⟩ := mem_course.1 hcourse.sizing_of_importing
  obtain ⟨front, e, back, hsplit, hreport⟩ := Machine.exists_event_of_report hr
  obtain ⟨hsound, hconfig⟩ := Machine.reachable_sound created front
  refine ⟨front, e, back, hsplit, ?_⟩
  rcases (m.run front).1.step_call_cases e r.call with
    ⟨-, hother⟩ | ⟨-, request, -, hbegan⟩ | ⟨stage, turn, hstage, hmove, hstate, -, hmoved⟩
  · exact absurd rfl (hother r hreport)
  · rw [hreport] at hbegan
    have hstart := congrArg Report.next (Option.some.inj hbegan)
    rw [hnext] at hstart
    cases request <;> cases hstart
  · rw [hreport] at hmoved
    have hturn := congrArg Report.next (Option.some.inj hmoved)
    rw [hnext] at hturn
    obtain ⟨rfl, rfl, hfull⟩ := hsound.full_of_missed hmove hturn.symm
    rw [hreport, hmoved]
    refine ⟨hstage, rfl, hstate, ?_⟩
    rw [hconfig] at hfull
    have hvalid := hsound.valid
    have htracks := hsound.tracks
    rw [hconfig] at hvalid htracks
    intro x hx
    exact htracks.isGreatest_of_full hvalid hx hfull

/-- A segment with room for two blocks. -/
def smallGrant : Grant Unit := ⟨⟨65536⟩, 256, ⟨0, 0⟩, ()⟩

/-- A segment is imported and filled up, its first block is freed and reserved again, and one more
allocation finds no room. -/
def fillingRun : List (Event Unit) :=
  [.call (.allocate AllocFlags.zero), .advance 0, .granularity 0 256, .reply 0 (.ok smallGrant),
    .advance 0, .call (.allocate AllocFlags.zero), .advance 1, .call (.free ⟨65536⟩), .advance 2,
    .call (.allocate AllocFlags.zero), .advance 3, .call (.allocate AllocFlags.zero), .advance 4,
    .granularity 4 256]

/-- In that run the last allocation asks for a segment after two blocks were out of the first one,
and no packing of it has three. -/
theorem growth_of_small_segment :
    Machine.create "pool" ⟨96, 32, 256⟩ = .ok samplePool ∧
      (samplePool.run fillingRun).1.stage? 4 = some (.importing AllocFlags.zero 256) ∧
      IsGreatest (packingSizes ⟨96, 32, 256⟩ (⟨65536⟩, 256)) 2 := by
  have hasks : (samplePool.run fillingRun).1.stage? 4 = some (.importing AllocFlags.zero 256) := rfl
  obtain ⟨front, e, back, hsplit, hstage, -, -, hgreatest⟩ :=
    growth_only_when_full samplePool_created fillingRun hasks
  have htake : front = fillingRun.take front.length := by
    rw [hsplit, List.take_left]
  have hlen : front.length < 14 := by
    have := congrArg List.length hsplit
    rw [List.length_append, List.length_cons] at this
    have hfourteen : fillingRun.length = 14 := rfl
    omega
  -- the call tries for a block after twelve events, and at no other time
  have htry : ∀ k < 14, ((samplePool.run (fillingRun.take k)).1.stage? 4).map Stage.remaining =
      some 5 → k = 12 := by
    decide +kernel
  have hfront : front = fillingRun.take 12 := by
    rw [htake] at hstage
    rw [htake, htry _ hlen (congrArg (Option.map Stage.remaining) hstage)]
  subst hfront
  exact ⟨samplePool_created, hasks, hgreatest (⟨65536⟩, 256) (by decide +kernel)⟩

end BusPool.Pool
