import BusPool.Proofs.Memory
import BusPool.Proofs.Pool.Homes
import Mathlib.Data.List.Pairwise

/-!
# Bytes of blocks

A store maps each segment that it grants at bytes of local memory that belong to no other segment
(**`Machine.Mapped`**). Local memory does not lose bytes, so the segments of the index are mapped
apart from each other at all times (**`Machine.mappings_run`**). A block is mapped with its segment,
and so blocks without a bus address in common have no local byte in common either
(**`Machine.not_within_of_mappedApart`**).

Of all that happens in a pool only the delivery of a block may touch local memory
(**`Machine.step_memory_cases`**).
-/

namespace BusPool

open AddressMap SegmentIndex

variable {τ : Type}

/-! ### Where grants are mapped -/

/-- Two grants that are mapped without a byte in common. -/
def Grant.MappedApart (g h : Grant τ) : Prop :=
  g.mapping.region ≠ h.mapping.region ∨ g.mapping.offset + g.len.toNat ≤ h.mapping.offset ∨
    h.mapping.offset + h.len.toNat ≤ g.mapping.offset

/-- It does not matter which grant is named first. -/
theorem Grant.MappedApart.symm {g h : Grant τ} (hap : g.MappedApart h) : h.MappedApart g :=
  hap.elim (fun hregion => .inl hregion.symm) fun hrange => .inr (Or.symm hrange)

/-- What a store sees to when it maps a segment that it grants. -/
structure Grant.Mapped (memory : Memory) (earlier : List (Grant τ)) (g : Grant τ) : Prop where
  /-- There are as many bytes as the segment has. -/
  backed : memory.Holds g.mapping g.len.toNat
  /-- They belong to nothing that was granted before. -/
  apart : ∀ h ∈ earlier, h.MappedApart g

namespace Pool

variable {c : Config} {b b' : Block} {q : Pointer}

/-- The bytes of a block are bytes of its segment. -/
theorem Block.LiesIn.within {segment : Segment τ} (h : b.LiesIn c segment)
    (hq : q.Within b.pointer c.blockSize.toNat) :
    q.Within segment.mapping segment.extent.len.toNat := by
  obtain ⟨offset, -, hpointer, hfits⟩ := h.exists_offset
  rw [hpointer] at hq
  have hlow : segment.mapping.offset + offset.toNat ≤ q.offset := hq.low
  have hhigh : q.offset < segment.mapping.offset + offset.toNat + c.blockSize.toNat := hq.high
  exact ⟨hq.region_eq, by omega, by omega⟩

/-- Blocks in one segment share no byte if they lie apart on the bus. -/
theorem Block.LiesIn.not_within {segment : Segment τ} (h : b.LiesIn c segment)
    (h' : b'.LiesIn c segment) (hap : b.Apart c b') (hq : q.Within b.pointer c.blockSize.toNat) :
    ¬q.Within b'.pointer c.blockSize.toNat := by
  intro hq'
  have hlow := hq.low
  have hhigh := hq.high
  have hlow' := hq'.low
  have hhigh' := hq'.high
  have hstart := h.start_le
  have hstart' := h'.start_le
  rw [h.pointer_eq] at hlow hhigh
  rw [h'.pointer_eq] at hlow' hhigh'
  dsimp only at hlow hhigh hlow' hhigh'
  unfold Block.Apart at hap
  omega

namespace Machine

variable {m : Machine τ} {reports : List (Report τ)} {events : List (Event τ)} {id : Nat}

/-- The store maps what it grants, if it grants anything. -/
def Mapped (m : Machine τ) (reports : List (Report τ)) : Event τ → Prop
  | .reply id (.ok g) => ∀ flags minSize, m.stage? id = some (.importing flags minSize) →
    g.Mapped m.memory (granted reports)
  | _ => True

/-! ### What touches local memory -/

/-- Of all pieces only a delivery may touch local memory, and it does so to fill its block. -/
private theorem memory_of_advance {name : String} {s : State τ} {memory : Memory} {stage : Stage τ}
    {turn : Turn τ} (hturn : stage.advance? name c s memory = some turn) :
    turn.memory = memory ∨ ∃ flags b, stage = .delivering flags b ∧
      flags.contains AllocFlags.zero = true ∧
      turn.memory = memory.fill b.pointer c.blockSize.toNat 0 := by
  cases stage with
  | reserving flags =>
    cases hturn
    left
    unfold Stage.reserve
    split <;> rfl
  | adopting flags g =>
    cases hturn
    left
    unfold Stage.adopt
    split
    · rfl
    · dsimp only
      split <;> rfl
  | delivering flags b =>
    cases hturn
    unfold Stage.deliver
    cases hzero : flags.contains AllocFlags.zero with
    | true => exact .inr ⟨flags, b, rfl, hzero, rfl⟩
    | false => exact .inl rfl
  | freeing handle =>
    cases hturn
    left
    unfold Stage.free
    split <;> rfl
  | resolving handle ops =>
    cases hturn
    left
    unfold Stage.resolve
    split <;> rfl
  | sizing => cases hturn
  | importing => cases hturn
  | syncing => cases hturn

/-- What follows a piece leaves local memory alone. -/
@[simp] theorem follow_memory (m : Machine τ) (id : Nat) (next : Next τ) :
    (m.follow id next).memory = m.memory := by
  cases next <;> rfl

/-- **What an event does to local memory.** -/
theorem step_memory_cases (m : Machine τ) (e : Event τ) :
    (m.step e).1.memory = m.memory ∨
    (∃ bytes, e = .map bytes ∧ (m.step e).1.memory = m.memory.map bytes) ∨
    (∃ p n byte, e = .write p n byte ∧ (m.step e).1.memory = m.memory.fill p n byte) ∨
    ∃ id flags b, e = .advance id ∧ m.stage? id = some (.delivering flags b) ∧
      flags.contains AllocFlags.zero = true ∧
      (m.step e).1.memory = m.memory.fill b.pointer m.config.blockSize.toNat 0 := by
  cases e with
  | call request =>
    left
    exact follow_memory m m.begun (.goOn request.start)
  | advance id =>
    cases hturn : (m.stage? id).bind (Stage.advance? m.name m.config m.state m.memory) with
    | none =>
      left
      simp only [step, hturn]
    | some turn =>
      obtain ⟨stage, hstage, hmove⟩ := Option.bind_eq_some_iff.1 hturn
      rw [step_advance hstage hmove]
      rcases memory_of_advance hmove with hsame | ⟨flags, b, rfl, hzero, hfill⟩
      · left
        rw [follow_memory]
        exact hsame
      · refine .inr (.inr (.inr ⟨id, flags, b, rfl, hstage, hzero, ?_⟩))
        rw [follow_memory]
        exact hfill
  | granularity id g =>
    left
    cases hnext : (m.stage? id).bind (Stage.sized? m.config g) <;>
      simp only [step, hnext, follow_memory]
  | reply id answer =>
    left
    cases hnext : (m.stage? id).bind (Stage.replied? answer) <;>
      simp only [step, hnext, follow_memory]
  | acknowledge id =>
    left
    cases hnext : (m.stage? id).bind Stage.acknowledged? <;>
      simp only [step, hnext, follow_memory]
  | map bytes => exact .inr (.inl ⟨bytes, rfl, rfl⟩)
  | write p n byte => exact .inr (.inr (.inl ⟨p, n, byte, rfl, rfl⟩))

/-- No event takes a byte of local memory away. -/
theorem holds_step {p : Pointer} {n : Nat} (h : m.memory.Holds p n) (e : Event τ) :
    (m.step e).1.memory.Holds p n := by
  rcases m.step_memory_cases e with
    hsame | ⟨bytes, -, hmap⟩ | ⟨p', n', byte, -, hfill⟩ | ⟨id, flags, b, -, -, -, hfill⟩
  · rw [hsame]
    exact h
  · rw [hmap]
    exact h.map bytes
  · rw [hfill]
    exact h.fill p' n' byte
  · rw [hfill]
    exact h.fill b.pointer _ 0

/-! ### Mappings in runs -/

/-- What a call is about to add was granted. -/
theorem granted_of_stage {name : String} (created : create name c = .ok m) {stage : Stage τ}
    (hstage : (m.run events).1.stage? id = some stage) {g : Grant τ}
    (hgrant : stage.grant? = some g) : g ∈ granted (m.run events).2 := by
  obtain ⟨r, hr, -, hnext⟩ := mem_course.1 (mem_course_of_stage? created hstage)
  refine mem_granted.2 ⟨r, hr, ?_⟩
  rw [hnext]
  exact hgrant

/-- Segments of the index were granted. -/
theorem granted_of_index {name : String} (created : create name c = .ok m)
    (events : List (Event τ)) :
    ∀ g ∈ (m.run events).1.state.index.grants, g ∈ granted (m.run events).2 := by
  induction events using List.reverseRecOn with
  | nil =>
    rw [create_eq created]
    intro g hg
    cases hg
  | append_singleton events e ih =>
    obtain ⟨hsound, -⟩ := reachable_sound created events
    rw [run_concat, granted_append]
    intro g hg
    apply List.mem_append_left
    rcases hsound.step_index_cases e with hindex | ⟨id, stage, g', hstage, hgrant, -, -, hindex⟩
    · rw [hindex] at hg
      exact ih g hg
    · rw [hindex] at hg
      rcases mem_grants_adding hg with rfl | hg
      · exact granted_of_stage created hstage hgrant
      · exact ih g hg

/-- Where the segments are mapped that calls were granted. -/
structure Mappings (m : Machine τ) (reports : List (Report τ)) : Prop where
  /-- All their bytes are there. -/
  backed : ∀ g ∈ granted reports, m.memory.Holds g.mapping g.len.toNat
  /-- No byte belongs to two of them. -/
  apart : (granted reports).Pairwise Grant.MappedApart

/-- One event keeps segments mapped. -/
theorem Mappings.step (h : m.Mappings reports) {e : Event τ} (hmapped : Mapped m reports e) :
    (m.step e).1.Mappings (reports ++ (m.step e).2.toList) := by
  have hnew : ∀ g ∈ granted (m.step e).2.toList, g.Mapped m.memory (granted reports) := by
    intro g hg
    obtain ⟨r, hr, hgrant⟩ := mem_granted.1 hg
    obtain ⟨flags, minSize, rfl, hstage⟩ := reply_of_granted (Option.mem_toList.1 hr) hgrant
    exact hmapped flags minSize hstage
  refine ⟨?_, pairwise_granted h.apart fun g hg => (hnew g hg).apart⟩
  intro g hg
  rw [granted_append] at hg
  apply holds_step
  rcases List.mem_append.1 hg with hg | hg
  · exact h.backed g hg
  · exact (hnew g hg).backed

/-- **Segments are mapped apart in every run** in which the store maps what it grants. -/
theorem mappings_run (mapped : m.Along Mapped events) :
    (m.run events).1.Mappings (m.run events).2 := by
  induction events using List.reverseRecOn with
  | nil => exact ⟨fun g hg => (nomatch hg), .nil⟩
  | append_singleton events e ih =>
    obtain ⟨hinit, hlast⟩ := along_concat.1 mapped
    rw [run_concat]
    exact (ih hinit).step hlast

/-- The bytes of a block are there. -/
theorem Mappings.holds_block (h : m.Mappings reports)
    (hgranted : ∀ g ∈ m.state.index.grants, g ∈ granted reports)
    (hb : b.Housed c m.state.index) : m.memory.Holds b.pointer c.blockSize.toNat := by
  obtain ⟨x, hx, hlies⟩ := hb
  obtain ⟨offset, -, hpointer, hfits⟩ := hlies.exists_offset
  obtain ⟨bytes, hregion, hsize⟩ := h.backed _ (hgranted _ (mem_grants.2 ⟨x, hx, rfl⟩))
  have hend : x.2.mapping.offset + x.2.extent.len.toNat ≤ bytes.size := hsize
  refine ⟨bytes, ?_, ?_⟩
  · rw [hpointer]
    exact hregion
  · rw [hpointer]
    show x.2.mapping.offset + offset.toNat + c.blockSize.toNat ≤ bytes.size
    omega

/-- Blocks without a bus address in common have no local byte in common. -/
theorem not_within_of_mappedApart (hmapped : (granted reports).Pairwise Grant.MappedApart)
    (hplaced : m.state.index.Placed)
    (hgranted : ∀ g ∈ m.state.index.grants, g ∈ granted reports)
    (hb : b.Housed c m.state.index) (hb' : b'.Housed c m.state.index)
    (hap : b.Apart c b') (hq : q.Within b.pointer c.blockSize.toNat) :
    ¬q.Within b'.pointer c.blockSize.toNat := by
  obtain ⟨x, hx, hlies⟩ := hb
  obtain ⟨y, hy, hlies'⟩ := hb'
  by_cases hsame : x = y
  · rw [← hsame] at hlies'
    exact hlies.not_within hlies' hap hq
  · intro hq'
    have hne : x.2.grant ≠ y.2.grant := by
      intro heq
      have hstart := congrArg Grant.bus heq
      apply hsame
      apply entry_eq_of_mem hx hy
      rw [← hplaced.start_eq x hx, ← hplaced.start_eq y hy]
      exact hstart
    have hpairs : x.2.grant.MappedApart y.2.grant := by
      have := Std.Symm.mk (r := Grant.MappedApart (τ := τ)) fun _ _ => Grant.MappedApart.symm
      exact hmapped.forall (hgranted _ (mem_grants.2 ⟨x, hx, rfl⟩))
        (hgranted _ (mem_grants.2 ⟨y, hy, rfl⟩)) hne
    have hin := hlies.within hq
    have hin' := hlies'.within hq'
    have hlow := hin.low
    have hhigh := hin.high
    have hlow' := hin'.low
    have hhigh' := hin'.high
    rcases hpairs with hregion | hrange
    · exact hregion (hin.region_eq.symm.trans hin'.region_eq)
    · dsimp only [Segment.grant] at hrange
      omega

/-- This holds wherever the store maps what it grants. -/
theorem Mappings.not_within_of_apart (h : m.Mappings reports) (hplaced : m.state.index.Placed)
    (hgranted : ∀ g ∈ m.state.index.grants, g ∈ granted reports)
    (hb : b.Housed c m.state.index) (hb' : b'.Housed c m.state.index)
    (hap : b.Apart c b') (hq : q.Within b.pointer c.blockSize.toNat) :
    ¬q.Within b'.pointer c.blockSize.toNat :=
  not_within_of_mappedApart h.apart hplaced hgranted hb hb' hap hq

end Machine

end Pool

end BusPool
