import BusPool.Proofs.Pool.Custody
import BusPool.Proofs.Pool.Mappings

/-!
# Nobody touches a block but its owner

A block is filled with zeroes after the lock was let go, and through a pointer that was worked out
before. All the same, a pool never touches a byte of a block that is not its own to fill
(**`block_bytes_untouched`**): an allocation that asks for zeroes fills exactly its block, no other
call writes anything, and what is in a block after a call has returned with it stays there until
somebody else writes to it or the block is taken back. The store has to map what it grants, and
callers must not free what they do not hold; the grants may lie wherever they like on the bus.

A block that is about to be filled is in the hands of its call and one that is lent is not, so the
two have different handles. Such blocks lie apart on the bus, and with it in local memory.
-/

namespace BusPool.Pool

open SegmentIndex

variable {τ : Type} {c : Config} {b : Block} {q : Pointer}

/-- What the delivery of a zero-filled block leaves behind. -/
structure ZeroFilled (c : Config) (before after : Machine τ) (b : Block) : Prop where
  /-- The block lies in the segment that owns its handle, with all of its bytes. -/
  home : ∃ segment offset, after.state.index.owner b.handle = .ok segment ∧
    b.pointer = segment.mapping.advance offset ∧
    offset.toNat + c.blockSize.toNat ≤ segment.extent.len.toNat
  /-- All bytes of the block are zero. -/
  zero : ∀ q, q.Within b.pointer c.blockSize.toNat → after.memory.byteAt? q = some 0
  /-- Every other byte is what it was. -/
  others : ∀ q, ¬q.Within b.pointer c.blockSize.toNat →
    after.memory.byteAt? q = before.memory.byteAt? q

namespace Machine

variable {m : Machine τ} {name : String} {events later : List (Event τ)} {e : Event τ}
  {r : Report τ} {id : Nat} {flags : AllocFlags}

/-! ### Deliveries -/

/-- A call that returns with a block has just carried out its delivery. -/
theorem delivering_of_report (hr : (m.step e).2 = some r)
    (hnext : r.next = .returned (.block b)) :
    ∃ flags, e = .advance r.call ∧ m.stage? r.call = some (.delivering flags b) := by
  cases prompts_of_step hr with
  | begins request => cases hnext
  | advances stands advance =>
    obtain ⟨flags, rfl⟩ := (Moves.piece advance).delivering_of_returned hnext
    exact ⟨flags, rfl, stands⟩
  | sizes stands answered =>
    obtain ⟨flags, rfl⟩ := (Moves.sized (m := m) answered).delivering_of_returned hnext
    cases answered
  | replies stands answered =>
    obtain ⟨flags, rfl⟩ := (Moves.replied (m := m) answered).delivering_of_returned hnext
    cases answered
  | acknowledges stands answered =>
    obtain ⟨flags, rfl⟩ := (Moves.acknowledged (m := m) answered).delivering_of_returned hnext
    cases answered

/-- What a delivery leaves behind. -/
theorem step_deliver (hstage : m.stage? id = some (.delivering flags b)) :
    (m.step (.advance id)).1.state = m.state ∧
      (m.step (.advance id)).1.memory = if flags.contains AllocFlags.zero then
        m.memory.fill b.pointer m.config.blockSize.toNat 0 else m.memory := by
  rw [step_advance hstage rfl]
  exact ⟨follow_state _, follow_memory _ _ _⟩

/-- **A delivery fills exactly its block**, if zeroes were asked for. -/
theorem zeroFilled_of_delivering (created : create name c = .ok m)
    (mapped : m.Along Mapped events)
    (hstage : (m.run events).1.stage? id = some (.delivering flags b))
    (hzero : flags.contains AllocFlags.zero = true) :
    ZeroFilled c (m.run events).1 ((m.run events).1.step (.advance id)).1 b := by
  obtain ⟨hsound, hconfig⟩ := reachable_sound created events
  have hvalid : c.Valid := hconfig ▸ hsound.valid
  have hhoused := housed_run created events b (taken_of_delivering created hstage)
  obtain ⟨hstate, hmemory⟩ := step_deliver hstage
  rw [hzero, if_pos rfl, hconfig] at hmemory
  refine ⟨?_, ?_, ?_⟩
  · obtain ⟨segment, howner, hlies⟩ := hhoused.exists_owner hsound.tracks.sound.placed hvalid
    obtain ⟨offset, -, hpointer, hfits⟩ := hlies.exists_offset
    rw [hstate]
    exact ⟨segment, offset, howner, hpointer, hfits⟩
  · intro q hq
    have hholds := (mappings_run mapped).holds_block (granted_of_index created events) hhoused
    obtain ⟨byte, hbyte⟩ := hholds.exists_byte hq
    rw [hmemory, Memory.byteAt?_fill_of_within hq, hbyte]
    rfl
  · intro q hq
    rw [hmemory, Memory.byteAt?_fill_of_not_within hq]

/-! ### Blocks that are lent -/

/-- **An event leaves the bytes of a lent block alone**, unless it writes to them from outside. -/
theorem lent_byte_step (created : create name c = .ok m) (entitled : m.Along Entitled events)
    (mapped : m.Along Mapped events) (hb : b ∈ lentBlocks (m.run events).2)
    (hq : q.Within b.pointer c.blockSize.toNat) (e : Event τ)
    (hwrite : ∀ p n byte, e = .write p n byte → ¬q.Within p n) :
    ((m.run events).1.step e).1.memory.byteAt? q = (m.run events).1.memory.byteAt? q := by
  obtain ⟨hsound, hconfig⟩ := reachable_sound created events
  have hmappings := mappings_run mapped
  have hgranted := granted_of_index created events
  obtain ⟨r, hr, hreturned⟩ := returned_of_gathered hb
  have htaken := taken_of_returned created hr hreturned
  have hhoused := housed_run created events b htaken
  rcases (m.run events).1.step_memory_cases e with
    hsame | ⟨bytes, -, hmap⟩ | ⟨p, n, byte, he, hfill⟩ | ⟨id, flags, b', -, hstage, -, hfill⟩
  · rw [hsame]
  · rw [hmap]
    exact (hmappings.holds_block hgranted hhoused).byteAt?_map hq bytes
  · rw [hfill]
    exact Memory.byteAt?_fill_of_not_within (hwrite p n byte he) byte
  · have hcustody := custody_run created entitled
    have hdelivery : b'.handle ∈ (m.run events).1.deliveries := mem_collect hstage rfl
    have hloan := hcustody.lent b hb
    have hne := hcustody.ne_of_delivery hsound hdelivery hloan
    have htaken' := taken_of_delivering created hstage
    have hap := apart_run created htaken htaken' hne.symm
    have hhoused' := housed_run created events b' htaken'
    rw [hfill, hconfig]
    exact Memory.byteAt?_fill_of_not_within (hmappings.not_within_of_apart
      hsound.tracks.sound.placed hgranted hhoused hhoused' hap hq) 0

/-- **What is in a block stays there while it is lent**, unless somebody writes to it. -/
theorem lent_byte_run (created : create name c = .ok m)
    (entitled : m.Along Entitled (events ++ later)) (mapped : m.Along Mapped (events ++ later))
    (hb : b ∈ lentBlocks (m.run events).2)
    (hkept : ∀ r ∈ ((m.run events).1.run later).2, Record.freed b.handle ∉ r.records)
    (hq : q.Within b.pointer c.blockSize.toNat)
    (hwrites : ∀ p n byte, .write p n byte ∈ later → ¬q.Within p n) :
    (m.run (events ++ later)).1.memory.byteAt? q = (m.run events).1.memory.byteAt? q := by
  induction later using List.reverseRecOn with
  | nil => rw [List.append_nil]
  | append_singleton later e ih =>
    rw [← List.append_assoc] at entitled mapped ⊢
    rw [run_concat] at hkept
    have hkept' : ∀ r ∈ ((m.run events).1.run later).2, Record.freed b.handle ∉ r.records :=
      fun r hr => hkept r (List.mem_append_left _ hr)
    have hlent : b ∈ lentBlocks (m.run (events ++ later)).2 := by
      rw [run_append]
      exact mem_gathered_append hb fun r hr => decide_eq_true (hkept' r hr)
    have hstep := lent_byte_step created entitled.front mapped.front hlent hq e fun p n byte he =>
      hwrites p n byte (he ▸ List.mem_append_right _ List.mem_cons_self)
    rw [run_concat]
    exact hstep.trans (ih entitled.front mapped.front hkept' fun p n byte hwrite =>
      hwrites p n byte (List.mem_append_left _ hwrite))

end Machine

/-- **A pool touches no byte of a block but to fill it.** -/
theorem block_bytes_untouched {name : String} {m : Machine τ}
    (created : Machine.create name c = .ok m) {events later : List (Event τ)} {e : Event τ}
    (entitled : m.Along Machine.Entitled (events ++ e :: later))
    (mapped : m.Along Machine.Mapped (events ++ e :: later)) :
    let before := (m.run events).1
    let after := (before.step e).1
    (∀ r b, (before.step e).2 = some r → r.next = .returned (.block b) →
      (∀ flags, .goOn (Request.allocate flags).start ∈ course r.call (m.run events).2 →
        if flags.contains AllocFlags.zero then ZeroFilled c before after b
        else after.memory = before.memory) ∧
      ((∀ r' ∈ (after.run later).2, Record.freed b.handle ∉ r'.records) →
        ∀ q, q.Within b.pointer c.blockSize.toNat →
          (∀ p n byte, .write p n byte ∈ later → ¬q.Within p n) →
          (after.run later).1.memory.byteAt? q = after.memory.byteAt? q)) ∧
    ((∀ r b, (before.step e).2 = some r → r.next ≠ .returned (.block b)) →
      (∀ bytes, e ≠ .map bytes) → (∀ p n byte, e ≠ .write p n byte) →
      after.memory = before.memory) := by
  intro before after
  have hreached : m.run (events ++ [e]) = (after, (m.run events).2 ++ (before.step e).2.toList) :=
    Machine.run_concat m events e
  have hafter : (m.run (events ++ [e])).1 = after := congrArg Prod.fst hreached
  constructor
  · intro r b hr hnext
    obtain ⟨flags, rfl, hstage⟩ := Machine.delivering_of_report hr hnext
    constructor
    · intro flags' htold
      have hcourse := Machine.course_leads created events r.call
      rw [hstage] at hcourse
      have hflags : some flags' = some flags := hcourse.flags?_eq htold
      cases hflags
      split
      · rename_i hzero
        exact Machine.zeroFilled_of_delivering created mapped.front hstage hzero
      · rename_i hzero
        exact (Machine.step_deliver hstage).2.trans (if_neg hzero)
    · intro hkept q hq hwrites
      rw [List.append_cons] at entitled mapped
      have hlent : b ∈ lentBlocks (m.run (events ++ [.advance r.call])).2 := by
        rw [hreached, hr, Option.toList_some, lentBlocks, gathered_concat]
        exact List.mem_append_left _ (Option.mem_toList.2 (Report.given?_eq_some_iff.2 hnext))
      have hrun := Machine.lent_byte_run created entitled mapped hlent
        (by rw [hafter]; exact hkept) hq hwrites
      rw [Machine.run_append, hafter] at hrun
      exact hrun
  · intro hnone hmap hwrite
    rcases before.step_memory_cases e with
      hsame | ⟨bytes, he, -⟩ | ⟨p, n, byte, he, -⟩ | ⟨id, flags, b, rfl, hstage, -, -⟩
    · exact hsame
    · exact absurd he (hmap bytes)
    · exact absurd he (hwrite p n byte)
    · rw [Machine.step_advance hstage rfl] at hnone
      exact absurd rfl (hnone _ b rfl)

/-- A new pool of small blocks. -/
def tinyPool : Machine Unit := ⟨"pool", ⟨16, 16, 0⟩, .empty, .empty, 0, []⟩

/-- A segment with room for two of them, mapped behind four bytes of something else. -/
def tinyGrant : Grant Unit := ⟨⟨65536⟩, 32, ⟨0, 4⟩, ()⟩

/-- The segment is mapped with old contents and granted to a call that is to fill its block. -/
def zeroingRun : List (Event Unit) :=
  [.call (.allocate AllocFlags.zero), .advance 0, .granularity 0 32,
    .map (Array.replicate 40 7), .reply 0 (.ok tinyGrant), .advance 0]

/-- Another call fills the block behind the first one, the bytes in front of the segment are
written to, and the second block is taken back. -/
def neighbourRun : List (Event Unit) :=
  [.call (.allocate AllocFlags.zero), .advance 1, .advance 1, .write ⟨0, 0⟩ 4 9,
    .call (.free ⟨65552⟩), .advance 2]

/-- The caller holds what it frees there. -/
theorem neighbourRun_entitled :
    tinyPool.Along Machine.Entitled (zeroingRun ++ .advance 0 :: neighbourRun) := by
  iterate 11
    refine Machine.along_cons.2 ⟨trivial, ?_⟩
  refine Machine.along_cons.2 ⟨⟨⟨⟨0, 20⟩, ⟨65552⟩⟩, by decide +kernel, rfl⟩, ?_⟩
  exact Machine.along_cons.2 ⟨trivial, Machine.along_nil⟩

/-- The store maps what it grants there. -/
theorem neighbourRun_mapped :
    tinyPool.Along Machine.Mapped (zeroingRun ++ .advance 0 :: neighbourRun) := by
  iterate 4
    refine Machine.along_cons.2 ⟨trivial, ?_⟩
  refine Machine.along_cons.2 ⟨?_, ?_⟩
  · rintro flags minSize ⟨⟩
    exact ⟨⟨_, rfl, by decide +kernel⟩, fun g hg => nomatch hg⟩
  · iterate 8
      refine Machine.along_cons.2 ⟨trivial, ?_⟩
    exact Machine.along_nil

/-- The old contents of the first block give way to zeroes, which are still there when the second
block has come and gone. -/
theorem block_bytes_of_neighbours :
    let before := (tinyPool.run zeroingRun).1
    let after := (before.step (.advance 0)).1
    Machine.create "pool" ⟨16, 16, 0⟩ = .ok tinyPool ∧
      tinyPool.Along Machine.Entitled (zeroingRun ++ .advance 0 :: neighbourRun) ∧
      tinyPool.Along Machine.Mapped (zeroingRun ++ .advance 0 :: neighbourRun) ∧
      before.memory.read ⟨0, 0⟩ 40 = Array.replicate 40 7 ∧
      ZeroFilled ⟨16, 16, 0⟩ before after ⟨⟨0, 4⟩, ⟨65536⟩⟩ ∧
      Memory.runs ((after.run neighbourRun).1.memory.read ⟨0, 0⟩ 40) = [(9, 4), (0, 32), (7, 4)] ∧
      ∀ q : Pointer, q.Within ⟨0, 4⟩ 16 →
        (after.run neighbourRun).1.memory.byteAt? q = some 0 := by
  intro before after
  have created : Machine.create "pool" ⟨16, 16, 0⟩ = .ok tinyPool := rfl
  have hreport : (before.step (.advance 0)).2 =
      some ⟨0, [.allocated ⟨65536⟩], .returned (.block ⟨⟨0, 4⟩, ⟨65536⟩⟩)⟩ := rfl
  have htold : .goOn (Request.allocate AllocFlags.zero).start ∈
      course 0 (tinyPool.run zeroingRun).2 := List.mem_cons_self
  have hkept : ∀ r ∈ (after.run neighbourRun).2, Record.freed ⟨65536⟩ ∉ r.records := by
    decide +kernel
  obtain ⟨hdelivered, -⟩ :=
    block_bytes_untouched created neighbourRun_entitled neighbourRun_mapped
  obtain ⟨hfilled, hstays⟩ := hdelivered _ _ hreport rfl
  have hzero : ZeroFilled ⟨16, 16, 0⟩ before after ⟨⟨0, 4⟩, ⟨65536⟩⟩ := hfilled _ htold
  refine ⟨created, neighbourRun_entitled, neighbourRun_mapped, by decide +kernel, hzero,
    by decide +kernel, fun q hq => ?_⟩
  rw [hstays hkept q hq, hzero.zero q hq]
  intro p n byte hwrite hin
  simp only [neighbourRun, List.mem_cons, List.not_mem_nil, reduceCtorEq, false_or, or_false,
    Event.write.injEq] at hwrite
  obtain ⟨rfl, rfl, rfl⟩ := hwrite
  exact Nat.not_le.2 hin.high hq.low

end BusPool.Pool
