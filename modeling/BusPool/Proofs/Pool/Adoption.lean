import BusPool.Proofs.Pool.Grants
import BusPool.Proofs.Room

/-!
# Grants lead to blocks

Between the answer of the store and the moment its grant is added, any number of other calls may
come in between. What they do is of no consequence to the call: nobody else has blocks in the
segment before it is added, and the second try for a block takes place under the same lock. So
whoever is granted a segment gets a block (**`Machine.Ledger.adopts`**), provided that the store
keeps its promises, starts its segments at multiples of its granularity and ends them on the bus.

A call that was granted a segment is then on a course that ends with a block and nothing else
(**`Course.after_adopting`**), and two pieces of its own bring it there
(**`Machine.Honest.returned_of_advances`**).
-/

namespace BusPool.Pool

open AddressMap Arena SegmentIndex

variable {τ : Type} {c : Config} {s t : State τ} {live : List Block} {g : Grant τ}

/-! ### Room in a new segment -/

/-- **All slots of a new span are open.** A block in one of them would have been in a slot of a
span before, whose segment would overlap the grant. -/
theorem State.Tracks.openSlot_of_import (h : s.Tracks c live) (hc : c.Valid)
    (hclear : ∀ e ∈ s.index.extents, e.overlaps g.extent = false)
    (hstop : g.bus.toNat + g.len.toNat < UInt64.size) (ht : t.Tracks c live)
    (hspans : t.arena.spans = s.arena.spans.insert g.bus g.len) {n : Nat}
    (hslot : c.IsSlot (g.bus, g.len) n) : n ∈ openSlots c t.arena := by
  rw [ht.openSlots_eq, hspans]
  refine ⟨⟨_, mem_insert.2 (.inl rfl), hslot⟩, ?_⟩
  rintro b hb rfl
  obtain ⟨x, hx, hold⟩ := h.mem_slots hb
  obtain ⟨segment, hmem, -, hend⟩ := h.sound.segment_of_span hx
  have hpos := hc.blockSize_pos
  have hlow : g.bus.toNat ≤ b.handle.toNat := hslot.start_le
  have hhigh : b.handle.toNat + c.blockSize.toNat ≤ g.bus.toNat + g.len.toNat := hslot.fits
  have hlow' := hold.start_le
  have hhigh' := hold.fits
  have hoverlap : segment.extent.overlaps g.extent = true := by
    apply (h.sound.placed.overlaps_iff hmem _).2
    rw [hend, Extent.toNat_endWord]
    show x.1.toNat < min (g.bus.toNat + g.len.toNat) (UInt64.size - 1) ∧ g.bus.toNat < stopOf x
    omega
  rw [hclear _ (mem_extents.2 ⟨_, hmem, rfl⟩)] at hoverlap
  cases hoverlap

namespace Machine

variable {m : Machine τ} {reports : List (Report τ)} {events : List (Event τ)} {id : Nat}
  {granularity : Word}

/-- **Whoever is granted a segment gets a block.** -/
theorem Ledger.adopts (h : m.Ledger reports) (hsound : m.Sound live)
    (hpow : Word.isPowerOfTwo granularity = true) {flags : AllocFlags}
    (hstage : m.stage? id = some (.adopting flags g))
    (haligned : granularity.toNat ∣ g.bus.toNat)
    (hlong : m.config.wanted granularity ≤ g.len.toNat)
    (hstop : g.bus.toNat + g.len.toNat < UInt64.size) :
    ∃ b, (Stage.adopt m.config m.state m.memory flags g).next = .goOn (.delivering flags b) := by
  have hpos : 0 < g.len.toNat := hsound.ready _ (mem_of_stage? hstage)
  have hclear := h.clear_of_pending (Ledger.mem_pending hstage)
  obtain ⟨a, hnext, hroom⟩ := hsound.valid.exists_room hpow haligned
  have hslot : m.config.IsSlot (g.bus, g.len) a :=
    .first hnext (Nat.le_trans hroom (Nat.add_le_add_left hlong _))
  rcases hsound.tracks.adopt hsound.valid m.memory flags hpos with
    ⟨f, -, e, he, hoverlap⟩ | ⟨hwraps, -⟩ |
    ⟨-, -, t, ht, -, hspans, ⟨-, hnone⟩ | ⟨b, s', hrun, -⟩⟩
  · rw [hclear e he] at hoverlap
    cases hoverlap
  · exact absurd hstop (Nat.not_lt.2 hwraps)
  · have hopen := hsound.tracks.openSlot_of_import hsound.valid hclear hstop ht hspans hslot
    rw [hnone] at hopen
    exact absurd hopen (Set.notMem_empty a)
  · rw [hrun]
    exact ⟨b, rfl⟩

/-! ### What honest stores grant -/

/-- A store that names its granularity, keeps its promises and grants segments at multiples of the
granularity that end on the bus. -/
structure Honest (m : Machine τ) (granularity : Word) (events : List (Event τ)) : Prop where
  /-- It names its granularity. -/
  sized : m.Along (SizedBy granularity) events
  /-- It keeps its promises. -/
  supplied : m.Along (Supplied granularity.toNat (UInt64.size - 1)) events

/-- A store that is honest in a run is so in its first part. -/
theorem Honest.front {front back : List (Event τ)} (h : m.Honest granularity (front ++ back)) :
    m.Honest granularity front := ⟨h.sized.front, h.supplied.front⟩

/-- What is asked of a store holds a block wherever it starts. -/
theorem wanted_le_of_asked {name : String} (created : create name c = .ok m)
    (sized : m.Along (SizedBy granularity) events) {r : Report τ} (hr : r ∈ (m.run events).2)
    {flags : AllocFlags} {minSize : Word} (hnext : r.next = .goOn (.importing flags minSize)) :
    c.wanted granularity ≤ minSize.toNat := by
  obtain ⟨front, e, back, hsplit, hreport⟩ := exists_event_of_report hr
  obtain ⟨w, rfl, hstage, hgrowth⟩ := granularity_of_asked hreport hnext
  obtain ⟨-, hconfig⟩ := reachable_sound created front
  have hw : w = granularity := sized front _ back hsplit flags hstage
  rw [hconfig, hw, Config.growthRequest_eq_ok_iff] at hgrowth
  exact hgrowth.2.1.2

/-- What an honest store grants is aligned, long enough and on the bus. -/
theorem Honest.fits (h : m.Honest granularity events) {name : String}
    (created : create name c = .ok m) (hg : g ∈ granted (m.run events).2) :
    granularity.toNat ∣ g.bus.toNat ∧ c.wanted granularity ≤ g.len.toNat ∧
      g.bus.toNat + g.len.toNat < UInt64.size := by
  obtain ⟨front, e, back, id, flags, minSize, rfl, hstage, hpromised⟩ :=
    promised_of_granted h.supplied hg
  obtain ⟨asked, hasked, -, hnext⟩ := mem_course.1 (mem_course_of_stage? created hstage)
  have hwanted := wanted_le_of_asked created h.front.sized hasked hnext
  refine ⟨hpromised.aligned, Nat.le_trans hwanted hpromised.long, ?_⟩
  exact Nat.lt_of_le_sub_one (by decide) hpromised.below

end Machine

/-! ### Courses of calls that grow the pool -/

/-- What can follow a stage when grants lead to blocks. -/
structure Stage.Grows (stage : Stage τ) (next : Next τ) : Prop where
  /-- It is one of the edges between stages. -/
  leads : stage.Leads next
  /-- Whoever is granted a segment gets a block. -/
  adopts : ∀ flags g, stage = .adopting flags g → ∃ b, next = .goOn (.delivering flags b)

/-- A stage from which a call has only to add its segment or to hand out its block. -/
def Stage.Provided : Stage τ → Prop
  | adopting _ _ | delivering _ _ => True
  | _ => False

/-- A call that has been provided for can go on by itself. -/
theorem Stage.Provided.exists_turn {stage : Stage τ} (h : stage.Provided) (name : String)
    (c : Config) (s : State τ) (memory : Memory) :
    ∃ turn, stage.advance? name c s memory = some turn := by
  cases stage with
  | adopting flags g => exact ⟨_, rfl⟩
  | delivering flags b => exact ⟨_, rfl⟩
  | _ => exact h.elim

/-- What follows such a stage is another one, or the block. -/
theorem Stage.Provided.cases_next {stage : Stage τ} {next : Next τ} (h : stage.Provided)
    (grows : stage.Grows next) :
    (∃ after : Stage τ, next = .goOn after ∧ after.Provided) ∨
      ∃ b, next = .returned (.block b) := by
  cases stage with
  | adopting flags g =>
    obtain ⟨b, rfl⟩ := grows.adopts flags g rfl
    exact .inl ⟨_, rfl, trivial⟩
  | delivering flags b =>
    have hleads := grows.leads
    cases hleads with
    | delivered => exact .inr ⟨b, rfl⟩
    | faulted f canFault => cases canFault
  | _ => exact h.elim

/-- **After a grant there is only a block.** The call has been given one, or it is on its way. -/
theorem Course.after_adopting {nexts : List (Next τ)} {stage? : Option (Stage τ)}
    (h : Course Stage.Grows nexts stage?) {flags : AllocFlags}
    (hmem : .goOn (.adopting flags g) ∈ nexts) :
    (∀ outcome, .returned outcome ∈ nexts → ∃ b, outcome = .block b) ∧
      (stage? = none → ∃ b, .returned (.block b) ∈ nexts) ∧
      ∀ stage, stage? = some stage → stage.Provided := by
  induction h with
  | idle => cases hmem
  | began request => cases request <;> cases List.mem_singleton.1 hmem
  | @moved nexts stage next before grows ih =>
    have hlast : ∀ outcome, .returned outcome ∈ nexts ++ [next] → .returned outcome = next := by
      intro outcome hreturned
      rcases List.mem_append.1 hreturned with hreturned | hreturned
      · exact absurd hreturned (before.not_returned outcome)
      · exact List.mem_singleton.1 hreturned
    have hnext : (∃ after : Stage τ, next = .goOn after ∧ after.Provided) ∨
        ∃ b, next = .returned (.block b) := by
      rcases List.mem_append.1 hmem with hmem | hmem
      · obtain ⟨-, -, hstage⟩ := ih hmem
        exact (hstage stage rfl).cases_next grows
      · exact .inl ⟨_, (List.mem_singleton.1 hmem).symm, trivial⟩
    rcases hnext with ⟨after, rfl, hafter⟩ | ⟨b, rfl⟩
    · refine ⟨fun outcome hreturned => (nomatch hlast outcome hreturned),
        fun hnone => (nomatch hnone), ?_⟩
      rintro _ ⟨⟩
      exact hafter
    · refine ⟨?_, ?_, fun _ hsome => (nomatch hsome)⟩
      · intro outcome hreturned
        cases hlast outcome hreturned
        exact ⟨b, rfl⟩
      · intro
        exact ⟨b, List.mem_append_right _ (List.mem_singleton_self _)⟩

/-- Whether a call carries out a piece. -/
def Event.advances (id : Nat) : Event τ → Bool
  | .advance other => other == id
  | _ => false

/-- The event at which it does. -/
theorem Event.advances_iff {id : Nat} {e : Event τ} : e.advances id = true ↔ e = .advance id := by
  cases e <;> simp [advances]

namespace Machine

variable {m : Machine τ} {events : List (Event τ)} {id : Nat} {granularity : Word}

/-- With an honest store, every call grows the pool or does something else. -/
theorem Honest.course_grows (h : m.Honest granularity events) {name : String}
    (created : create name c = .ok m) (hpow : Word.isPowerOfTwo granularity = true) (id : Nat) :
    Course Stage.Grows (course id (m.run events).2) ((m.run events).1.stage? id) := by
  apply course_run created
  rintro front e back rfl id stage turn hstage hmove
  refine ⟨hmove.leads, ?_⟩
  rintro flags g rfl
  obtain ⟨hsound, hconfig⟩ := reachable_sound created front
  have hledger := ledger_run created h.front.supplied
  have hgranted : g ∈ granted (m.run front).2 :=
    hledger.account.mem_iff.2 (List.mem_append_left _ (Ledger.mem_pending hstage))
  obtain ⟨haligned, hlong, hstop⟩ := h.front.fits created hgranted
  rw [← hconfig] at hlong
  cases hmove.eq_of_advance rfl
  exact hledger.adopts hsound hpow hstage haligned hlong hstop

/-- A call that has been provided for is over, or nearer to its end by every piece that it carries
out. -/
theorem left_add_step (hid : id < m.begun)
    (hprovided : ∀ stage, m.stage? id = some stage → stage.Provided) (e : Event τ) {n : Nat}
    (h : m.stage? id = none ∨ m.left id + n ≤ 2) : (m.step e).1.stage? id = none ∨
      (m.step e).1.left id + (n + if e.advances id = true then 1 else 0) ≤ 2 := by
  cases hnow : m.stage? id with
  | none => exact .inl (stage?_step_eq_none hid hnow e)
  | some stage =>
    right
    have hle := h.resolve_left (by rw [hnow]; exact Option.some_ne_none _)
    split
    · rename_i hadvances
      obtain ⟨turn, hturn⟩ :=
        (hprovided stage hnow).exists_turn m.name m.config m.state m.memory
      have hlt := left_advance_lt hnow hturn
      rw [Event.advances_iff.1 hadvances]
      omega
    · have hstep := left_step_le hid e
      omega

/-- A call that was granted a segment is over, or nearer to its end by every piece it has carried
out since. -/
theorem Honest.left_le {front back : List (Event τ)} (h : m.Honest granularity (front ++ back))
    {name : String} (created : create name c = .ok m)
    (hpow : Word.isPowerOfTwo granularity = true) {flags : AllocFlags}
    (hstage : (m.run front).1.stage? id = some (.adopting flags g)) :
    (m.run (front ++ back)).1.stage? id = none ∨
      (m.run (front ++ back)).1.left id + back.countP (Event.advances id) ≤ 2 := by
  induction back using List.reverseRecOn with
  | nil =>
    right
    rw [List.append_nil, left, hstage]
    exact Nat.le_refl 2
  | append_singleton back e ih =>
    rw [← List.append_assoc] at h ⊢
    have htold := mem_course_of_stood created back hstage
    have hprovided := ((h.front.course_grows created hpow id).after_adopting htold).2.2
    rw [run_concat, List.countP_append, List.countP_singleton]
    exact left_add_step (lt_begun_of_stood created back hstage) hprovided e (ih h.front)

/-- **Two pieces after a grant the call has returned with a block.** -/
theorem Honest.returned_of_advances {front back : List (Event τ)}
    (h : m.Honest granularity (front ++ back)) {name : String} (created : create name c = .ok m)
    (hpow : Word.isPowerOfTwo granularity = true) {flags : AllocFlags}
    (hstage : (m.run front).1.stage? id = some (.adopting flags g))
    (htwice : 2 ≤ back.countP (Event.advances id)) :
    ∃ b, .returned (.block b) ∈ course id (m.run (front ++ back)).2 := by
  have htold := mem_course_of_stood created back hstage
  obtain ⟨-, hover, -⟩ := (h.course_grows created hpow id).after_adopting htold
  apply hover
  rcases h.left_le created hpow hstage with hnone | hle
  · exact hnone
  · cases hnow : (m.run (front ++ back)).1.stage? id with
    | none => rfl
    | some stage =>
      have hpos : 0 < stage.remaining := by cases stage <;> exact Nat.succ_pos _
      rw [left, hnow, Option.elim_some] at hle
      omega

end Machine

end BusPool.Pool
