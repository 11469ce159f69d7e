import BusPool.Proofs.Pool.Bystanders
import BusPool.Proofs.Pool.GoodUse

/-!
# What a synchronisation asks the store for

A synchronisation looks up the segment of its handle under the lock and lets the lock go before it
turns to the store. In between, and while the store is at work, anything may happen to the pool.
What is asked for is nevertheless right for the moment of the lookup (**`State.Forwards`**): the
one segment that contains the handle, the distance of the handle from its start, and a whole block
from there on, which the segment holds.

The call is over after two steps of its own (**`Machine.transfer_run`**): it stops at a fault and
asks for nothing, or it asks once and is done when the store is. Neither step changes the pool, so
the pool is what the other calls make of it (**`Machine.alike_of_transfer`**). For a block that is
out when the call is made, or that a call has returned with by then, there is no fault at all, even
if the block is taken back before the lookup, because segments stay. **`synchronize_forwards`** puts
this together.
-/

namespace BusPool.Pool

open SegmentIndex

variable {τ : Type} {c : Config} {s : State τ}

/-! ### The request -/

/-- What the store may be asked for when the segment of a handle is looked up in this state. -/
structure State.Forwards (c : Config) (s : State τ) (handle : Address) (ops : SyncOps)
    (stage : Stage τ) : Prop where
  /-- The operations are of one phase. -/
  one_phase : ops.hasBothPhases = false
  /-- The request names the only segment that contains the handle and the offset of the handle
  there, asks for one block, which ends within the segment, and passes the operations on. -/
  owned : ∃ segment offset,
    s.index.toList.filter (fun other => other.extent.contains handle) = [segment] ∧
      handle.toNat = segment.extent.start.toNat + offset.toNat ∧
      offset.toNat + c.blockSize.toNat ≤ segment.extent.len.toNat ∧
      stage = .syncing segment.token offset c.blockSize ops

/-- A lookup goes on to exactly such a request. -/
theorem Stage.locate_eq_ok_iff_forwards (h : s.index.Placed) {name : String} {handle : Address}
    {ops : SyncOps} {stage : Stage τ} :
    locate name c s handle ops = .ok stage ↔ s.Forwards c handle ops stage := by
  rw [locate_eq_ok_iff]
  simp only [h.segmentAt?_eq_some_iff_filter]
  constructor
  · rintro ⟨hphases, segment, honly, offset, hexact, hfits, rfl⟩
    exact ⟨hphases, segment, offset, honly, hexact, hfits, rfl⟩
  · rintro ⟨hphases, segment, offset, honly, hexact, hfits, rfl⟩
    exact ⟨hphases, segment, honly, offset, hexact, hfits, rfl⟩

/-! ### The stages of a synchronisation -/

/-- Whether a call is a synchronisation in progress. -/
def Stage.transfers : Stage τ → Bool
  | resolving _ _ | syncing _ _ _ _ => true
  | _ => false

/-- How far a synchronisation has come: what it was told since it stood before its lookup, and
where it stands. `quiet` says that it was not its turn yet, `found` what a lookup can have given. -/
inductive Transfer (handle : Address) (ops : SyncOps) (quiet : Prop)
    (found : Except Fault (Stage τ) → Prop) : List (Next τ) → Option (Stage τ) → Prop
  /-- The lookup is still to come. -/
  | waits (still : quiet) : Transfer handle ops quiet found [] (some (.resolving handle ops))
  /-- The lookup stopped at a fault. -/
  | stops {f : Fault} (lookup : found (.error f)) :
    Transfer handle ops quiet found [.returned (.fault f)] none
  /-- The store is asked. -/
  | asks {token : τ} {offset len : Word} (lookup : found (.ok (.syncing token offset len ops))) :
    Transfer handle ops quiet found [.goOn (.syncing token offset len ops)]
      (some (.syncing token offset len ops))
  /-- The store is done. -/
  | ends {token : τ} {offset len : Word} (lookup : found (.ok (.syncing token offset len ops))) :
    Transfer handle ops quiet found [.goOn (.syncing token offset len ops), .returned .done] none

namespace Transfer

variable {handle : Address} {ops : SyncOps} {quiet quiet' : Prop}
  {found found' : Except Fault (Stage τ) → Prop} {nexts : List (Next τ)}
  {stage? : Option (Stage τ)} {stage : Stage τ}

/-- More may be known to be found, and less to be quiet once the lookup is over. -/
theorem imp (h : Transfer handle ops quiet found nexts stage?)
    (hquiet : stage? = some (.resolving handle ops) → quiet → quiet')
    (hfound : ∀ result, found result → found' result) :
    Transfer handle ops quiet' found' nexts stage? := by
  cases h with
  | waits still => exact .waits (hquiet rfl still)
  | stops lookup => exact .stops (hfound _ lookup)
  | asks lookup => exact .asks (hfound _ lookup)
  | ends lookup => exact .ends (hfound _ lookup)

/-- A synchronisation stops at no fault that its lookup does not. -/
theorem not_fault (h : Transfer handle ops quiet found nexts stage?)
    (hnone : ∀ f, ¬found (.error f)) (f : Fault) : .returned (.fault f) ∉ nexts := by
  cases h with
  | stops lookup => exact absurd lookup (hnone _)
  | _ => simp

/-- A synchronisation in progress stands at one of its two stages. -/
theorem transfers (h : Transfer handle ops quiet found nexts (some stage)) :
    stage.transfers = true := by
  cases h <;> rfl

end Transfer

namespace Machine

variable {m : Machine τ} {id : Nat} {handle : Address} {ops : SyncOps} {stage : Stage τ}
  {turn : Turn τ} {nexts : List (Next τ)} {quiet quiet' : Prop}
  {found : Except Fault (Stage τ) → Prop}

/-- **A synchronisation changes nothing** but where it stands. -/
theorem Moves.idle_of_transfers (hmove : m.Moves stage turn) (h : stage.transfers = true) :
    turn.state = m.state ∧ turn.memory = m.memory := by
  cases hmove with
  | piece advance =>
    cases stage with
    | resolving handle ops =>
      cases advance
      unfold Stage.resolve
      split <;> exact ⟨rfl, rfl⟩
    | syncing => cases advance
    | _ => cases h
  | _ => exact ⟨rfl, rfl⟩

/-- **One step of a synchronisation**: the lookup, whatever that gives, or the end. -/
theorem Moves.transfer (hmove : m.Moves stage turn)
    (h : Transfer handle ops quiet found nexts (some stage))
    (hfound : ∀ result, Stage.locate m.name m.config m.state handle ops = result → found result) :
    Transfer handle ops quiet' found (nexts ++ [turn.next]) turn.next.stage? := by
  generalize hstands : some stage = stands at h
  cases h with
  | waits still =>
    cases hstands
    cases hmove.eq_of_advance rfl
    unfold Stage.resolve
    cases hlocate : Stage.locate m.name m.config m.state handle ops with
    | error f => exact .stops (hfound _ hlocate)
    | ok after =>
      obtain ⟨-, segment, -, offset, -, -, rfl⟩ := Stage.locate_eq_ok_iff.1 hlocate
      exact .asks (hfound _ hlocate)
  | stops lookup => cases hstands
  | asks lookup =>
    cases hstands
    have hleads := hmove.leads
    generalize turn.next = next at hleads
    cases hleads with
    | synced => exact .ends lookup
    | faulted f canFault => cases canFault
  | ends lookup => cases hstands

/-- At some moment of a run this is what a lookup of the handle gives. -/
def LookedUp (m : Machine τ) (handle : Address) (ops : SyncOps) (more : List (Event τ))
    (result : Except Fault (Stage τ)) : Prop :=
  ∃ front, front <+: more ∧ Stage.locate (m.run front).1.name (m.run front).1.config
    (m.run front).1.state handle ops = result

/-- What was found in a run was found in a longer one. -/
theorem LookedUp.concat {more : List (Event τ)} {result : Except Fault (Stage τ)}
    (h : m.LookedUp handle ops more result) (e : Event τ) :
    m.LookedUp handle ops (more ++ [e]) result := by
  obtain ⟨front, hfront, hlocate⟩ := h
  exact ⟨front, hfront.trans (List.prefix_append _ _), hlocate⟩

/-- A call before its lookup does not let its turn pass. -/
theorem not_advance_of_silent {e : Event τ} (hstage : m.stage? id = some (.resolving handle ops))
    (hsilent : ∀ r, (m.step e).2 = some r → r.call ≠ id) : e ≠ .advance id := by
  rintro rfl
  exact hsilent _ (congrArg Prod.snd (step_advance hstage rfl)) rfl

variable {name : String} {events : List (Event τ)}

/-- **The course of a synchronisation**, from where it stands before its lookup. -/
theorem transfer_run (created : create name c = .ok m)
    (stood : (m.run events).1.stage? id = some (.resolving handle ops)) (more : List (Event τ)) :
    Transfer handle ops (.advance id ∉ more) ((m.run events).1.LookedUp handle ops more)
      (course id ((m.run events).1.run more).2) (((m.run events).1.run more).1.stage? id) := by
  induction more using List.reverseRecOn with
  | nil =>
    have hwaits : ((m.run events).1.run []).1.stage? id = some (.resolving handle ops) := stood
    rw [hwaits]
    exact .waits List.not_mem_nil
  | append_singleton more e ih =>
    have hbegun : id < ((m.run events).1.run more).1.begun := by
      have hlt := lt_begun_of_stood created more stood
      rwa [run_append] at hlt
    rw [run_concat, course_append]
    rcases ((m.run events).1.run more).1.step_call_cases e id with
      ⟨hsame, hsilent⟩ | ⟨hnew, -⟩ | ⟨stage, turn, hstage, hmove, -, hafter, hreport⟩
    · have hnone : course id (((m.run events).1.run more).1.step e).2.toList = [] := by
        rw [course, List.map_eq_nil_iff, List.filter_eq_nil_iff]
        intro r hr hcall
        exact hsilent r (Option.mem_toList.1 hr) (of_decide_eq_true hcall)
      rw [hnone, List.append_nil, hsame]
      apply ih.imp
      · intro hwaits hquiet
        have hother := not_advance_of_silent hwaits hsilent
        simp [hquiet, hother.symm]
      · exact fun _ hfound => hfound.concat e
    · exact absurd hnew (Nat.ne_of_lt hbegun)
    · rw [hstage] at ih
      rw [hafter, hreport, Option.toList_some, course_singleton]
      apply hmove.transfer (ih.imp (fun _ _ => trivial) fun _ hfound => hfound.concat e)
      intro result hlocate
      exact ⟨more, List.prefix_append _ _, hlocate⟩

/-- **A synchronisation leaves no trace.** The run of the events that are not about it ends in the
same state, and the other calls report the same. -/
theorem alike_of_transfer (created : create name c = .ok m)
    (stood : (m.run events).1.stage? id = some (.resolving handle ops)) (more : List (Event τ)) :
    AlikeBut id (m.run events).1 more (others id more) := by
  induction more using List.reverseRecOn with
  | nil => exact ⟨.refl id _, rfl⟩
  | append_singleton more e ih =>
    by_cases he : e.call? = some id
    · rw [others_concat_own he]
      rcases ((m.run events).1.run more).1.step_own_cases he with
        hnone | ⟨stage, turn, hstage, hmove, hmoved⟩
      · apply ih.concat_own
        · rw [hnone]
          exact .refl id _
        · rw [hnone]
          rfl
      · have hcourse := transfer_run created stood more
        rw [hstage] at hcourse
        obtain ⟨hstate, hmemory⟩ := hmove.idle_of_transfers hcourse.transfers
        apply ih.concat_own
        · rw [hmoved]
          exact .of_move hstate hmemory
        · rw [hmoved]
          simp [reportsBut]
    · rw [others_concat he]
      exact ih.concat he

/-- The lookup of a block that was reserved before stops at no fault. -/
theorem not_lookedUp_error (created : create name c = .ok m) (events : List (Event τ)) {b : Block}
    (hb : b ∈ takenBlocks (m.run events).2) (hphases : ops.hasBothPhases = false)
    (more : List (Event τ)) (f : Fault) :
    ¬(m.run events).1.LookedUp b.handle ops more (.error f) := by
  rintro ⟨front, -, hlocate⟩
  obtain ⟨hsound, hconfig⟩ := reachable_sound created (events ++ front)
  have htaken : b ∈ takenBlocks (m.run (events ++ front)).2 := by
    rw [run_append, takenBlocks_append]
    exact List.mem_append_left _ hb
  have hhoused := housed_run created (events ++ front) b htaken
  rw [← hconfig] at hhoused
  obtain ⟨stage, hfound⟩ := hsound.exists_locate hhoused hphases
  rw [run_append, hlocate] at hfound
  cases hfound

/-- What a lookup goes on to at some moment of a run is right for that moment. -/
theorem exists_forwards (created : create name c = .ok m) (events : List (Event τ))
    {more : List (Event τ)} (hfound : (m.run events).1.LookedUp handle ops more (.ok stage)) :
    ∃ front, front <+: more ∧
      ((m.run events).1.run front).1.state.Forwards c handle ops stage := by
  obtain ⟨front, hfront, hlocate⟩ := hfound
  obtain ⟨hsound, hconfig⟩ := reachable_sound created (events ++ front)
  have hplaced := hsound.tracks.sound.placed
  rw [run_append] at hconfig hplaced
  rw [hconfig] at hlocate
  exact ⟨front, hfront, (Stage.locate_eq_ok_iff_forwards hplaced).1 hlocate⟩

end Machine

/-! ### Everything together -/

/-- What a synchronisation does in a run of `more` events from a machine in which it stands before
its lookup. -/
structure ForwardsExactly (c : Config) (m : Machine τ) (id : Nat) (handle : Address)
    (ops : SyncOps) (more : List (Event τ)) : Prop where
  /-- Unless it has had no turn, the call either stops at a fault without having asked for
  anything, or it asks the store once, for what was right at some moment of the run, and is done
  when the store is. -/
  course_eq : (course id (m.run more).2 = [] ∧ .advance id ∉ more) ∨
    (∃ f, course id (m.run more).2 = [.returned (.fault f)]) ∨
    ∃ front stage, front <+: more ∧ (m.run front).1.state.Forwards c handle ops stage ∧
      (course id (m.run more).2 = [.goOn stage] ∨
        course id (m.run more).2 = [.goOn stage, .returned .done])
  /-- The pool is in the state that the other events alone lead to. -/
  state_eq : (m.run more).1.state = (m.run (others id more)).1.state
  /-- So is the local memory. -/
  memory_eq : (m.run more).1.memory = (m.run (others id more)).1.memory
  /-- The other calls report the same. -/
  reports_eq : reportsBut id (m.run more).2 = reportsBut id (m.run (others id more)).2

namespace Machine

variable {m : Machine τ} {name : String} {events : List (Event τ)} {id : Nat} {handle : Address}
  {ops : SyncOps}

/-- A synchronisation is exact from where it stands before its lookup. -/
theorem forwardsExactly (created : create name c = .ok m)
    (stood : (m.run events).1.stage? id = some (.resolving handle ops)) (more : List (Event τ)) :
    ForwardsExactly c (m.run events).1 id handle ops more := by
  obtain ⟨hsame, hreports⟩ := alike_of_transfer created stood more
  refine ⟨?_, hsame.state_eq, hsame.memory_eq, hreports⟩
  have hcourse := transfer_run created stood more
  generalize course id ((m.run events).1.run more).2 = told at hcourse
  generalize ((m.run events).1.run more).1.stage? id = stands at hcourse
  cases hcourse with
  | waits still => exact .inl ⟨rfl, still⟩
  | stops lookup => exact .inr (.inl ⟨_, rfl⟩)
  | asks lookup =>
    obtain ⟨front, hfront, hforwards⟩ := exists_forwards created events lookup
    exact .inr (.inr ⟨front, _, hfront, hforwards, .inl rfl⟩)
  | ends lookup =>
    obtain ⟨front, hfront, hforwards⟩ := exists_forwards created events lookup
    exact .inr (.inr ⟨front, _, hfront, hforwards, .inr rfl⟩)

end Machine

/-- **A synchronisation forwards exactly and in bounds.** Take any reachable state, any handle and
any operations, and let the call be made there and anything at all happen afterwards. Making the
call changes nothing. It asks the store for nothing or for exactly the right thing, and leaves the
pool to the other calls. If the handle is that of a block that is out, or of one that any call has
returned with, and the operations are of one phase, no fault stops it. -/
theorem synchronize_forwards {name : String} {m : Machine τ}
    (created : Machine.create name c = .ok m) (events : List (Event τ)) (handle : Address)
    (ops : SyncOps) (more : List (Event τ)) :
    let reached := (m.run events).1
    let called := (reached.step (.call (.synchronize handle ops))).1
    (called.state = reached.state ∧ called.memory = reached.memory) ∧
      ForwardsExactly c called reached.begun handle ops more ∧
      ((∃ b, (b ∈ liveBlocks (m.run events).2 ∨ ∃ id, Machine.HandedTo (m.run events).2 id b) ∧
          b.handle = handle) → ops.hasBothPhases = false →
        ∀ f, .returned (.fault f) ∉ course reached.begun (called.run more).2) := by
  intro reached called
  have hrun := Machine.run_concat m events (.call (.synchronize handle ops))
  have hcalled : (m.run (events ++ [.call (.synchronize handle ops)])).1 = called :=
    congrArg Prod.fst hrun
  have stood : (m.run (events ++ [.call (.synchronize handle ops)])).1.stage? reached.begun =
      some (.resolving handle ops) := by
    rw [hcalled]
    exact (Machine.stage?_follow _ _).trans (if_pos rfl)
  have hexact := Machine.forwardsExactly created stood more
  rw [hcalled] at hexact
  refine ⟨⟨rfl, rfl⟩, hexact, ?_⟩
  rintro ⟨b, hb, rfl⟩ hphases
  have htaken : b ∈ takenBlocks (m.run (events ++ [.call (.synchronize b.handle ops)])).2 := by
    rw [hrun, takenBlocks_append]
    exact List.mem_append_left _ (Machine.taken_of_live_or_handed created hb)
  have hcourse := Machine.transfer_run created stood more
  have hnone := Machine.not_lookedUp_error created _ htaken hphases more
  rw [hcalled] at hcourse hnone
  exact hcourse.not_fault hnone

/-- An allocation that has returned with its block. -/
def lentRun : List (Event Unit) :=
  [.call (.allocate AllocFlags.zero), .advance 0, .granularity 0 4096, .reply 0 (.ok sampleGrant),
    .advance 0, .advance 0]

/-- The pool after that, where the synchronisation of the block has just been called. -/
def lentPool : Machine Unit :=
  ((samplePool.run lentRun).1.step (.call (.synchronize ⟨65536⟩ SyncOps.pre))).1

/-- A run in which the block is taken back while the store is at work on its synchronisation. -/
def transferRun : List (Event Unit) :=
  [.advance 1, .call (.free ⟨65536⟩), .advance 2, .acknowledge 1]

/-- A call has returned with a block of 96 bytes, at the start of the segment. The store is asked
once, for the 96 bytes at offset 0 there, and the block is free in the end as it is without the
synchronisation. -/
theorem synchronize_forwards_while_freed :
    Machine.create "pool" ⟨96, 32, 256⟩ = .ok samplePool ∧
      Machine.HandedTo (samplePool.run lentRun).2 0 ⟨⟨0, 0⟩, ⟨65536⟩⟩ ∧
      course 1 (lentPool.run transferRun).2 =
        [.goOn (.syncing () 0 96 SyncOps.pre), .returned .done] ∧
      (lentPool.run transferRun).1.state =
        (lentPool.run [.call (.free ⟨65536⟩), .advance 2]).1.state ∧
      ∀ f, .returned (.fault f) ∉ course 1 (lentPool.run transferRun).2 := by
  have hhanded : Machine.HandedTo (samplePool.run lentRun).2 0 ⟨⟨0, 0⟩, ⟨65536⟩⟩ := by
    decide +kernel
  have hid : (samplePool.run lentRun).1.begun = 1 := rfl
  have hothers : others 1 transferRun = [.call (.free ⟨65536⟩), .advance 2] := rfl
  obtain ⟨-, hexact, hfaultless⟩ :=
    synchronize_forwards samplePool_created lentRun ⟨65536⟩ SyncOps.pre transferRun
  rw [← lentPool, hid] at hexact hfaultless
  have hstate := hexact.state_eq
  rw [hothers] at hstate
  exact ⟨samplePool_created, hhanded, rfl, hstate, hfaultless ⟨_, .inr ⟨0, hhanded⟩, rfl⟩ rfl⟩

end BusPool.Pool
