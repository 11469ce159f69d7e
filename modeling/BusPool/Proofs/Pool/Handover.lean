import BusPool.Proofs.Pool.Runs
import Mathlib.Data.List.Infix

/-!
# Blocks that calls return with

A block is out from before the call returns with it: zero filling takes place in between, without
the lock. So callers know of a block only when a call has returned with it
(**`Machine.HandedTo`**). Calls return only with blocks that were reserved for them before
(**`Machine.takenFor_of_returned`**).

Whoever guesses a handle may free it before the call returns with the block that was reserved for
it. The block may then be reserved once more, and two calls return with it. The second of them has
it: a block is live for a call that has returned with it as long as its handle was not taken back
since the block was reserved for that call (**`Machine.LiveFor`**). Blocks that are live are out,
and those of two calls have different handles (**`Machine.handsOut_run`**).
-/

namespace BusPool.Pool

variable {τ : Type}

namespace Stage

variable {c : Config} {s : State τ} {memory : Memory} {name : String} {b : Block}

/-- A first try for a block does not return with one. -/
private theorem reserve_ne_block (flags : AllocFlags) :
    (reserve c s memory flags).next ≠ .returned (.block b) := by
  unfold reserve
  split <;> simp

/-- Neither does the adoption of a grant. -/
private theorem adopt_ne_block (flags : AllocFlags) (g : Grant τ) :
    (adopt c s memory flags g).next ≠ .returned (.block b) := by
  unfold adopt
  split
  · simp
  · dsimp only
    split <;> simp

/-- Only a call that delivers a block returns with one. -/
theorem delivering_of_returned {stage : Stage τ} {turn : Turn τ}
    (hturn : stage.advance? name c s memory = some turn)
    (hnext : turn.next = .returned (.block b)) : ∃ flags, stage = .delivering flags b := by
  cases stage with
  | reserving flags =>
    cases hturn
    exact absurd hnext (reserve_ne_block flags)
  | adopting flags g =>
    cases hturn
    exact absurd hnext (adopt_ne_block flags g)
  | delivering flags block =>
    cases hturn
    cases hnext
    exact ⟨flags, rfl⟩
  | freeing handle =>
    cases hturn
    unfold free at hnext
    split at hnext <;> cases hnext
  | resolving handle ops =>
    cases hturn
    unfold resolve at hnext
    split at hnext <;> cases hnext
  | sizing => cases hturn
  | importing => cases hturn
  | syncing => cases hturn

end Stage

namespace Machine

variable {m : Machine τ} {reports front back : List (Report τ)} {r : Report τ} {b : Block}

/-- Among the reports, the block is reserved for the call. -/
def TakenFor (reports : List (Report τ)) (id : Nat) (b : Block) : Prop :=
  ∃ r ∈ reports, r.call = id ∧ r.taken? = some b

/-- Among the reports, the call returns with the block. -/
def HandedTo (reports : List (Report τ)) (id : Nat) (b : Block) : Prop :=
  ∃ r ∈ reports, r.call = id ∧ r.given? = some b

/-- Among the reports, the handle of the block is taken back after the block was reserved for the
call. -/
def FreedSince (reports : List (Report τ)) (id : Nat) (b : Block) : Prop :=
  ∃ before taken after, reports = before ++ taken :: after ∧ taken.call = id ∧
    taken.taken? = some b ∧ ∃ r ∈ after, Record.freed b.handle ∈ r.records

/-- The call has returned with the block, and nobody has freed that since it was reserved for the
call. -/
def LiveFor (reports : List (Report τ)) (id : Nat) (b : Block) : Prop :=
  HandedTo reports id b ∧ ¬FreedSince reports id b

/-- Whether a call has returned with a block is read off the reports. -/
instance (reports : List (Report τ)) (id : Nat) (b : Block) : Decidable (HandedTo reports id b) :=
  inferInstanceAs (Decidable (∃ r ∈ reports, r.call = id ∧ r.given? = some b))

/-- A handle was taken back if the reports from one of them on begin with the reservation of the
block and go on to a release. -/
theorem freedSince_iff {id : Nat} : FreedSince reports id b ↔ ∃ rest ∈ reports.tails,
    ∃ taken ∈ rest.head?, taken.call = id ∧ taken.taken? = some b ∧
      ∃ r ∈ rest.tail, Record.freed b.handle ∈ r.records := by
  constructor
  · rintro ⟨before, taken, after, rfl, hfreed⟩
    exact ⟨taken :: after, (List.mem_tails _ _).2 ⟨before, rfl⟩, taken, rfl, hfreed⟩
  · rintro ⟨rest, hrest, taken, htaken, hfreed⟩
    obtain ⟨before, rfl⟩ := (List.mem_tails _ _).1 hrest
    have hcons := List.eq_cons_of_mem_head? htaken
    exact ⟨before, taken, rest.tail, congrArg (before ++ ·) hcons, hfreed⟩

/-- So whether a handle was taken back is read off the reports as well. -/
instance (reports : List (Report τ)) (id : Nat) (b : Block) : Decidable (FreedSince reports id b) :=
  decidable_of_iff _ freedSince_iff.symm

/-- And so is whether a block is live. -/
instance (reports : List (Report τ)) (id : Nat) (b : Block) : Decidable (LiveFor reports id b) :=
  inferInstanceAs (Decidable (HandedTo reports id b ∧ ¬FreedSince reports id b))

/-- The blocks that calls are about to deliver were reserved for them. -/
def Backed (m : Machine τ) (reports : List (Report τ)) : Prop :=
  ∀ id flags b, (id, Stage.delivering flags b) ∈ m.calls → TakenFor reports id b

/-- More reports do not change what was reserved. -/
theorem TakenFor.append {id : Nat} (h : TakenFor reports id b) (more : List (Report τ)) :
    TakenFor (reports ++ more) id b := by
  obtain ⟨r, hr, htaken⟩ := h
  exact ⟨r, List.mem_append_left _ hr, htaken⟩

/-- A move that returns with a block delivers it. -/
theorem Moves.delivering_of_returned {stage : Stage τ} {turn : Turn τ}
    (hmove : m.Moves stage turn) (hnext : turn.next = .returned (.block b)) :
    ∃ flags, stage = .delivering flags b := by
  cases hmove with
  | piece hturn => exact Stage.delivering_of_returned hturn hnext
  | sized hsized =>
    obtain ⟨flags, -, ⟨minSize, -, rfl⟩ | ⟨f, -, rfl⟩⟩ := Stage.sized?_cases hsized <;> cases hnext
  | replied hreplied =>
    obtain ⟨flags, minSize, -, ⟨g, -, -, -, rfl⟩ | ⟨g, -, -, -, rfl⟩ | ⟨cause, -, -, rfl⟩⟩ :=
      Stage.replied?_cases hreplied <;> cases hnext
  | acknowledged hdone =>
    rw [Stage.acknowledged?_eq hdone] at hnext
    cases hnext

namespace Backed

/-- A call that goes on to deliver a block has just reported that it reserved it. -/
theorem follow (h : m.Backed reports) (id : Nat) (records : List Record) (next : Next τ) :
    (m.follow id next).Backed (reports ++ [⟨id, records, next⟩]) := by
  intro id' flags b hcall
  rcases mem_follow_calls hcall with ⟨rfl, rfl⟩ | hcall
  · exact ⟨_, List.mem_append_right _ List.mem_cons_self, rfl, rfl⟩
  · exact (h id' flags b hcall).append _

/-- One event keeps what is delivered backed by the reports. -/
theorem step (h : m.Backed reports) (e : Event τ) :
    (m.step e).1.Backed (reports ++ (m.step e).2.toList) := by
  rcases m.step_cases e with ⟨memory, heq⟩ | ⟨request, -, heq⟩ | ⟨id, stage, turn, -, -, heq⟩
  · rw [heq, Option.toList_none, List.append_nil]
    exact h
  · rw [heq]
    exact h.follow m.begun [] (.goOn request.start)
  · rw [heq]
    have hmoved : Backed { m with state := turn.state, memory := turn.memory } reports := h
    exact hmoved.follow id turn.records turn.next

/-- An event at which a call returns with a block comes after the block was reserved. -/
theorem takenFor_of_step (h : m.Backed reports) {e : Event τ} (hr : (m.step e).2 = some r)
    (hnext : r.next = .returned (.block b)) : TakenFor reports r.call b := by
  rcases m.step_cases e with ⟨memory, heq⟩ | ⟨request, -, heq⟩ |
    ⟨id, stage, turn, hstage, hmove, heq⟩
  · rw [heq] at hr
    cases hr
  · rw [heq] at hr
    cases hr
    cases hnext
  · rw [heq] at hr
    cases hr
    obtain ⟨flags, rfl⟩ := hmove.delivering_of_returned hnext
    exact h id flags b (mem_of_stage? hstage)

/-- A call returns only with a block that was reserved for it, before the run or during it. -/
theorem run (h : m.Backed reports) (events : List (Event τ))
    (hsplit : (m.run events).2 = front ++ r :: back) (hnext : r.next = .returned (.block b)) :
    TakenFor (reports ++ front) r.call b := by
  induction events generalizing m reports front with
  | nil => cases List.append_eq_nil_iff.1 hsplit.symm |>.2
  | cons e rest ih =>
    have hrest : (m.step e).2.toList ++ ((m.step e).1.run rest).2 = front ++ r :: back := hsplit
    cases hreport : (m.step e).2 with
    | none =>
      have hkept := h.step e
      rw [hreport] at hrest hkept
      rw [Option.toList_none, List.append_nil] at hkept
      exact ih hkept hrest
    | some r' =>
      have hkept := h.step e
      rw [hreport] at hrest hkept
      cases front with
      | nil =>
        cases hrest
        rw [List.append_nil]
        exact h.takenFor_of_step hreport hnext
      | cons x front =>
        have hparts := List.cons.inj hrest
        rw [hparts.1] at hkept
        have := ih hkept hparts.2
        rwa [List.append_assoc] at this

end Backed

/-- **A call returns only with a block that was reserved for it.** -/
theorem takenFor_of_returned {name : String} {c : Config} (created : create name c = .ok m)
    (events : List (Event τ)) (hsplit : (m.run events).2 = front ++ r :: back)
    (hnext : r.next = .returned (.block b)) : TakenFor front r.call b := by
  have hnone : m.Backed [] := by
    unfold create at created
    obtain ⟨_, -, hm⟩ := bind_eq_ok_iff.1 created
    cases hm
    intro id flags b hcall
    cases hcall
  exact hnone.run events hsplit hnext

/-- **A block that a call has returned with is out**, unless its handle was taken back after the
block had been reserved for the call. -/
theorem out_of_returned {name : String} {c : Config} (created : create name c = .ok m)
    (events : List (Event τ)) (hr : r ∈ (m.run events).2)
    (hnext : r.next = .returned (.block b)) :
    ∃ before taken after, (m.run events).2 = before ++ taken :: after ∧ r ∈ after ∧
      taken.call = r.call ∧ taken.taken? = some b ∧
      ((∀ later ∈ after, Record.freed b.handle ∉ later.records) →
        b ∈ liveBlocks (m.run events).2) := by
  obtain ⟨front, back, hsplit⟩ := List.append_of_mem hr
  obtain ⟨taken, htaken, hcall, hblock⟩ := takenFor_of_returned created events hsplit hnext
  obtain ⟨before, after, rfl⟩ := List.append_of_mem htaken
  refine ⟨before, taken, after ++ r :: back, by simp [hsplit], by simp, hcall, hblock, ?_⟩
  intro hkept
  exact mem_liveBlocks_iff.2 ⟨before, taken, after ++ r :: back, by simp [hsplit], hblock, hkept⟩

/-! ### Live blocks -/

variable {id id' : Nat} {x y : Block}

/-- Nobody has freed a live block. -/
theorem LiveFor.not_freed (h : LiveFor reports id b) {before after : List (Report τ)}
    {taken : Report τ} (hsplit : reports = before ++ taken :: after) (hcall : taken.call = id)
    (htaken : taken.taken? = some b) : ∀ r ∈ after, Record.freed b.handle ∉ r.records :=
  fun r hr hfreed => h.2 ⟨before, taken, after, hsplit, hcall, htaken, r, hr, hfreed⟩

/-- A live block was reserved for its call, and is out. -/
theorem LiveFor.exists_taken {name : String} {c : Config} (created : create name c = .ok m)
    {events : List (Event τ)} (h : LiveFor (m.run events).2 id b) :
    ∃ before taken after, (m.run events).2 = before ++ taken :: after ∧ taken.call = id ∧
      taken.taken? = some b ∧ b ∈ liveBlocks (m.run events).2 := by
  obtain ⟨r, hr, rfl, hgiven⟩ := h.1
  obtain ⟨before, taken, after, hsplit, -, hcall, htaken, hout⟩ :=
    out_of_returned created events hr (Report.given?_eq_some_iff.1 hgiven)
  exact ⟨before, taken, after, hsplit, hcall, htaken, hout (h.not_freed hsplit hcall htaken)⟩

/-- Of two live blocks the one that was reserved later has another handle. -/
private theorem LiveFor.handle_ne_of_later
    (hdistinct : (liveBlocks reports).Pairwise fun x y => x.handle ≠ y.handle)
    (hx : LiveFor reports id x) (hy : LiveFor reports id' y)
    {before between after : List (Report τ)} {first second : Report τ}
    (hsplit : reports = before ++ first :: between ++ second :: after) (hcall : first.call = id)
    (htaken : first.taken? = some x) (hcall' : second.call = id')
    (htaken' : second.taken? = some y) : y.handle ≠ x.handle := by
  have hkept := hx.not_freed (hsplit.trans (List.append_assoc _ _ _)) hcall htaken
  have hkept' := hy.not_freed hsplit hcall' htaken'
  have hout : x ∈ liveBlocks (before ++ first :: between) := by
    refine mem_liveBlocks_iff.2 ⟨before, first, between, rfl, htaken, fun r hr => ?_⟩
    exact hkept r (List.mem_append_left _ hr)
  have hboth := sublist_liveBlocks hout htaken' (fun r hr => hkept r (List.mem_append_right _ hr))
    hkept'
  rw [← hsplit] at hboth
  exact (List.pairwise_cons.1 (hdistinct.sublist hboth)).1 x List.mem_cons_self

/-- What can be relied on of the blocks that calls return with. -/
structure HandsOut (reports : List (Report τ)) : Prop where
  /-- A call returns only with a block that was reserved for it before. -/
  reserved : ∀ front r back b, reports = front ++ r :: back → r.given? = some b →
    TakenFor front r.call b
  /-- Blocks that are live are out. -/
  out : ∀ id b, LiveFor reports id b → b ∈ liveBlocks reports
  /-- Blocks that are live for different calls have different handles. -/
  distinct : ∀ id id' x y, id ≠ id' → LiveFor reports id x → LiveFor reports id' y →
    x.handle ≠ y.handle

/-- What a call has returned with was reserved for it. -/
theorem HandsOut.takenFor (h : HandsOut reports) (hhanded : HandedTo reports id b) :
    TakenFor reports id b := by
  obtain ⟨r, hr, rfl, hgiven⟩ := hhanded
  obtain ⟨front, back, rfl⟩ := List.append_of_mem hr
  exact (h.reserved front r back b rfl hgiven).append _

/-- **Calls are handed blocks of their own**, in every run. -/
theorem handsOut_run {name : String} {c : Config} (created : create name c = .ok m)
    (events : List (Event τ)) : HandsOut (m.run events).2 := by
  refine ⟨?_, ?_, ?_⟩
  · intro front r back b hsplit hgiven
    exact takenFor_of_returned created events hsplit (Report.given?_eq_some_iff.1 hgiven)
  · intro id b hlive
    obtain ⟨-, -, -, -, -, -, hout⟩ := hlive.exists_taken created
    exact hout
  · intro id id' x y hne hx hy
    obtain ⟨hsound, -⟩ := reachable_sound created events
    have hdistinct := hsound.tracks.distinct
    obtain ⟨before, first, after, hsplit, hcall, htaken, -⟩ := hx.exists_taken created
    obtain ⟨_, second, _, hsplit', hcall', htaken', -⟩ := hy.exists_taken created
    have hmem : second ∈ before ++ first :: after := by
      rw [← hsplit, hsplit']
      simp
    -- one of the two blocks was reserved before the other
    rcases List.mem_append.1 hmem with hbefore | hafter
    · obtain ⟨front, between, rfl⟩ := List.append_of_mem hbefore
      exact hy.handle_ne_of_later hdistinct hx hsplit hcall' htaken' hcall htaken
    · rcases List.mem_cons.1 hafter with rfl | hafter
      · exact absurd (hcall.symm.trans hcall') hne
      · obtain ⟨between, back, rfl⟩ := List.append_of_mem hafter
        rw [← List.cons_append, ← List.append_assoc] at hsplit
        exact (hx.handle_ne_of_later hdistinct hy hsplit hcall htaken hcall' htaken').symm

end Machine

end BusPool.Pool
