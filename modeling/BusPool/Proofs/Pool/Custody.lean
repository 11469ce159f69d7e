import BusPool.Proofs.Pool.Courses
import BusPool.Proofs.Pool.Runs

/-!
# In whose hands a block is

A block that is out is in one of three places: a call is about to deliver it, a caller has it, or
a call is about to take it back. As long as callers free only what they hold
(**`Machine.Entitled`**), no handle is in two of these places, and none of them has a handle that
is not out (**`Machine.Custody`**). An event moves at most one handle from one place to the next
(**`Machine.Custody.step_cases`**), so this holds after every run (**`Machine.custody_run`**), and
what callers ask to be taken back is out when it is taken back
(**`Machine.Custody.live_of_freeing`**).

Callers give a block away when they ask for it to be taken back. Until that takes place nobody else
can be given its bytes, so the block is still lent to them: its handle stays on loan
(**`Machine.Passes.lent`**).
-/

namespace BusPool.Pool

variable {τ : Type}

/-! ### What callers are given -/

/-- The handle that a call is about to take back. -/
def Stage.toFree? : Stage τ → Option Address
  | freeing handle => some handle
  | _ => none

/-- The handle that a call has just been asked to take back. -/
def Report.surrendered? (r : Report τ) : Option Address := r.next.stage?.bind Stage.toFree?

/-- The blocks that callers hold: calls returned with them, and no call was asked to take them
back since. -/
def heldBlocks (reports : List (Report τ)) : List Block :=
  gathered Report.given? (fun r b => r.surrendered? ≠ some b.handle) reports

/-- The blocks that are lent to callers: calls returned with them, and they were not taken back
since, as log records tell (`Report.after`). -/
def lentBlocks (reports : List (Report τ)) : List Block :=
  gathered Report.given? (fun r b => Record.freed b.handle ∉ r.records) reports

/-- The handle of the block that a call is about to deliver. -/
def Stage.toDeliver? : Stage τ → Option Address
  | delivering _ b => some b.handle
  | _ => none

/-- A call has returned with every block that callers ever held. -/
theorem returned_of_gathered {keeps : Report τ → Block → Bool} {reports : List (Report τ)}
    {b : Block} (hb : b ∈ gathered Report.given? keeps reports) :
    ∃ r ∈ reports, r.next = .returned (.block b) := by
  obtain ⟨front, r, back, rfl, hgiven, -⟩ := mem_gathered_iff.1 hb
  exact ⟨r, by simp, Report.given?_eq_some_iff.1 hgiven⟩

/-- A report of nothing that was asked to be taken back leaves callers what they hold. -/
theorem heldBlocks_of_kept {r : Report τ} (hkept : r.surrendered? = none)
    (reports : List (Report τ)) :
    heldBlocks (reports ++ [r]) = r.given?.toList ++ heldBlocks reports := by
  rw [heldBlocks, gathered_concat, hkept, List.filter_eq_self.2 fun b _ => by simp]
  rfl

/-- A report without a release leaves the blocks lent that were lent. -/
theorem lentBlocks_of_not_freed {r : Report τ}
    (hrecords : ∀ handle, Record.freed handle ∉ r.records) (reports : List (Report τ)) :
    lentBlocks (reports ++ [r]) = r.given?.toList ++ lentBlocks reports := by
  rw [lentBlocks, gathered_concat,
    List.filter_eq_self.2 fun b _ => decide_eq_true (hrecords b.handle)]
  rfl

namespace Machine

variable {m : Machine τ} {reports : List (Report τ)} {events : List (Event τ)} {id : Nat}
  {stage : Stage τ} {turn : Turn τ}

/-- Only a call that takes a block back reports one as freed. -/
theorem Moves.freed_not_mem (hmove : m.Moves stage turn) (hstage : stage.toFree? = none)
    (handle : Address) : Record.freed handle ∉ turn.records := by
  cases hmove with
  | piece hturn =>
    cases stage with
    | reserving flags =>
      cases hturn
      unfold Stage.reserve
      split <;> simp
    | adopting flags g =>
      cases hturn
      unfold Stage.adopt
      split
      · simp
      · dsimp only
        split <;> simp
    | delivering flags b =>
      cases hturn
      simp [Stage.deliver]
    | freeing handle => cases hstage
    | resolving handle ops =>
      cases hturn
      unfold Stage.resolve
      split <;> simp
    | sizing => cases hturn
    | importing => cases hturn
    | syncing => cases hturn
  | sized => exact List.not_mem_nil
  | replied hnext =>
    obtain ⟨flags, minSize, -, ⟨g, -, -, rfl, -⟩ | ⟨g, -, -, rfl, -⟩ | ⟨cause, -, rfl, -⟩⟩ :=
      Stage.replied?_cases hnext <;> simp
  | acknowledged => exact List.not_mem_nil

/-! ### The three places -/

/-- The handles of blocks that calls are about to deliver. -/
def deliveries (m : Machine τ) : List Address := m.collect Stage.toDeliver?

/-- The handles that callers were given and that were not taken back: the ones they hold, and the
ones that calls are about to take back. -/
def loans (m : Machine τ) (reports : List (Report τ)) : List Address :=
  (heldBlocks reports).map Block.handle ++ m.collect Stage.toFree?

/-- Callers ask only for blocks to be taken back that they hold. -/
def Entitled (_ : Machine τ) (reports : List (Report τ)) : Event τ → Prop
  | .call (.free handle) => ∃ b ∈ heldBlocks reports, b.handle = handle
  | _ => True

/-- Where the handles are that are out. -/
structure Custody (m : Machine τ) (reports : List (Report τ)) : Prop where
  /-- Every handle that is out is in one place, and no other handle is. -/
  account : (m.deliveries ++ m.loans reports).Perm ((liveBlocks reports).map Block.handle)
  /-- The handles of the blocks that are lent are on loan. -/
  lent : ∀ b ∈ lentBlocks reports, b.handle ∈ m.loans reports

namespace Custody

variable {live : List Block}

/-- No handle is in two places. -/
theorem nodup (h : m.Custody reports) (hsound : m.Sound (liveBlocks reports)) :
    (m.deliveries ++ m.loans reports).Nodup := by
  rw [h.account.nodup_iff, List.Nodup, List.pairwise_map]
  exact hsound.tracks.distinct

/-- **What is about to be delivered is not on loan.** -/
theorem ne_of_delivery (h : m.Custody reports) (hsound : m.Sound (liveBlocks reports))
    {handle handle' : Address} (hdelivery : handle ∈ m.deliveries)
    (hloan : handle' ∈ m.loans reports) : handle ≠ handle' :=
  (List.nodup_append.1 (h.nodup hsound)).2.2 handle hdelivery handle' hloan

/-- **What is about to be taken back is out.** -/
theorem live_of_freeing (h : m.Custody reports) {handle : Address}
    (hstage : m.stage? id = some (.freeing handle)) :
    ∃ b ∈ liveBlocks reports, b.handle = handle := by
  have hloan : handle ∈ m.loans reports := List.mem_append_right _ (mem_collect hstage rfl)
  exact List.mem_map.1 (h.account.mem_iff.1 (List.mem_append_right _ hloan))

end Custody

/-! ### From place to place -/

/-- What has become of the handles after more reports: at most one has passed from one place to the
next. -/
inductive Passes (m : Machine τ) (reports : List (Report τ)) (m' : Machine τ)
    (reports' : List (Report τ)) : Prop
  /-- None has. -/
  | stays (deliveries : m'.deliveries.Perm m.deliveries)
    (loans : (m'.loans reports').Perm (m.loans reports))
    (live : liveBlocks reports' = liveBlocks reports)
    (lent : lentBlocks reports' = lentBlocks reports)
  /-- A call has reserved a block and is about to deliver it. -/
  | takes (b : Block) (deliveries : m'.deliveries.Perm (b.handle :: m.deliveries))
    (loans : (m'.loans reports').Perm (m.loans reports))
    (live : liveBlocks reports' = b :: liveBlocks reports)
    (lent : lentBlocks reports' = lentBlocks reports)
  /-- A call has returned with a block. -/
  | delivers (b : Block) (deliveries : m.deliveries.Perm (b.handle :: m'.deliveries))
    (loans : (m'.loans reports').Perm (b.handle :: m.loans reports))
    (live : liveBlocks reports' = liveBlocks reports)
    (lent : lentBlocks reports' = b :: lentBlocks reports)
  /-- A call has taken a block back. -/
  | frees (handle : Address) (deliveries : m'.deliveries.Perm m.deliveries)
    (loans : (m.loans reports).Perm (handle :: m'.loans reports'))
    (live : liveBlocks reports' = (liveBlocks reports).filter fun b => b.handle ≠ handle)
    (lent : lentBlocks reports' = (lentBlocks reports).filter fun b => b.handle ≠ handle)

/-- A call that takes a block back passes its handle on. -/
private theorem Custody.passes_free (h : m.Custody reports)
    (hsound : m.Sound (liveBlocks reports)) (hnumbered : m.Numbered reports) {handle : Address}
    (hstage : m.stage? id = some (.freeing handle)) (hmove : m.Moves (.freeing handle) turn) :
    Passes m reports
      (({ m with state := turn.state, memory := turn.memory } : Machine τ).follow id turn.next)
      (reports ++ [⟨id, turn.records, turn.next⟩]) := by
  obtain ⟨s', hrun, -⟩ :=
    hsound.tracks.free hsound.valid m.memory m.name (h.live_of_freeing hstage)
  cases (hmove.eq_of_advance rfl).trans hrun
  have hdeliver : m.deliveries.Perm (m.collectBut Stage.toDeliver? id) :=
    hnumbered.perm_collect _ hstage
  have hfree : (m.collect Stage.toFree?).Perm (handle :: m.collectBut Stage.toFree? id) :=
    hnumbered.perm_collect _ hstage
  refine .frees handle hdeliver.symm ?_ ?_ ?_
  · rw [loans, loans, heldBlocks_of_kept rfl]
    exact (hfree.append_left _).trans List.perm_middle
  · rw [liveBlocks_concat, Report.after_freed]
  · rw [lentBlocks, gathered_concat]
    exact Report.after_freed id handle

/-- What is on loan when a call that takes nothing back is told what follows. -/
private theorem perm_loans_follow (hnumbered : m.Numbered reports)
    (hstage : m.stage? id = some stage) (hfrees : stage.toFree? = none) {m' : Machine τ}
    (hcalls : m'.calls = m.calls) (records : List Record) {next : Next τ}
    (hnext : next.stage?.bind Stage.toFree? = none) :
    ((m'.follow id next).loans (reports ++ [⟨id, records, next⟩])).Perm
      ((⟨id, records, next⟩ : Report τ).given?.toList.map Block.handle ++ m.loans reports) := by
  have hkept : (⟨id, records, next⟩ : Report τ).surrendered? = none := hnext
  have hbefore : (m.collect Stage.toFree?).Perm (m.collectBut Stage.toFree? id) := by
    have hperm := hnumbered.perm_collect Stage.toFree? hstage
    rwa [hfrees] at hperm
  have hafter : (m'.follow id next).collect Stage.toFree? = m.collectBut Stage.toFree? id := by
    rw [collect_follow, hnext, collectBut, collectBut, hcalls]
    rfl
  rw [loans, loans, heldBlocks_of_kept hkept, hafter, List.map_append, List.append_assoc]
  exact (hbefore.symm.append_left _).append_left _

/-- **A move passes at most one handle on.** -/
theorem Custody.passes_move (h : m.Custody reports) (hsound : m.Sound (liveBlocks reports))
    (hnumbered : m.Numbered reports) (hstage : m.stage? id = some stage)
    (hmove : m.Moves stage turn) :
    Passes m reports
      (({ m with state := turn.state, memory := turn.memory } : Machine τ).follow id turn.next)
      (reports ++ [⟨id, turn.records, turn.next⟩]) := by
  cases hfrees : stage.toFree? with
  | some handle =>
    cases stage with
    | freeing =>
      cases hfrees
      exact h.passes_free hsound hnumbered hstage hmove
    | _ => cases hfrees
  | none =>
    let moved : Machine τ := { m with state := turn.state, memory := turn.memory }
    let r : Report τ := ⟨id, turn.records, turn.next⟩
    have hquiet := hmove.freed_not_mem hfrees
    have hdeliver : m.deliveries.Perm
        (stage.toDeliver?.toList ++ m.collectBut Stage.toDeliver? id) :=
      hnumbered.perm_collect _ hstage
    have hdeliver' : (moved.follow id turn.next).deliveries =
        (turn.next.stage?.bind Stage.toDeliver?).toList ++ m.collectBut Stage.toDeliver? id :=
      collect_follow Stage.toDeliver? moved id turn.next
    have hlive : liveBlocks (reports ++ [r]) = r.taken?.toList ++ liveBlocks reports := by
      rw [liveBlocks_concat, Report.after_of_not_freed hquiet]
    have hlent : lentBlocks (reports ++ [r]) = r.given?.toList ++ lentBlocks reports :=
      lentBlocks_of_not_freed hquiet reports
    have hcalls : moved.calls = m.calls := rfl
    have hloans : turn.next.stage?.bind Stage.toFree? = none →
        ((moved.follow id turn.next).loans (reports ++ [r])).Perm
          (r.given?.toList.map Block.handle ++ m.loans reports) :=
      perm_loans_follow hnumbered hstage hfrees hcalls turn.records
    have hleads := hmove.leads
    obtain ⟨state, memory, records, next⟩ := turn
    -- nothing passes on unless the call takes a block or delivers one
    have hstays : stage.toDeliver? = none → next.stage?.bind Stage.toDeliver? = none →
        next.stage?.bind Stage.toFree? = none → r.taken? = none → r.given? = none →
        Passes m reports (moved.follow id next) (reports ++ [r]) := by
      intro hnow hnext hkeeps htaken hgiven
      rw [hnow] at hdeliver
      rw [hnext] at hdeliver'
      rw [htaken] at hlive
      rw [hgiven] at hlent hloans
      refine .stays ?_ (hloans hkeeps) hlive hlent
      rw [hdeliver']
      exact hdeliver.symm
    cases hleads with
    | reserved flags b | adopted flags g b =>
      refine .takes b ?_ (hloans rfl) hlive hlent
      rw [hdeliver']
      exact hdeliver.symm.cons _
    | delivered flags b =>
      refine .delivers b ?_ (hloans rfl) hlive hlent
      rw [hdeliver']
      exact hdeliver
    | freed handle => cases hfrees
    | faulted f canFault =>
      refine hstays ?_ rfl rfl rfl rfl
      cases stage with
      | delivering => cases canFault
      | _ => rfl
    | _ => exact hstays rfl rfl rfl rfl rfl

/-- Without the blocks of one handle there is one handle less. -/
private theorem map_filter_handle {blocks : List Block} (hnodup : (blocks.map Block.handle).Nodup)
    (handle : Address) : (blocks.filter fun b => b.handle ≠ handle).map Block.handle =
      (blocks.map Block.handle).erase handle := by
  rw [hnodup.erase_eq_filter, List.filter_map]
  refine congrArg (List.map Block.handle) (List.filter_congr fun b _ => ?_)
  rw [Function.comp_apply, bne, beq_eq_decide, decide_not]

/-- A caller that asks for a block to be taken back does not hold it any longer. -/
private theorem heldBlocks_freeing (reports : List (Report τ)) (id : Nat) (handle : Address) :
    heldBlocks (reports ++ [⟨id, [], .goOn (.freeing handle)⟩]) =
      (heldBlocks reports).filter fun b => b.handle ≠ handle := by
  rw [heldBlocks, gathered_concat]
  show (heldBlocks reports).filter (fun b => decide (some handle ≠ some b.handle)) = _
  refine List.filter_congr fun b _ => decide_eq_decide.2 ?_
  rw [Ne, Option.some_inj, eq_comm]

/-- **A new call leaves every handle where it is**, or passes one from the caller to the call. -/
theorem Custody.passes_call (h : m.Custody reports) (hsound : m.Sound (liveBlocks reports))
    (hnumbered : m.Numbered reports) {request : Request}
    (hentitled : Entitled m reports (.call request)) :
    Passes m reports { m.follow m.begun (.goOn request.start) with begun := m.begun + 1 }
      (reports ++ [⟨m.begun, [], .goOn request.start⟩]) := by
  let r : Report τ := ⟨m.begun, [], .goOn request.start⟩
  have hquiet : ∀ handle, Record.freed handle ∉ r.records := fun _ => List.not_mem_nil
  have hnone : r.taken? = none ∧ r.given? = none ∧
      (request.start : Stage τ).toDeliver? = none := by
    cases request <;> exact ⟨rfl, rfl, rfl⟩
  have hdeliver := collect_follow Stage.toDeliver? m m.begun (.goOn request.start)
  have hfree := collect_follow Stage.toFree? m m.begun (.goOn request.start)
  rw [hnumbered.collectBut_begun] at hdeliver hfree
  refine .stays ?_ ?_ ?_ ?_
  · show ((m.follow m.begun (.goOn request.start)).collect Stage.toDeliver?).Perm m.deliveries
    rw [hdeliver]
    show ((request.start : Stage τ).toDeliver?.toList ++ m.deliveries).Perm m.deliveries
    rw [hnone.2.2]
    exact .refl _
  · show ((heldBlocks (reports ++ [r])).map Block.handle ++
      (m.follow m.begun (.goOn request.start)).collect Stage.toFree?).Perm (m.loans reports)
    rw [hfree]
    cases request with
    | free handle =>
      have hnodup : ((heldBlocks reports).map Block.handle).Nodup :=
        (List.nodup_append.1 (List.nodup_append.1 (h.nodup hsound)).2.1).1
      have hafter : heldBlocks (reports ++ [r]) =
          (heldBlocks reports).filter fun b => b.handle ≠ handle := heldBlocks_freeing _ _ _
      have hperm := List.perm_cons_erase (List.mem_map.2 hentitled)
      rw [hafter, map_filter_handle hnodup]
      exact List.perm_middle.trans (hperm.symm.append_right _)
    | allocate flags =>
      rw [heldBlocks_of_kept rfl]
      exact .refl _
    | synchronize handle ops =>
      rw [heldBlocks_of_kept rfl]
      exact .refl _
  · rw [liveBlocks_concat, Report.after_of_not_freed hquiet, hnone.1]
    rfl
  · rw [lentBlocks_of_not_freed hquiet, hnone.2.1]
    rfl

/-- **An event passes at most one handle on.** -/
theorem Custody.step_cases (h : m.Custody reports) (hsound : m.Sound (liveBlocks reports))
    (hnumbered : m.Numbered reports) {e : Event τ} (hentitled : Entitled m reports e) :
    Passes m reports (m.step e).1 (reports ++ (m.step e).2.toList) := by
  rcases m.step_cases e with ⟨memory, heq⟩ | ⟨request, he, heq⟩ |
    ⟨id, stage, turn, hstage, hmove, heq⟩
  · rw [heq, Option.toList_none, List.append_nil]
    exact .stays (.refl _) (.refl _) rfl rfl
  · rw [heq]
    exact h.passes_call hsound hnumbered (he ▸ hentitled)
  · rw [heq]
    exact h.passes_move hsound hnumbered hstage hmove

/-! ### Runs -/

namespace Passes

variable {m' : Machine τ} {reports' : List (Report τ)}

/-- Passing a handle on neither loses nor doubles one. -/
theorem account (hpasses : Passes m reports m' reports') (h : m.Custody reports)
    (hsound : m.Sound (liveBlocks reports)) :
    (m'.deliveries ++ m'.loans reports').Perm ((liveBlocks reports').map Block.handle) := by
  cases hpasses with
  | stays deliveries loans live lent =>
    rw [live]
    exact (deliveries.append loans).trans h.account
  | takes b deliveries loans live lent =>
    rw [live]
    exact (deliveries.append loans).trans (h.account.cons _)
  | delivers b deliveries loans live lent =>
    rw [live]
    refine (loans.append_left _).trans (List.perm_middle.trans ?_)
    exact (deliveries.symm.append_right _).trans h.account
  | frees handle deliveries loans live lent =>
    have hall : (handle :: (m'.deliveries ++ m'.loans reports')).Perm
        ((liveBlocks reports).map Block.handle) :=
      List.perm_middle.symm.trans ((deliveries.append loans.symm).trans h.account)
    have hnodup : ((liveBlocks reports).map Block.handle).Nodup := by
      rw [List.Nodup, List.pairwise_map]
      exact hsound.tracks.distinct
    have hrest := hall.erase handle
    rw [List.erase_cons_head] at hrest
    rwa [live, map_filter_handle hnodup]

/-- What is lent stays on loan until it is taken back. -/
theorem lent (hpasses : Passes m reports m' reports') (h : m.Custody reports) :
    ∀ b ∈ lentBlocks reports', b.handle ∈ m'.loans reports' := by
  cases hpasses with
  | stays deliveries loans live lent | takes b deliveries loans live lent =>
    rw [lent]
    exact fun b hb => loans.mem_iff.2 (h.lent b hb)
  | delivers b deliveries loans live lent =>
    rw [lent]
    intro b' hb'
    rw [loans.mem_iff]
    rcases List.mem_cons.1 hb' with rfl | hb'
    · exact List.mem_cons_self
    · exact List.mem_cons_of_mem _ (h.lent b' hb')
  | frees handle deliveries loans live lent =>
    rw [lent]
    intro b hb
    obtain ⟨hb, hne⟩ := List.mem_filter.1 hb
    exact (List.mem_cons.1 (loans.mem_iff.1 (h.lent b hb))).resolve_left (of_decide_eq_true hne)

end Passes

/-- **Every handle that is out is in one place**, after every run in which callers free only what
they hold. -/
theorem custody_run {name : String} {c : Config} (created : create name c = .ok m)
    (entitled : m.Along Entitled events) : (m.run events).1.Custody (m.run events).2 := by
  induction events using List.reverseRecOn with
  | nil =>
    rw [create_eq created]
    exact ⟨.refl _, fun b hb => nomatch hb⟩
  | append_singleton events e ih =>
    obtain ⟨hinit, hlast⟩ := along_concat.1 entitled
    obtain ⟨hsound, -⟩ := reachable_sound created events
    have hcustody := ih hinit
    have hpasses := hcustody.step_cases hsound (numbered_run created events) hlast
    rw [run_concat]
    exact ⟨hpasses.account hcustody hsound, hpasses.lent hcustody⟩

end Machine

end BusPool.Pool
