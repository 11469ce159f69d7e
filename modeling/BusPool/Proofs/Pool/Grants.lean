import BusPool.Proofs.Pool.Courses
import BusPool.Proofs.Pool.Runs

/-!
# Where grants are

A store that keeps its promises (**`Machine.Supplied`**) grants segments that are as long as was
asked for and lie apart from all that it granted before. No grant gets lost then, and none is kept
twice: each is either on its way, held by a call that is about to add it, or in the index
(**`Machine.Ledger`**). One event moves at most one grant, from the store to a call or from a call
into the index (**`Machine.Ledger.step`**), and so the account holds after every run
(**`Machine.ledger_run`**).
-/

namespace BusPool

open AddressMap

variable {τ : Type}

/-! ### Grants in the index -/

/-- Two grants without a byte in common. -/
def Grant.Apart (g h : Grant τ) : Prop :=
  g.bus.toNat + g.len.toNat ≤ h.bus.toNat ∨ h.bus.toNat + h.len.toNat ≤ g.bus.toNat

namespace Grant.Apart

variable {g h : Grant τ}

/-- It does not matter which grant is named first. -/
theorem symm (hap : g.Apart h) : h.Apart g := Or.symm hap

/-- Grants that lie apart do not overlap. -/
theorem overlaps_eq_false (hap : g.Apart h) : g.extent.overlaps h.extent = false := by
  rw [← Bool.not_eq_true, Extent.overlaps_iff, Extent.toNat_endWord, Extent.toNat_endWord]
  rintro ⟨hlow, hhigh⟩
  have hlow := Nat.lt_of_lt_of_le hlow (Nat.min_le_left _ _)
  have hhigh := Nat.lt_of_lt_of_le hhigh (Nat.min_le_left _ _)
  exact hap.elim (Nat.not_le.2 hhigh) (Nat.not_le.2 hlow)

end Grant.Apart

/-- What a store promises of a segment that it grants, given what it granted before. -/
structure Grant.Promised (unit limit : Nat) (minSize : Word) (earlier : List (Grant τ))
    (g : Grant τ) : Prop where
  /-- It starts at a multiple of the unit. -/
  aligned : unit ∣ g.bus.toNat
  /-- It is as long as was asked for. -/
  long : minSize.toNat ≤ g.len.toNat
  /-- It ends no later than the limit. -/
  below : g.bus.toNat + g.len.toNat ≤ limit
  /-- It lies apart from what was granted before. -/
  apart : ∀ h ∈ earlier, h.Apart g

/-- The grant that became a segment. -/
def Segment.grant (s : Segment τ) : Grant τ := ⟨s.extent.start, s.extent.len, s.mapping, s.token⟩

namespace SegmentIndex

variable {i : SegmentIndex τ} {g : Grant τ}

/-- The grants that became segments of the index. -/
def grants (i : SegmentIndex τ) : List (Grant τ) := i.toList.map Segment.grant

/-- The extents of the index are those of its grants. -/
theorem map_extent_grants (i : SegmentIndex τ) : i.grants.map Grant.extent = i.extents := by
  rw [grants, List.map_map]
  rfl

/-- A grant of the index is that of an indexed segment. -/
theorem mem_grants : g ∈ i.grants ↔ ∃ x ∈ i.segments.entries, x.2.grant = g := by
  simp [grants, toList, values]

/-- A segment at a new address adds its grant to the index. -/
theorem Placed.perm_grants_adding (h : i.Placed) (hnew : ∀ g' ∈ i.grants, g'.bus ≠ g.bus) :
    (i.adding (.ofGrant g)).grants.Perm (g :: i.grants) := by
  have hkey : ∀ segment, (g.bus, segment) ∉ i.segments.entries := by
    intro segment hmem
    exact hnew _ (mem_grants.2 ⟨_, hmem, rfl⟩) (h.start_eq _ hmem)
  have hperm : (i.adding (.ofGrant g)).toList.Perm (.ofGrant g :: i.toList) :=
    perm_toList_adding hkey
  exact hperm.map Segment.grant

/-- With a segment added, the index has its grant and others from before. -/
theorem mem_grants_adding {g' : Grant τ} (hg : g' ∈ (i.adding (.ofGrant g)).grants) :
    g' = g ∨ g' ∈ i.grants := by
  obtain ⟨x, hx, rfl⟩ := mem_grants.1 hg
  rcases mem_insert.1 hx with rfl | ⟨hx, -⟩
  · exact .inl rfl
  · exact .inr (mem_grants.2 ⟨x, hx, rfl⟩)

end SegmentIndex

namespace Pool

open SegmentIndex

/-! ### Grants on their way -/

/-- The grant that a call is about to add. -/
def Stage.grant? : Stage τ → Option (Grant τ)
  | adopting _ g => some g
  | _ => none

/-- The grant that a call has just been told of. -/
def Next.grant? (next : Next τ) : Option (Grant τ) := next.stage?.bind Stage.grant?

/-- The grants that calls have been told of, the first one first. -/
def granted (reports : List (Report τ)) : List (Grant τ) :=
  reports.filterMap fun r => r.next.grant?

/-- The grants after more reports. -/
theorem granted_append (reports more : List (Report τ)) :
    granted (reports ++ more) = granted reports ++ granted more := List.filterMap_append

/-- No reports, no grants. -/
@[simp] theorem granted_nil : granted ([] : List (Report τ)) = [] := rfl

/-- The grant of one report, if it has one. -/
@[simp] theorem granted_singleton (id : Nat) (records : List Record) (next : Next τ) :
    granted [⟨id, records, next⟩] = next.grant?.toList := by
  rw [granted, List.filterMap_cons]
  dsimp only
  cases next.grant? <;> rfl

/-- One more report keeps grants in a relation to each other, if its grant is in that relation to
those before. -/
theorem pairwise_granted {R : Grant τ → Grant τ → Prop} {reports : List (Report τ)}
    (h : (granted reports).Pairwise R) {report? : Option (Report τ)}
    (hnew : ∀ g' ∈ granted report?.toList, ∀ g ∈ granted reports, R g g') :
    (granted (reports ++ report?.toList)).Pairwise R := by
  have hone : (granted report?.toList).Pairwise R := by
    cases report? with
    | none => exact .nil
    | some r =>
      rw [Option.toList_some, granted_singleton]
      cases r.next.grant? with
      | none => exact .nil
      | some g => exact List.pairwise_singleton _ _
  rw [granted_append, List.pairwise_append]
  exact ⟨h, hone, fun g hg g' hg' => hnew g' hg' g hg⟩

/-- What a call was told of it was told of in a report. -/
theorem mem_granted {reports : List (Report τ)} {g : Grant τ} :
    g ∈ granted reports ↔ ∃ r ∈ reports, r.next.grant? = some g := List.mem_filterMap

/-- A call that is told of a grant goes on to add it. -/
theorem Next.grant?_eq_some_iff {next : Next τ} {g : Grant τ} :
    next.grant? = some g ↔ ∃ flags, next = .goOn (.adopting flags g) := by
  constructor
  · intro h
    obtain ⟨stage, hstage, hgrant⟩ := Option.bind_eq_some_iff.1 h
    cases next with
    | goOn stage =>
      cases hstage
      cases stage with
      | adopting flags g =>
        cases hgrant
        exact ⟨flags, rfl⟩
      | _ => cases hgrant
    | returned outcome => cases hstage
  · rintro ⟨flags, rfl⟩
    rfl

namespace Machine

variable {m : Machine τ} {id : Nat} {reports : List (Report τ)} {events : List (Event τ)}
  {g : Grant τ}

/-- The grants that calls in progress are about to add. -/
def pending (m : Machine τ) : List (Grant τ) := m.calls.filterMap fun call => call.2.grant?

/-- While no call is about to add a grant, none is on its way. -/
theorem pending_eq_nil (hnumbered : m.Numbered reports)
    (hnone : ∀ id flags g, m.stage? id ≠ some (.adopting flags g)) : m.pending = [] := by
  rw [pending, List.filterMap_eq_nil_iff]
  rintro ⟨id, stage⟩ hcall
  have hstage := hnumbered.stage?_of_mem hcall
  cases stage with
  | adopting flags g => exact absurd hstage (hnone id flags g)
  | _ => rfl

/-- A call is told of a grant when the store answers what it asked for. -/
theorem reply_of_granted {e : Event τ} {r : Report τ} (hr : (m.step e).2 = some r)
    (hgrant : r.next.grant? = some g) : ∃ flags minSize, e = .reply r.call (.ok g) ∧
      m.stage? r.call = some (.importing flags minSize) := by
  obtain ⟨flags, hnext⟩ := Next.grant?_eq_some_iff.1 hgrant
  cases prompts_of_step hr with
  | begins request => cases request <;> cases hnext
  | advances stands advance =>
    have hleads := (Moves.piece advance).leads
    dsimp only at hnext
    rw [hnext] at hleads
    cases hleads
    cases advance
  | sizes stands answered =>
    obtain ⟨_, -, ⟨_, -, hgoOn⟩ | ⟨_, -, hgoOn⟩⟩ := Stage.sized?_cases answered <;>
      cases hnext.symm.trans hgoOn
  | replies stands answered =>
    obtain ⟨flags', minSize, rfl, ⟨g', rfl, -, -, hgoOn⟩ | ⟨g', -, -, -, hgoOn⟩ |
      ⟨cause, -, -, hgoOn⟩⟩ := Stage.replied?_cases answered <;> cases hnext.symm.trans hgoOn
    exact ⟨flags, minSize, rfl, stands⟩
  | acknowledges stands answered => cases hnext.symm.trans (Stage.acknowledged?_eq answered)

/-- A call asks for a segment when the store has named its granularity. -/
theorem granularity_of_asked {e : Event τ} {r : Report τ} (hr : (m.step e).2 = some r)
    {flags : AllocFlags} {minSize : Word} (hnext : r.next = .goOn (.importing flags minSize)) :
    ∃ w, e = .granularity r.call w ∧ m.stage? r.call = some (.sizing flags) ∧
      m.config.growthRequest w = .ok minSize := by
  cases prompts_of_step hr with
  | begins request => cases request <;> cases hnext
  | advances stands advance =>
    have hleads := (Moves.piece advance).leads
    dsimp only at hnext
    rw [hnext] at hleads
    cases hleads
    cases advance
  | @sizes _ _ w _ stands answered =>
    obtain ⟨flags', rfl, ⟨minSize', hgrowth, hgoOn⟩ | ⟨_, -, hgoOn⟩⟩ :=
      Stage.sized?_cases answered <;> cases hnext.symm.trans hgoOn
    exact ⟨w, rfl, stands, hgrowth⟩
  | replies stands answered =>
    obtain ⟨_, _, -, ⟨_, -, -, -, hgoOn⟩ | ⟨_, -, -, -, hgoOn⟩ | ⟨_, -, -, hgoOn⟩⟩ :=
      Stage.replied?_cases answered <;> cases hnext.symm.trans hgoOn
  | acknowledges stands answered => cases hnext.symm.trans (Stage.acknowledged?_eq answered)

/-! ### Promises -/

/-- The store names its granularity, if it names one. -/
def SizedBy (granularity : Word) (m : Machine τ) (_ : List (Report τ)) : Event τ → Prop
  | .granularity id w => ∀ flags, m.stage? id = some (.sizing flags) → w = granularity
  | _ => True

/-- The store keeps its promises for what it grants, if it grants anything. -/
def Supplied (unit limit : Nat) (m : Machine τ) (reports : List (Report τ)) : Event τ → Prop
  | .reply id (.ok g) => ∀ flags minSize, m.stage? id = some (.importing flags minSize) →
    g.Promised unit limit minSize (granted reports)
  | _ => True

variable {unit limit : Nat}

/-- A grant that a call is told of was promised. -/
theorem Supplied.promised {e : Event τ} (h : Supplied unit limit m reports e) {r : Report τ}
    (hr : (m.step e).2 = some r) (hgrant : r.next.grant? = some g) :
    ∃ flags minSize, m.stage? r.call = some (.importing flags minSize) ∧
      g.Promised unit limit minSize (granted reports) := by
  obtain ⟨flags, minSize, rfl, hstage⟩ := reply_of_granted hr hgrant
  exact ⟨flags, minSize, hstage, h flags minSize hstage⟩

/-- A promised segment is long enough for the call that asked for it. -/
theorem Supplied.replied_eq (h : Supplied unit limit m reports (.reply id (.ok g)))
    {flags : AllocFlags} {minSize : Word} (hstage : m.stage? id = some (.importing flags minSize)) :
    (m.stage? id).bind (Stage.replied? (.ok g)) = some ([], .goOn (.adopting flags g)) := by
  have hlong : minSize ≤ g.len := UInt64.le_iff_toNat_le.2 (h flags minSize hstage).long
  rw [hstage]
  exact if_pos hlong

/-- What calls were granted in a run was promised when they asked for it. -/
theorem promised_of_granted (supplied : m.Along (Supplied unit limit) events)
    (hg : g ∈ granted (m.run events).2) : ∃ front e back id flags minSize,
      events = front ++ e :: back ∧ (m.run front).1.stage? id = some (.importing flags minSize) ∧
      g.Promised unit limit minSize (granted (m.run front).2) := by
  obtain ⟨r, hr, hgrant⟩ := mem_granted.1 hg
  obtain ⟨front, e, back, hsplit, hreport⟩ := exists_event_of_report hr
  obtain ⟨flags, minSize, hstage, hpromised⟩ :=
    (supplied front e back hsplit).promised hreport hgrant
  exact ⟨front, e, back, r.call, flags, minSize, hsplit, hstage, hpromised⟩

/-! ### The account -/

/-- What has become of the grants. -/
structure Ledger (m : Machine τ) (reports : List (Report τ)) : Prop where
  /-- Grants have bytes. -/
  pos : ∀ g ∈ granted reports, 0 < g.len.toNat
  /-- Grants lie apart. -/
  apart : (granted reports).Pairwise Grant.Apart
  /-- Each grant is on its way or in the index, and nothing else is. -/
  account : (granted reports).Perm (m.pending ++ m.state.index.grants)

namespace Ledger

variable {live : List Block}

/-- A grant on its way lies apart from every segment. -/
theorem pending_apart (h : m.Ledger reports) {g' : Grant τ} (hg : g ∈ m.pending)
    (hg' : g' ∈ m.state.index.grants) : g'.Apart g := by
  have hpairs := (h.account.pairwise_iff Grant.Apart.symm).1 h.apart
  exact ((List.pairwise_append.1 hpairs).2.2 g hg g' hg').symm

/-- A grant on its way overlaps no segment. -/
theorem clear_of_pending (h : m.Ledger reports) (hg : g ∈ m.pending) :
    ∀ e ∈ m.state.index.extents, e.overlaps g.extent = false := by
  intro e he
  rw [← map_extent_grants] at he
  obtain ⟨g', hg', rfl⟩ := List.mem_map.1 he
  exact (h.pending_apart hg hg').overlaps_eq_false

/-- A call that is about to add a grant has it on its way. -/
theorem mem_pending {flags : AllocFlags} (hstage : m.stage? id = some (.adopting flags g)) :
    g ∈ m.pending := List.mem_filterMap.2 ⟨_, mem_of_stage? hstage, rfl⟩

/-- Adding a grant that was on its way to the index. -/
theorem perm_adding (h : m.Ledger reports) (hplaced : m.state.index.Placed) (hg : g ∈ m.pending) :
    (m.state.index.adding (.ofGrant g)).grants.Perm (g :: m.state.index.grants) := by
  apply hplaced.perm_grants_adding
  intro g' hg' heq
  have hpos : 0 < g.len.toNat := h.pos g (h.account.mem_iff.2 (List.mem_append_left _ hg))
  have hpos' : 0 < g'.len.toNat := h.pos g' (h.account.mem_iff.2 (List.mem_append_right _ hg'))
  have hap := h.pending_apart hg hg'
  unfold Grant.Apart at hap
  rw [heq] at hap
  omega

end Ledger

/-- Only a call that adds a grant changes the index. -/
theorem Sound.index_eq {live : List Block} (h : m.Sound live) {stage : Stage τ} {turn : Turn τ}
    (hmove : m.Moves stage turn) (hgrant : stage.grant? = none) :
    turn.state.index = m.state.index := by
  cases hmove with
  | piece hturn =>
    cases stage with
    | reserving flags =>
      cases hturn
      rcases h.tracks.reserve h.valid m.memory flags with ⟨hrun, -⟩ | ⟨b, s', hrun, -, -, hindex, -⟩
      · rw [hrun]
      · rw [hrun]
        exact hindex
    | adopting flags g => cases hgrant
    | delivering flags b =>
      cases hturn
      rfl
    | freeing handle =>
      cases hturn
      by_cases hout : ∃ b ∈ live, b.handle = handle
      · obtain ⟨s', hrun, -, hindex, -⟩ := h.tracks.free h.valid m.memory m.name hout
        rw [hrun]
        exact hindex
      · obtain ⟨f, hrun⟩ := h.tracks.free_fault m.memory m.name hout
        rw [hrun]
    | resolving handle ops =>
      cases hturn
      unfold Stage.resolve
      split <;> rfl
    | sizing => cases hturn
    | importing => cases hturn
    | syncing => cases hturn
  | sized => rfl
  | replied => rfl
  | acknowledged => rfl

/-- A call that adds a grant adds it to the index, unless it overlaps a segment there. -/
theorem Sound.index_adopted {live : List Block} (h : m.Sound live) {stage : Stage τ} {turn : Turn τ}
    (hready : stage.Ready) (hmove : m.Moves stage turn) (hgrant : stage.grant? = some g) :
    0 < g.len.toNat ∧ ((turn.state.index = m.state.index ∧
        ∃ e ∈ m.state.index.extents, e.overlaps g.extent = true) ∨
      (turn.state.index = m.state.index.adding (.ofGrant g) ∧
        ∀ e ∈ m.state.index.extents, e.overlaps g.extent = false)) := by
  cases stage with
  | adopting flags g' =>
    cases hgrant
    have hpos : 0 < g.len.toNat := hready
    refine ⟨hpos, ?_⟩
    cases hmove.eq_of_advance rfl
    rcases h.tracks.adopt h.valid m.memory flags hpos with
      ⟨f, hrun, hoverlap⟩ | ⟨-, hclear, hrun, -⟩ |
      ⟨-, hclear, t, -, hindex, -, ⟨hrun, -⟩ | ⟨b, s', hrun, -, -, hindex', -⟩⟩
    · rw [hrun]
      exact .inl ⟨rfl, hoverlap⟩
    · rw [hrun]
      exact .inr ⟨rfl, hclear⟩
    · rw [hrun]
      exact .inr ⟨hindex, hclear⟩
    · rw [hrun]
      exact .inr ⟨hindex'.trans hindex, hclear⟩
  | _ => cases hgrant

/-- **What an event does to the index**: nothing, or it adds the grant of a call. -/
theorem Sound.step_index_cases {live : List Block} (h : m.Sound live) (e : Event τ) :
    (m.step e).1.state.index = m.state.index ∨
    ∃ id stage g, m.stage? id = some stage ∧ stage.grant? = some g ∧ 0 < g.len.toNat ∧
      (∀ extent ∈ m.state.index.extents, extent.overlaps g.extent = false) ∧
      (m.step e).1.state.index = m.state.index.adding (.ofGrant g) := by
  rcases m.step_cases e with ⟨memory, heq⟩ | ⟨request, -, heq⟩ |
    ⟨id, stage, turn, hstage, hmove, heq⟩
  · left
    rw [heq]
  · left
    rw [heq]
    exact congrArg State.index (follow_state _)
  · have hafter : (m.step e).1.state.index = turn.state.index := by
      rw [heq]
      exact congrArg State.index (follow_state _)
    rw [hafter]
    cases hgrant : stage.grant? with
    | none => exact .inl (h.index_eq hmove hgrant)
    | some g =>
      obtain ⟨hpos, ⟨hindex, -⟩ | ⟨hindex, hclear⟩⟩ :=
        h.index_adopted (h.ready _ (mem_of_stage? hstage)) hmove hgrant
      · exact .inl hindex
      · exact .inr ⟨id, stage, g, hstage, hgrant, hpos, hclear, hindex⟩

namespace Ledger

variable {live : List Block}

/-- A call that goes on takes the grant it was about to add into the index, if it had one. -/
theorem perm_index (h : m.Ledger reports) (hsound : m.Sound live) {stage : Stage τ} {turn : Turn τ}
    (hstage : m.stage? id = some stage) (hmove : m.Moves stage turn) :
    turn.state.index.grants.Perm (stage.grant?.toList ++ m.state.index.grants) := by
  cases hgrant : stage.grant? with
  | none =>
    rw [hsound.index_eq hmove hgrant]
    exact .refl _
  | some g =>
    have hpending : g ∈ m.pending := mem_collect hstage hgrant
    obtain ⟨-, ⟨-, e, he, hoverlap⟩ | ⟨hindex, -⟩⟩ :=
      hsound.index_adopted (hsound.ready _ (mem_of_stage? hstage)) hmove hgrant
    · rw [h.clear_of_pending hpending e he] at hoverlap
      cases hoverlap
    · rw [hindex]
      exact h.perm_adding hsound.tracks.sound.placed hpending

/-- One event moves at most one grant, which is neither lost nor kept twice. -/
theorem account_step (h : m.Ledger reports) (hsound : m.Sound live) (hnumbered : m.Numbered reports)
    (e : Event τ) : (granted (reports ++ (m.step e).2.toList)).Perm
      ((m.step e).1.pending ++ (m.step e).1.state.index.grants) := by
  rw [granted_append]
  rcases m.step_cases e with ⟨memory, heq⟩ | ⟨request, -, heq⟩ |
    ⟨id, stage, turn, hstage, hmove, heq⟩
  · rw [heq, Option.toList_none, granted_nil, List.append_nil]
    exact h.account
  · have hnone : (Next.goOn request.start : Next τ).grant? = none := by cases request <;> rfl
    have hafter : (m.follow m.begun (.goOn request.start)).pending =
        (Next.goOn request.start : Next τ).grant?.toList ++ m.collectBut Stage.grant? m.begun :=
      collect_follow Stage.grant? m m.begun (.goOn request.start)
    have hothers : m.collectBut Stage.grant? m.begun = m.pending := hnumbered.collectBut_begun _
    rw [hnone, Option.toList_none, List.nil_append, hothers] at hafter
    rw [heq, Option.toList_some, granted_singleton, hnone, Option.toList_none, List.append_nil]
    show (granted reports).Perm ((m.follow m.begun (.goOn request.start)).pending ++
      (m.follow m.begun (.goOn request.start)).state.index.grants)
    rw [hafter, follow_state]
    exact h.account
  · let moved : Machine τ := { m with state := turn.state, memory := turn.memory }
    have hafter : (moved.follow id turn.next).pending =
        turn.next.grant?.toList ++ m.collectBut Stage.grant? id :=
      collect_follow Stage.grant? moved id turn.next
    rw [heq, Option.toList_some, granted_singleton]
    dsimp only
    rw [hafter, follow_state]
    have hout : m.pending.Perm (stage.grant?.toList ++ m.collectBut Stage.grant? id) :=
      hnumbered.perm_collect _ hstage
    have hin := h.perm_index hsound hstage hmove
    -- what was on its way to the call is in the index now, and what it was told of is on its way
    have hmoved : (m.pending ++ m.state.index.grants).Perm
        (m.collectBut Stage.grant? id ++ turn.state.index.grants) := by
      apply (hout.append_right _).trans
      rw [List.append_assoc]
      apply (List.perm_append_comm_assoc _ _ _).trans
      exact hin.symm.append_left _
    apply List.perm_append_comm.trans
    rw [List.append_assoc]
    exact (h.account.trans hmoved).append_left _

/-- **One event keeps the account**, if the store keeps its promises. -/
theorem step (h : m.Ledger reports) (hsound : m.Sound live) (hnumbered : m.Numbered reports)
    {e : Event τ} (hsupplied : Supplied unit limit m reports e) :
    (m.step e).1.Ledger (reports ++ (m.step e).2.toList) := by
  have hnew : ∀ g ∈ granted (m.step e).2.toList,
      0 < g.len.toNat ∧ ∀ g' ∈ granted reports, g'.Apart g := by
    intro g hg
    obtain ⟨r, hr, hgrant⟩ := mem_granted.1 hg
    obtain ⟨flags, minSize, hstage, hpromised⟩ :=
      hsupplied.promised (Option.mem_toList.1 hr) hgrant
    have hpos : 0 < minSize.toNat := hsound.ready _ (mem_of_stage? hstage)
    exact ⟨Nat.lt_of_lt_of_le hpos hpromised.long, hpromised.apart⟩
  refine ⟨?_, pairwise_granted h.apart fun g hg => (hnew g hg).2,
    h.account_step hsound hnumbered e⟩
  intro g hg
  rw [granted_append] at hg
  rcases List.mem_append.1 hg with hg | hg
  · exact h.pos g hg
  · exact (hnew g hg).1

end Ledger

/-- **The account holds after every run** in which the store keeps its promises. -/
theorem ledger_run {name : String} {c : Config} (created : create name c = .ok m)
    (supplied : m.Along (Supplied unit limit) events) :
    (m.run events).1.Ledger (m.run events).2 := by
  induction events using List.reverseRecOn with
  | nil =>
    rw [create_eq created]
    exact ⟨by simp [run], .nil, .refl _⟩
  | append_singleton events e ih =>
    obtain ⟨hinit, hlast⟩ := along_concat.1 supplied
    obtain ⟨hsound, -⟩ := reachable_sound created events
    rw [run_concat]
    exact (ih hinit).step hsound (numbered_run created events) hlast

end Machine

end Pool

end BusPool
