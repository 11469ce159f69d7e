import BusPool.Pool.Machine
import BusPool.Proofs.Pool.Sound
import Mathlib.Data.List.Induction
import Mathlib.Data.List.Pairwise

/-!
# Pieces of calls and the blocks that are out

A block is out from the moment it is reserved for a call, that is from within the critical section
in which the call takes it, until a handle that names it is taken back. What calls report is enough
to tell which blocks are out (**`liveBlocks`**): a call that goes on to deliver a block has just
reserved it, and a call that reports a handle as freed has just taken it back.

Here are the pieces of calls that touch the state, each with all that it can do: a try for a
block (**`Tracks.reserve`**), the adoption of a grant (**`Tracks.adopt`**) and a release
(**`Tracks.free`**, **`Tracks.free_fault`**). All of them keep the blocks that are out and the
reserved blocks of the arena the same (**`State.Tracks`**).
-/

namespace BusPool.Pool

open AddressMap Arena SegmentIndex State

variable {τ : Type} {c : Config} {s s' : State τ} {live : List Block}

/-! ### Which blocks are out -/

/-- The block that a call has just reserved, if that is what it reports. -/
def Report.taken? (r : Report τ) : Option Block :=
  match r.next with
  | .goOn (.delivering _ b) => some b
  | _ => none

/-- The block that a call has just returned with. -/
def Report.given? (r : Report τ) : Option Block :=
  match r.next with
  | .returned (.block b) => some b
  | _ => none

/-- A call has given a block if it returned with it. -/
theorem Report.given?_eq_some_iff {r : Report τ} {b : Block} :
    r.given? = some b ↔ r.next = .returned (.block b) := by
  constructor
  · intro h
    unfold given? at h
    split at h
    · rename_i hnext
      cases h
      exact hnext
    · cases h
  · intro hnext
    unfold given?
    rw [hnext]

/-- The blocks that are out after a report. A release is known by its log record: a call that is to
take a block back returns with `.done` exactly when it logs one (`State.Tracks.free`,
`State.Tracks.free_fault`), and no other call logs any (`Machine.Moves.freed_not_mem`). -/
def Report.after (r : Report τ) (live : List Block) : List Block :=
  r.taken?.toList ++ live.filter fun b => Record.freed b.handle ∉ r.records

/-- The blocks that are out after a run, the last one first: reserved for a call, and not taken
back since. -/
def liveBlocks (reports : List (Report τ)) : List Block :=
  reports.foldl (fun live r => r.after live) []

/-- The blocks that reports bring in and that no later one takes away, the last one first. -/
def gathered (brings : Report τ → Option Block) (keeps : Report τ → Block → Bool)
    (reports : List (Report τ)) : List Block :=
  reports.foldl (fun blocks r => (brings r).toList ++ blocks.filter (keeps r)) []

section gathered

variable {brings : Report τ → Option Block} {keeps : Report τ → Block → Bool}
  {reports : List (Report τ)}

/-- What is gathered with one more report. -/
theorem gathered_concat (reports : List (Report τ)) (r : Report τ) :
    gathered brings keeps (reports ++ [r]) =
      (brings r).toList ++ (gathered brings keeps reports).filter (keeps r) := by
  rw [gathered, List.foldl_append]
  rfl

/-- **A block is gathered when a report brought it in and no later one took it away.** -/
theorem mem_gathered_iff {b : Block} : b ∈ gathered brings keeps reports ↔
    ∃ front r back, reports = front ++ r :: back ∧ brings r = some b ∧
      ∀ later ∈ back, keeps later b = true := by
  induction reports using List.reverseRecOn with
  | nil => simp [gathered]
  | append_singleton reports last ih =>
    rw [gathered_concat, List.mem_append, Option.mem_toList, List.mem_filter, ih]
    constructor
    · rintro (hbrings | ⟨⟨front, r, back, rfl, hbrings, hback⟩, hkept⟩)
      · exact ⟨reports, last, [], rfl, hbrings, by simp⟩
      · refine ⟨front, r, back ++ [last], by simp, hbrings, fun later hlater => ?_⟩
        rcases List.mem_append.1 hlater with hlater | hlater
        · exact hback later hlater
        · rwa [List.mem_singleton.1 hlater]
    · rintro ⟨front, r, back, hsplit, hbrings, hback⟩
      rcases List.eq_nil_or_concat back with rfl | ⟨back, later, rfl⟩
      · obtain ⟨-, hr⟩ := List.append_inj' hsplit rfl
        cases hr
        exact .inl hbrings
      · rw [List.concat_eq_append] at hback
        rw [List.concat_eq_append, ← List.cons_append, ← List.append_assoc] at hsplit
        obtain ⟨hreports, hlater⟩ := List.append_inj' hsplit rfl
        cases hlater
        exact .inr ⟨⟨front, r, back, hreports, hbrings, fun r' hr' => hback r' (by simp [hr'])⟩,
          hback last (by simp)⟩

/-- What is gathered stays so as long as no report takes it away. -/
theorem mem_gathered_append {b : Block} (hb : b ∈ gathered brings keeps reports)
    {more : List (Report τ)} (hkept : ∀ r ∈ more, keeps r b = true) :
    b ∈ gathered brings keeps (reports ++ more) := by
  obtain ⟨front, r, back, rfl, hbrings, hback⟩ := mem_gathered_iff.1 hb
  refine mem_gathered_iff.2 ⟨front, r, back ++ more, by simp, hbrings, fun later hlater => ?_⟩
  exact (List.mem_append.1 hlater).elim (hback later) (hkept later)

end gathered

/-- A block is out when a call has reserved it and its handle was not taken back since. -/
theorem mem_liveBlocks_iff {reports : List (Report τ)} {b : Block} :
    b ∈ liveBlocks reports ↔ ∃ front r back, reports = front ++ r :: back ∧
      r.taken? = some b ∧ ∀ later ∈ back, Record.freed b.handle ∉ later.records := by
  have hsame : liveBlocks reports = gathered Report.taken?
      (fun r b => decide (Record.freed b.handle ∉ r.records)) reports := rfl
  rw [hsame, mem_gathered_iff]
  simp only [decide_eq_true_iff]

/-- The blocks that are out with one more report. -/
theorem liveBlocks_concat (reports : List (Report τ)) (r : Report τ) :
    liveBlocks (reports ++ [r]) = r.after (liveBlocks reports) := by
  rw [liveBlocks, List.foldl_append]
  rfl

/-- A block that is reserved while another one is out is out beside it, as long as neither of them
is taken back. -/
theorem sublist_liveBlocks {front back : List (Report τ)} {taken : Report τ} {x y : Block}
    (hout : x ∈ liveBlocks front) (htaken : taken.taken? = some y)
    (hkept : ∀ r ∈ taken :: back, Record.freed x.handle ∉ r.records)
    (hkept' : ∀ r ∈ back, Record.freed y.handle ∉ r.records) :
    [y, x].Sublist (liveBlocks (front ++ taken :: back)) := by
  induction back using List.reverseRecOn with
  | nil =>
    rw [liveBlocks_concat, Report.after, htaken]
    apply List.Sublist.cons_cons
    rw [List.singleton_sublist]
    exact List.mem_filter.2 ⟨hout, decide_eq_true (hkept taken List.mem_cons_self)⟩
  | append_singleton back last ih =>
    rw [← List.cons_append] at hkept ⊢
    have hboth := ih (fun r hr => hkept r (List.mem_append_left _ hr))
      fun r hr => hkept' r (List.mem_append_left _ hr)
    have hstay := hboth.filter fun b => decide (Record.freed b.handle ∉ last.records)
    rw [List.filter_eq_self.2] at hstay
    · rw [← List.append_assoc, liveBlocks_concat]
      exact hstay.trans (List.sublist_append_right _ _)
    · intro b hb
      simp only [List.mem_cons, List.not_mem_nil, or_false] at hb
      rcases hb with rfl | rfl
      · exact decide_eq_true (hkept' last (by simp))
      · exact decide_eq_true (hkept last (by simp))

/-- A report without a release leaves the blocks out that were out. -/
theorem Report.after_of_not_freed {r : Report τ}
    (hrecords : ∀ handle, Record.freed handle ∉ r.records) :
    r.after live = r.taken?.toList ++ live := by
  rw [Report.after, List.filter_eq_self.2 fun b _ => decide_eq_true (hrecords b.handle)]

/-- A report of neither kind changes nothing. -/
theorem Report.after_eq_self {r : Report τ}
    (hnext : ∀ flags b, r.next ≠ .goOn (.delivering flags b))
    (hrecords : ∀ handle, Record.freed handle ∉ r.records) : r.after live = live := by
  have htaken : r.taken? = none := by
    unfold Report.taken?
    split
    · rename_i heq
      exact absurd heq (hnext _ _)
    · rfl
  rw [Report.after_of_not_freed hrecords, htaken]
  rfl

/-- A handle that is taken back names no block that is out. -/
theorem Report.after_freed (id : Nat) (handle : Address) :
    (⟨id, [.freed handle], .returned .done⟩ : Report τ).after live =
      live.filter fun b => b.handle ≠ handle := by
  show live.filter (fun b => Record.freed b.handle ∉ [Record.freed handle]) = _
  refine List.filter_congr fun b _ => ?_
  simp

/-- Two blocks without a bus address in common. -/
def Block.Apart (c : Config) (x y : Block) : Prop :=
  x.handle.toNat + c.blockSize.toNat ≤ y.handle.toNat ∨
    y.handle.toNat + c.blockSize.toNat ≤ x.handle.toNat

/-- The blocks that are out are the reserved ones. -/
structure State.Tracks (c : Config) (s : State τ) (live : List Block) : Prop where
  /-- The state is sound. -/
  sound : s.Sound c
  /-- The handles of the blocks that are out are the addresses of the reserved blocks. -/
  live_iff : ∀ handle, (∃ b ∈ live, b.handle = handle) ↔
    (handle, c.blockSize) ∈ s.arena.reserved.entries
  /-- No two blocks that are out have the same handle. -/
  distinct : live.Pairwise fun x y => x.handle ≠ y.handle

namespace State.Tracks

/-- Nothing is out of a pool that has imported nothing. -/
theorem empty (c : Config) : (State.empty : State τ).Tracks c [] where
  sound := Sound.empty c
  live_iff := by
    intro handle
    constructor
    · rintro ⟨b, hb, -⟩
      cases hb
    · intro h
      cases h
  distinct := .nil

/-- The slots without a block are those at which no block that is out starts. -/
theorem openSlots_eq (h : s.Tracks c live) :
    openSlots c s.arena = {n ∈ c.slots s.arena.spans | ∀ b ∈ live, b.handle.toNat ≠ n} := by
  ext n
  refine and_congr_right fun _ => ⟨fun hn b hb => ?_, fun hn r hr => ?_⟩
  · exact hn _ ((h.live_iff b.handle).1 ⟨b, hb, rfl⟩)
  · have hlen := h.sound.packed.block_len r hr
    obtain ⟨b, hb, heq⟩ := (h.live_iff r.1).2 (hlen ▸ hr)
    rw [← heq]
    exact hn b hb

/-- Blocks that are out are known by their handles. -/
theorem eq_of_handle (h : s.Tracks c live) {x y : Block} (hx : x ∈ live) (hy : y ∈ live)
    (hhandle : x.handle = y.handle) : x = y := by
  by_contra hne
  have := Std.Symm.mk (r := fun x y : Block => x.handle ≠ y.handle) fun _ _ => Ne.symm
  exact h.distinct.forall hx hy hne hhandle

/-- A block that is out is in a slot. -/
theorem mem_slots (h : s.Tracks c live) {b : Block} (hb : b ∈ live) :
    b.handle.toNat ∈ c.slots s.arena.spans :=
  h.sound.packed.block_slot _ ((h.live_iff b.handle).1 ⟨b, hb, rfl⟩)

/-- The blocks that are out decide the reserved blocks. -/
theorem reserved_eq (h : s.Tracks c live) (h' : s'.Tracks c live) :
    s'.arena.reserved = s.arena.reserved := by
  apply ext_mem
  rintro ⟨handle, len⟩
  constructor
  · intro hr
    obtain rfl : len = c.blockSize := h'.sound.packed.block_len _ hr
    rwa [← h.live_iff, h'.live_iff]
  · intro hr
    obtain rfl : len = c.blockSize := h.sound.packed.block_len _ hr
    rwa [← h'.live_iff, h.live_iff]

/-- A change that leaves the reserved blocks alone. -/
theorem keep (h : s.Tracks c live) (hsound : s'.Sound c)
    (hreserved : s'.arena.reserved = s.arena.reserved) : s'.Tracks c live := by
  refine ⟨hsound, fun handle => ?_, h.distinct⟩
  rw [hreserved]
  exact h.live_iff handle

/-- One more block is out. -/
theorem take (h : s.Tracks c live) {b : Block} (hsound : s'.Sound c)
    (hopen : b.handle.toNat ∈ openSlots c s.arena)
    (hreserved : s'.arena.reserved = s.arena.reserved.insert b.handle c.blockSize) :
    s'.Tracks c (b :: live) := by
  have hnew : ∀ b' ∈ live, b.handle ≠ b'.handle := by
    intro b' hb' heq
    exact hopen.2 _ ((h.live_iff b'.handle).1 ⟨b', hb', rfl⟩) (congrArg Address.toNat heq.symm)
  refine ⟨hsound, fun handle => ?_, List.pairwise_cons.2 ⟨hnew, h.distinct⟩⟩
  rw [hreserved, mem_insert, ← h.live_iff handle, List.exists_mem_cons_iff]
  constructor
  · rintro (heq | ⟨b', hb', heq⟩)
    · exact .inl (Prod.ext heq.symm rfl)
    · exact .inr ⟨⟨b', hb', heq⟩, heq ▸ (hnew b' hb').symm⟩
  · rintro (heq | ⟨hb', -⟩)
    · exact .inl (congrArg Prod.fst heq).symm
    · exact .inr hb'

/-- The blocks of one handle are no longer out. -/
theorem drop (h : s.Tracks c live) {handle : Address} (hsound : s'.Sound c)
    (hreserved : s'.arena.reserved = s.arena.reserved.erase handle) :
    s'.Tracks c (live.filter fun b => b.handle ≠ handle) := by
  refine ⟨hsound, fun k => ?_, h.distinct.filter _⟩
  rw [hreserved, mem_erase, ← h.live_iff k]
  constructor
  · rintro ⟨b, hb, rfl⟩
    obtain ⟨hb, hne⟩ := List.mem_filter.1 hb
    exact ⟨⟨b, hb, rfl⟩, of_decide_eq_true hne⟩
  · rintro ⟨⟨b, hb, rfl⟩, hne⟩
    exact ⟨b, List.mem_filter.2 ⟨hb, decide_eq_true hne⟩, rfl⟩

/-! ### What each piece can do -/

variable {g : Grant τ}

/-- A try for a block takes the lowest open slot, or finds that there is none. -/
theorem reserve (h : s.Tracks c live) (hc : c.Valid) (m : Memory) (flags : AllocFlags) :
    (Stage.reserve c s m flags = ⟨s, m, [], .goOn (.sizing flags)⟩ ∧
      openSlots c s.arena = ∅) ∨
    ∃ b s', Stage.reserve c s m flags = ⟨s', m, [], .goOn (.delivering flags b)⟩ ∧
      IsLeast (openSlots c s.arena) b.handle.toNat ∧ s'.Tracks c (b :: live) ∧
      s'.index = s.index ∧ s'.arena.spans = s.arena.spans ∧ b.Housed c s.index := by
  unfold Stage.reserve
  rcases h.sound.outcome_claimBlock hc with
    ⟨hrun, hnone⟩ | ⟨b, s', hrun, hleast, hsound, hindex, hspans, hreserved, hhoused⟩
  · refine .inl ⟨?_, hnone⟩
    rw [hrun]
  · refine .inr ⟨b, s', ?_, hleast, h.take hsound hleast.1 hreserved, hindex, hspans, hhoused⟩
    rw [hrun]

/-- A grant that overlaps a segment is refused and changes nothing. One that reaches past the top
of the bus is refused and stays in the index. From any other the span is added, and then the lowest
open slot is taken, unless there still is none. -/
theorem adopt (h : s.Tracks c live) (hc : c.Valid) (m : Memory) (flags : AllocFlags)
    (hpos : 0 < g.len.toNat) :
    (∃ f, Stage.adopt c s m flags g = ⟨s, m, [], .returned (.fault f)⟩ ∧
      ∃ e ∈ s.index.extents, e.overlaps g.extent = true) ∨
    (UInt64.size ≤ g.bus.toNat + g.len.toNat ∧
      (∀ e ∈ s.index.extents, e.overlaps g.extent = false) ∧
      Stage.adopt c s m flags g = ⟨{ s with index := s.index.adding (.ofGrant g) }, m, [],
        .returned (.fault (.spanWraps g.extent))⟩ ∧
      Tracks c { s with index := s.index.adding (.ofGrant g) } live) ∨
    (g.bus.toNat + g.len.toNat < UInt64.size ∧
      (∀ e ∈ s.index.extents, e.overlaps g.extent = false) ∧
      ∃ t : State τ, t.Tracks c live ∧ t.index = s.index.adding (.ofGrant g) ∧
        t.arena.spans = s.arena.spans.insert g.bus g.len ∧
        ((Stage.adopt c s m flags g = ⟨t, m,
            [.imported g.extent t.index.size, .unplaceable g.extent],
            .returned (.failed .exhausted)⟩ ∧ openSlots c t.arena = ∅) ∨
          ∃ b s', Stage.adopt c s m flags g = ⟨s', m, [.imported g.extent t.index.size],
              .goOn (.delivering flags b)⟩ ∧
            IsLeast (openSlots c t.arena) b.handle.toNat ∧ s'.Tracks c (b :: live) ∧
            s'.index = t.index ∧ s'.arena.spans = t.arena.spans ∧ b.Housed c t.index)) := by
  unfold Stage.adopt
  rcases h.sound.outcome_importGrant hpos with
    ⟨f, hrun, hoverlap⟩ | ⟨hwraps, hclear, hrun, hsound⟩ |
    ⟨hstop, hclear, t, hrun, hsound, hindex, hspans, hreserved⟩
  · refine .inl ⟨f, ?_, hoverlap⟩
    rw [hrun]
  · refine .inr (.inl ⟨hwraps, hclear, ?_, h.keep hsound rfl⟩)
    rw [hrun]
  · have ht : t.Tracks c live := h.keep hsound hreserved
    refine .inr (.inr ⟨hstop, hclear, t, ht, hindex, hspans, ?_⟩)
    rcases ht.sound.outcome_claimBlock hc with
      ⟨hclaim, hnone⟩ | ⟨b, s', hclaim, hleast, hsound, hindex', hspans', hreserved', hhoused⟩
    · refine .inl ⟨?_, hnone⟩
      simp only [hrun, hclaim]
    · refine .inr ⟨b, s', ?_, hleast, ht.take hsound hleast.1 hreserved', hindex', hspans', hhoused⟩
      simp only [hrun, hclaim]

/-- The handle of a block that is out is taken back. -/
theorem free (h : s.Tracks c live) (hc : c.Valid) (m : Memory) (name : String) {handle : Address}
    (hout : ∃ b ∈ live, b.handle = handle) :
    ∃ s', Stage.free name c s m handle = ⟨s', m, [.freed handle], .returned .done⟩ ∧
      s'.Tracks c (live.filter fun b => b.handle ≠ handle) ∧ s'.index = s.index ∧
      s'.arena.spans = s.arena.spans := by
  obtain ⟨s', hrun, hsound, hindex, hspans, hreserved⟩ :=
    h.sound.outcome_freeBlock hc name ((h.live_iff handle).1 hout)
  refine ⟨s', ?_, h.drop hsound hreserved, hindex, hspans⟩
  unfold Stage.free
  rw [hrun]

/-- Any other handle is refused, and nothing changes. -/
theorem free_fault (h : s.Tracks c live) (m : Memory) (name : String) {handle : Address}
    (hout : ¬∃ b ∈ live, b.handle = handle) :
    ∃ f, Stage.free name c s m handle = ⟨s, m, [], .returned (.fault f)⟩ := by
  obtain ⟨f, hrun⟩ := outcome_freeBlock_fault (s := s) name ((h.live_iff handle).not.1 hout)
  refine ⟨f, ?_⟩
  unfold Stage.free
  rw [hrun]

end State.Tracks

/-! ### Looking up a segment -/

/-- What a lookup asks the store for: the segment contains the handle, and the whole block. -/
theorem Stage.locate_eq_ok_iff {name : String} {handle : Address} {ops : SyncOps}
    {stage : Stage τ} : Stage.locate name c s handle ops = .ok stage ↔
      ops.hasBothPhases = false ∧ ∃ segment, s.index.segmentAt? handle = some segment ∧
        ∃ offset, handle.toNat = segment.extent.start.toNat + offset.toNat ∧
          offset.toNat + c.blockSize.toNat ≤ segment.extent.len.toNat ∧
          stage = .syncing segment.token offset c.blockSize ops := by
  unfold Stage.locate Segment.offsetOf Address.sub
  simp only [bind_eq_ok_iff, demand_eq_ok, owner_eq_ok_iff, Checked.sub_eq_ok_iff,
    Checked.add_eq_ok_iff, Bool.not_eq_true', exists_and_left, exists_const, decide_eq_true_eq,
    UInt64.le_iff_toNat_le]
  refine and_congr_right fun _ => exists_congr fun segment => and_congr_right fun _ =>
    exists_congr fun offset => and_congr_right fun _ => ?_
  constructor
  · rintro ⟨sum, hsum, hle, hstage⟩
    exact ⟨hsum ▸ hle, (Except.ok.inj hstage).symm⟩
  · rintro ⟨hle, rfl⟩
    have hlen := Word.toNat_lt segment.extent.len
    have hsum : Word.add? offset c.blockSize = some (offset + c.blockSize) :=
      if_pos (Nat.lt_of_le_of_lt hle hlen)
    have hexact := Word.add?_eq_some_iff.1 hsum
    exact ⟨_, hexact, hexact ▸ hle, rfl⟩

end BusPool.Pool
