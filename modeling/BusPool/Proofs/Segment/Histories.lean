import BusPool.Proofs.Segment.Index
import BusPool.Segment.History
import Mathlib.Data.List.Chain
import Mathlib.Data.List.Induction
import Mathlib.Data.List.Nodup

/-!
# What becomes of inserted segments

The index is asked to take in segments with any extents, empty ones and such that reach the top of
the bus included. Exactly what it then holds is told by which segments were taken in
(**`insertions_accounted`**): at each address the last one of those that start there.

A segment can displace another one, and a segment can come to lie across another one, but only with
the help of a *void* extent, in which no address is (**`Extent.Void`**). A void segment overlaps
nothing that starts where it does, so that the next segment at its address takes its place; and
while it is there, it is the only neighbour that this next segment is compared with, whatever
follows above it (**`segments_lost_and_crossed`**). Where no void segment is offered, every segment
that is taken in stays, and no two share an address.
-/

namespace BusPool

open AddressMap

/-! ### Void extents -/

/-- An extent that ends where it starts or before. -/
def Extent.Void (e : Extent) : Prop := e.endWord.toNat ≤ e.start.toNat

/-- Whether an extent is void can be computed. -/
instance (e : Extent) : Decidable e.Void := inferInstanceAs (Decidable (_ ≤ _))

/-- It has no bytes, or it starts at the greatest word, at which ends are cut off. -/
theorem Extent.void_iff_len {e : Extent} :
    e.Void ↔ e.len.toNat = 0 ∨ e.start.toNat = UInt64.size - 1 := by
  have hstart := e.start.toNat_lt
  have hsize := Word.size_eq
  rw [Void, toNat_endWord]
  omega

namespace SegmentIndex.Intake

variable {τ : Type} {t : Intake τ} {segment s s' : Segment τ} {x y : Address × Segment τ}
  {k : Address}

/-! ### The step -/

/-- The segments that were taken in at an address, in order. -/
def acceptedAt (t : Intake τ) (k : Address) : List (Segment τ) :=
  t.accepted.filter fun segment => segment.extent.start = k

/-- They are segments that were taken in and that start there. -/
theorem mem_acceptedAt : s ∈ t.acceptedAt k ↔ s ∈ t.accepted ∧ s.extent.start = k := by
  rw [acceptedAt, List.mem_filter, decide_eq_true_iff]

/-- With one more segment taken in. -/
def taking (t : Intake τ) (segment : Segment τ) : Intake τ :=
  ⟨t.index.adding segment, t.accepted ++ [segment]⟩

/-- It is the last one at its address. -/
theorem acceptedAt_taking_self (t : Intake τ) (segment : Segment τ) :
    (t.taking segment).acceptedAt segment.extent.start =
      t.acceptedAt segment.extent.start ++ [segment] := by
  simp [acceptedAt, taking]

/-- Other addresses are not affected. -/
theorem acceptedAt_taking_of_ne (t : Intake τ) (hne : segment.extent.start ≠ k) :
    (t.taking segment).acceptedAt k = t.acceptedAt k := by
  simp [acceptedAt, taking, hne]

/-- **What an offer can do.** -/
theorem offer_cases (t : Intake τ) (segment : Segment τ) :
    t.offer segment = t ∨
    ((∀ x ∈ t.index.segments.neighbours segment.extent.start,
      x.2.extent.overlaps segment.extent = false) ∧ t.offer segment = t.taking segment) := by
  unfold offer
  rcases outcome_insert_cases t.index segment with ⟨x, -, -, hrun⟩ | ⟨hnear, hrun⟩
  · left
    rw [hrun]
  · right
    rw [hrun]
    exact ⟨hnear, rfl⟩

/-- A history with one more offer. -/
theorem after_concat (history : List (Segment τ)) (segment : Segment τ) :
    after (history ++ [segment]) = (after history).offer segment := by
  rw [after, List.foldl_append]
  rfl

/-- An index and how it came about. -/
structure Account (t : Intake τ) : Prop where
  /-- What is kept at an address is the last segment that was taken in there. -/
  entry_iff : ∀ k s, (k, s) ∈ t.index.segments.entries ↔ (t.acceptedAt k).getLast? = some s
  /-- Of two segments that were taken in at one address, one right after the other, one is void. -/
  displaced : ∀ k, (t.acceptedAt k).IsChain fun s s' => s.extent.Void ∨ s'.extent.Void
  /-- Where a segment reaches over the start of another one, a void segment was taken in before at
  its own start. -/
  crossing : ∀ x ∈ t.index.segments.entries, ∀ y ∈ t.index.segments.entries, x.1 < y.1 →
    y.1.toNat < segmentStop x → ∃ s ∈ t.acceptedAt x.1, s.extent.Void

namespace Account

/-- The empty index has no history. -/
theorem empty : (⟨.empty, []⟩ : Intake τ).Account where
  entry_iff := by
    intro k s
    constructor
    · intro hx
      cases hx
    · intro hlast
      cases hlast
  displaced := by
    intro k
    exact .nil
  crossing := by
    intro x hx
    cases hx

/-- A segment of the index was taken in where it is kept. -/
theorem mem_of_entry (h : t.Account) (hx : x ∈ t.index.segments.entries) :
    x.2 ∈ t.acceptedAt x.1 :=
  List.mem_of_getLast? ((h.entry_iff x.1 x.2).1 hx)

/-- It starts where it is kept. -/
theorem start_eq (h : t.Account) (hx : x ∈ t.index.segments.entries) : x.2.extent.start = x.1 :=
  (mem_acceptedAt.1 (h.mem_of_entry hx)).2

/-- A segment of the index was taken in. -/
theorem accepted_of_mem (h : t.Account) (hs : s ∈ t.index.toList) : s ∈ t.accepted := by
  obtain ⟨x, hx, rfl⟩ := List.mem_map.1 hs
  exact (mem_acceptedAt.1 (h.mem_of_entry hx)).1

/-- A segment of the index is kept where it starts. -/
theorem entry_of_mem (h : t.Account) (hs : s ∈ t.index.toList) :
    (s.extent.start, s) ∈ t.index.segments.entries := by
  obtain ⟨x, hx, rfl⟩ := List.mem_map.1 hs
  rw [h.start_eq hx]
  exact hx

section offer

variable (h : t.Account)

include h

/-- The new segment is kept at its start, and other addresses are not affected. -/
private theorem taking_entry_iff (s : Segment τ) :
    (k, s) ∈ (t.taking segment).index.segments.entries ↔
      ((t.taking segment).acceptedAt k).getLast? = some s := by
  show (k, s) ∈ (t.index.segments.insert segment.extent.start segment).entries ↔ _
  rw [mem_insert]
  by_cases hk : segment.extent.start = k
  · subst hk
    rw [acceptedAt_taking_self, List.getLast?_concat]
    simp [eq_comm]
  · rw [acceptedAt_taking_of_ne t hk, ← h.entry_iff]
    simp [Ne.symm hk]

variable (hnear : ∀ x ∈ t.index.segments.neighbours segment.extent.start,
  x.2.extent.overlaps segment.extent = false)

include hnear

/-- A neighbour does not reach over the start of the new segment, or the new one not over its. -/
private theorem not_meet (hx : x ∈ t.index.segments.neighbours segment.extent.start) :
    ¬(x.1.toNat < segment.extent.endWord.toNat ∧ segment.extent.start.toNat < segmentStop x) := by
  have hfalse := hnear x hx
  rwa [← Bool.not_eq_true, overlaps_iff_of_start (h.start_eq (mem_of_mem_neighbours hx))] at hfalse

/-- A segment at the start of the new one is void, or the new one is. -/
private theorem void_of_same_start (hx : (segment.extent.start, s) ∈ t.index.segments.entries) :
    s.extent.Void ∨ segment.extent.Void := by
  have hapart := h.not_meet hnear (mem_neighbours_self hx)
  have hstart := congrArg Address.toNat (h.start_eq hx)
  unfold Extent.Void
  unfold segmentStop at hapart
  dsimp only at hapart hstart
  omega

/-- The segment below that reaches over the start of the new one reached over another start
before. -/
private theorem crossing_below (hx : x ∈ t.index.segments.entries)
    (hlt : x.1 < segment.extent.start) (hover : segment.extent.start.toNat < segmentStop x) :
    ∃ s ∈ t.acceptedAt x.1, s.extent.Void := by
  cases hfloor : t.index.segments.floor? segment.extent.start with
  | none => exact absurd (floor?_eq_none_iff.1 hfloor x hx) (Nat.lt_asymm hlt)
  | some f =>
    obtain ⟨hf, hlow, hmax⟩ := floor?_eq_some_iff.1 hfloor
    have hapart := h.not_meet hnear (List.mem_append_left _ (Option.mem_toList.2 hfloor))
    have hxf := hmax x hx (Nat.le_of_lt hlt)
    have hend := start_le_endWord segment.extent
    rw [Address.le_iff] at hlow hxf
    rw [Address.lt_iff] at hlt
    by_cases hkey : x.1 = f.1
    · -- the segment below is the floor itself, which was compared with the new one
      rw [entry_eq_of_mem hx hf hkey] at hover hlt
      omega
    · refine h.crossing x hx f hf ?_ (by omega)
      have hne := Address.toNat_inj.not.2 hkey
      rw [Address.lt_iff]
      omega

/-- A new segment reaches over the start of one above it only from where a void one is. -/
private theorem crossing_above (hy : y ∈ t.index.segments.entries)
    (hlt : segment.extent.start < y.1) (hover : y.1.toNat < segment.extent.endWord.toNat) :
    ∃ s ∈ t.acceptedAt segment.extent.start, s.extent.Void := by
  cases hceil : t.index.segments.ceil? segment.extent.start with
  | none => exact absurd (ceil?_eq_none_iff.1 hceil y hy) (Nat.lt_asymm hlt)
  | some g =>
    obtain ⟨hg, hlow, hmin⟩ := ceil?_eq_some_iff.1 hceil
    have hapart := h.not_meet hnear (List.mem_append_right _ (Option.mem_toList.2 hceil))
    have hgy := hmin y hy (Nat.le_of_lt hlt)
    have hstart := congrArg Address.toNat (h.start_eq hg)
    have hend : g.2.extent.start.toNat ≤ segmentStop g := start_le_endWord g.2.extent
    rw [Address.le_iff] at hlow hgy
    have hkey : g.1 = segment.extent.start := by
      apply Address.toNat_inj.1
      omega
    refine ⟨g.2, hkey ▸ h.mem_of_entry hg, ?_⟩
    unfold segmentStop at hapart
    unfold Extent.Void
    omega

/-- The new segment follows on the one that is kept at its start, if there is one. -/
private theorem taking_displaced (k : Address) :
    ((t.taking segment).acceptedAt k).IsChain fun s s' => s.extent.Void ∨ s'.extent.Void := by
  by_cases hk : segment.extent.start = k
  · subst hk
    rw [acceptedAt_taking_self, List.isChain_append]
    refine ⟨h.displaced _, .singleton _, fun s hs s' hs' => ?_⟩
    cases hs'
    exact h.void_of_same_start hnear ((h.entry_iff _ s).2 hs)
  · rw [acceptedAt_taking_of_ne t hk]
    exact h.displaced k

/-- A segment that is taken in leaves the account in order. -/
private theorem taking : (t.taking segment).Account where
  entry_iff := fun k s => h.taking_entry_iff s
  displaced := h.taking_displaced hnear
  crossing := by
    intro x hx y hy hlt hover
    have hvoid : ∃ s ∈ t.acceptedAt x.1, s.extent.Void := by
      rcases mem_insert.1 hx with rfl | ⟨hx, -⟩ <;> rcases mem_insert.1 hy with rfl | ⟨hy, -⟩
      · exact absurd hlt (Nat.lt_irrefl _)
      · exact h.crossing_above hnear hy hlt hover
      · exact h.crossing_below hnear hx hlt hover
      · exact h.crossing x hx y hy hlt hover
    obtain ⟨s, hs, hvoid⟩ := hvoid
    obtain ⟨hs, hstart⟩ := mem_acceptedAt.1 hs
    exact ⟨s, mem_acceptedAt.2 ⟨List.mem_append_left _ hs, hstart⟩, hvoid⟩

end offer

/-- One more offer leaves the account in order. -/
theorem offer (h : t.Account) (segment : Segment τ) : (t.offer segment).Account := by
  rcases t.offer_cases segment with hsame | ⟨hnear, hadded⟩
  · rw [hsame]
    exact h
  · rw [hadded]
    exact h.taking hnear

/-- **Every history has an account.** -/
theorem after (history : List (Segment τ)) : (Intake.after history).Account := by
  induction history using List.reverseRecOn with
  | nil => exact .empty
  | append_singleton history segment ih =>
    rw [after_concat]
    exact ih.offer segment

end Account

/-! ### What is lost and what is shared -/

/-- What was taken in was offered. -/
theorem mem_of_accepted {history : List (Segment τ)} (hs : s ∈ (after history).accepted) :
    s ∈ history := by
  induction history using List.reverseRecOn with
  | nil => cases hs
  | append_singleton history segment ih =>
    rw [after_concat] at hs
    rcases (after history).offer_cases segment with hsame | ⟨-, hadded⟩
    · rw [hsame] at hs
      exact List.mem_append_left _ (ih hs)
    · rw [hadded] at hs
      rcases List.mem_append.1 hs with hs | hs
      · exact List.mem_append_left _ (ih hs)
      · exact List.mem_append_right _ hs

/-- Nothing that was taken in is lost, and different segments with bytes share no address. -/
structure Intact (t : Intake τ) : Prop where
  /-- Going through the index yields every segment that was taken in, each once. -/
  yielded : t.index.toList.Perm t.accepted
  /-- So does taking the segments out of it. -/
  drained : (drain.run t.index).1.Perm t.accepted
  /-- No address belongs to two of them. -/
  apart : ∀ s ∈ t.index.toList, ∀ s' ∈ t.index.toList, s ≠ s' → 0 < s.extent.len.toNat →
    0 < s'.extent.len.toNat → ∀ n, Holds (s.extent.start, s.extent.len) n →
    ¬Holds (s'.extent.start, s'.extent.len) n

namespace Account

/-- No two segments of the index start at one address. -/
theorem nodup_starts (h : t.Account) : (t.index.toList.map fun s => s.extent.start).Nodup := by
  rw [toList, values, List.map_map, List.Nodup, List.pairwise_map]
  refine t.index.segments.ordered.imp_of_mem fun {x y} hx hy hlt heq => ?_
  simp only [Function.comp_apply, h.start_eq hx, h.start_eq hy] at heq
  rw [heq] at hlt
  exact Nat.lt_irrefl _ hlt

/-- What is in the index is the last that was taken in at its address. -/
theorem mem_toList_iff (h : t.Account) :
    s ∈ t.index.toList ↔ (t.acceptedAt s.extent.start).getLast? = some s := by
  rw [← h.entry_iff]
  exact ⟨h.entry_of_mem, fun hx => List.mem_map.2 ⟨_, hx, rfl⟩⟩

/-- **Nothing is lost exactly if no two segments that were taken in start at one address.** -/
theorem perm_accepted_iff (h : t.Account) :
    t.index.toList.Perm t.accepted ↔ (t.accepted.map fun s => s.extent.start).Nodup := by
  constructor
  · intro hperm
    exact (hperm.map _).nodup_iff.1 h.nodup_starts
  · intro hnodup
    rw [List.perm_ext_iff_of_nodup (h.nodup_starts.of_map _) (hnodup.of_map _)]
    intro s
    refine ⟨h.accepted_of_mem, fun hs => h.mem_toList_iff.2 ?_⟩
    have hat : s ∈ t.acceptedAt s.extent.start := mem_acceptedAt.2 ⟨hs, rfl⟩
    cases hlast : (t.acceptedAt s.extent.start).getLast? with
    | none =>
      rw [List.getLast?_eq_none_iff.1 hlast] at hat
      cases hat
    | some last =>
      obtain ⟨haccepted, hstart⟩ := mem_acceptedAt.1 (List.mem_of_getLast? hlast)
      rw [List.inj_on_of_nodup_map hnodup haccepted hs hstart]

/-- **Where two segments share an address**, the upper one is void or a void one was taken in at the
start of the lower one. -/
theorem void_of_shared (h : t.Account) (hs : s ∈ t.index.toList) (hs' : s' ∈ t.index.toList)
    (hlt : s.extent.start < s'.extent.start) {n : Nat}
    (hn : Holds (s.extent.start, s.extent.len) n) (hn' : Holds (s'.extent.start, s'.extent.len) n) :
    s'.extent.Void ∨ ∃ void ∈ t.acceptedAt s.extent.start, void.extent.Void := by
  by_cases htop : s'.extent.start.toNat = UInt64.size - 1
  · exact .inl (Extent.void_iff_len.2 (.inr htop))
  · right
    refine h.crossing _ (h.entry_of_mem hs) _ (h.entry_of_mem hs') hlt ?_
    rw [holds_iff] at hn hn'
    have hbus := s'.extent.start.toNat_lt
    rw [segmentStop, Extent.toNat_endWord]
    dsimp only
    omega

/-- Where nothing void was taken in, all segments start at different addresses. -/
theorem nodup_accepted (h : t.Account) (hfull : ∀ s ∈ t.accepted, ¬s.extent.Void) :
    (t.accepted.map fun s => s.extent.start).Nodup := by
  rw [List.nodup_iff_count_le_one]
  intro k
  have hcount : (t.accepted.map fun s => s.extent.start).count k = (t.acceptedAt k).length := by
    rw [List.count, List.countP_map, List.countP_eq_length_filter, acceptedAt]
    rfl
  have hchain := h.displaced k
  have hsome : ∀ s ∈ t.acceptedAt k, ¬s.extent.Void := fun s hs => hfull s (mem_acceptedAt.1 hs).1
  rw [hcount]
  match t.acceptedAt k, hchain, hsome with
  | [], _, _ => exact Nat.zero_le 1
  | [_], _, _ => exact Nat.le_refl 1
  | s :: s' :: _, hchain, hsome =>
    rcases hchain.rel with hvoid | hvoid
    · exact absurd hvoid (hsome s (by simp))
    · exact absurd hvoid (hsome s' (by simp))

/-- **Where nothing void was taken in, nothing is lost and nothing shared.** -/
theorem intact (h : t.Account) (hfull : ∀ s ∈ t.accepted, ¬s.extent.Void) : t.Intact := by
  have hperm := h.perm_accepted_iff.2 (h.nodup_accepted hfull)
  have hbelow : ∀ s ∈ t.index.toList, ∀ s' ∈ t.index.toList, s.extent.start < s'.extent.start →
      ∀ n, Holds (s.extent.start, s.extent.len) n → ¬Holds (s'.extent.start, s'.extent.len) n := by
    intro s hs s' hs' hlt n hn hn'
    rcases h.void_of_shared hs hs' hlt hn hn' with hvoid | ⟨void, haccepted, hvoid⟩
    · exact hfull s' (h.accepted_of_mem hs') hvoid
    · exact hfull void (mem_acceptedAt.1 haccepted).1 hvoid
  refine ⟨hperm, hperm, fun s hs s' hs' hne _ _ n hn hn' => ?_⟩
  have hstart : s.extent.start ≠ s'.extent.start :=
    fun heq => hne (List.inj_on_of_nodup_map h.nodup_starts hs hs' heq)
  rcases ne_iff_lt_or_lt.1 hstart with hlt | hlt
  · exact hbelow s hs s' hs' hlt n hn hn'
  · exact hbelow s' hs' s hs hlt n hn' hn

end Account

/-- What becomes of the segments of a history, whatever their extents. -/
structure Accounted (history : List (Segment τ)) : Prop where
  /-- The index holds the last segment that was taken in at each address. -/
  held_iff : ∀ s, s ∈ (after history).index.toList ↔
    ((after history).acceptedAt s.extent.start).getLast? = some s
  /-- Going through it yields every segment that it holds once. -/
  yields : ((after history).index.toList.map fun s => s.extent.start).Nodup
  /-- Taking the segments out of it yields the same and leaves none. -/
  drains : drain.run (after history).index = ((after history).index.toList, .empty)
  /-- Nothing that was taken in is lost exactly if no two start at one address. -/
  keeps_iff : (after history).index.toList.Perm (after history).accepted ↔
    ((after history).accepted.map fun s => s.extent.start).Nodup
  /-- Of two that were taken in at one address, one right after the other, one is void. -/
  displaces : ∀ k, ((after history).acceptedAt k).IsChain fun s s' =>
    s.extent.Void ∨ s'.extent.Void
  /-- Where two in the index share an address, the upper one is void or a void one was taken in at
  the start of the lower one. -/
  shares : ∀ s ∈ (after history).index.toList, ∀ s' ∈ (after history).index.toList,
    s.extent.start < s'.extent.start → ∀ n, Holds (s.extent.start, s.extent.len) n →
      Holds (s'.extent.start, s'.extent.len) n →
        s'.extent.Void ∨ ∃ void ∈ (after history).acceptedAt s.extent.start, void.extent.Void
  /-- Where nothing void is offered, nothing is lost and nothing shared. -/
  intact : (∀ s ∈ history, ¬s.extent.Void) → (after history).Intact

/-- **Every history can be accounted for**, whatever the extents of the segments. -/
theorem insertions_accounted (history : List (Segment τ)) : Accounted history := by
  have h : (after history).Account := .after history
  refine ⟨fun s => h.mem_toList_iff, h.nodup_starts, rfl, h.perm_accepted_iff, h.displaced, ?_, ?_⟩
  · intro s hs s' hs' hlt n
    exact h.void_of_shared hs hs' hlt
  · intro hfull
    exact h.intact fun s hs => hfull s (mem_of_accepted hs)

/-- Two segments that touch, one across both, and one that ends at the top of the bus. -/
def plainOffers : List (Segment Nat) :=
  [⟨⟨⟨8192⟩, 4096⟩, ⟨0, 0⟩, 1⟩, ⟨⟨⟨4096⟩, 4096⟩, ⟨1, 0⟩, 2⟩, ⟨⟨⟨6144⟩, 4096⟩, ⟨2, 0⟩, 3⟩,
    ⟨⟨⟨18446744073709547520⟩, 4096⟩, ⟨3, 0⟩, 4⟩]

/-- Three of them are taken in, and all three stay. -/
theorem insertions_of_plain :
    (∀ s ∈ plainOffers, ¬s.extent.Void) ∧
      (after plainOffers).accepted.map Segment.token = [1, 2, 4] ∧ (after plainOffers).Intact := by
  have hfull : ∀ s ∈ plainOffers, ¬s.extent.Void := by
    decide +kernel
  exact ⟨hfull, by decide +kernel, (insertions_accounted plainOffers).intact hfull⟩

/-- An empty segment, a segment above it, and one that starts with the first and reaches over the
second. -/
def crossedOffers : List (Segment Nat) :=
  [⟨⟨⟨4096⟩, 0⟩, ⟨0, 0⟩, 1⟩, ⟨⟨⟨6144⟩, 2048⟩, ⟨1, 0⟩, 2⟩, ⟨⟨⟨4096⟩, 8192⟩, ⟨2, 0⟩, 3⟩]

/-- All three are taken in. Afterwards the first one is lost, and the other two share an address. -/
theorem segments_lost_and_crossed :
    let t := after crossedOffers
    t.accepted.map Segment.token = [1, 2, 3] ∧ t.index.toList.map Segment.token = [3, 2] ∧
      (∃ s ∈ t.index.toList, ∃ s' ∈ t.index.toList, s.token = 3 ∧ s'.token = 2 ∧
        Holds (s.extent.start, s.extent.len) 6144 ∧
        Holds (s'.extent.start, s'.extent.len) 6144) ∧
      ¬t.Intact := by
  intro t
  have haccepted : t.accepted.map Segment.token = [1, 2, 3] := by
    decide +kernel
  have hlist : t.index.toList =
      [⟨⟨⟨4096⟩, 8192⟩, ⟨2, 0⟩, 3⟩, ⟨⟨⟨6144⟩, 2048⟩, ⟨1, 0⟩, 2⟩] := rfl
  refine ⟨haccepted, ?_, ?_, fun hintact => ?_⟩
  · rw [hlist]
    rfl
  · rw [hlist]
    exact ⟨_, List.mem_cons_self, _, List.mem_cons_of_mem _ List.mem_cons_self, rfl, rfl,
      ⟨by decide, by decide⟩, ⟨by decide, by decide⟩⟩
  · have hlength := (hintact.yielded.map Segment.token).length_eq
    rw [haccepted, hlist] at hlength
    cases hlength

end SegmentIndex.Intake

end BusPool
