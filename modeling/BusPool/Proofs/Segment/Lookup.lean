import BusPool.Arena.Basic
import BusPool.Proofs.Segment.Histories

/-!
# One candidate instead of all segments

An index looks at one segment to find the owner of an address, and at two to decide whether a new
segment meets one it has. For segments with addresses in them that is as good as looking at all of
them, whatever they were offered in (**`lookup_searches_all`**): an address is found in the one
segment that contains it, of all that were taken in, and a segment is refused exactly when it shares
an address with one of them. Segments that reach the top of the bus are included; what counts is
where their ends are cut off.

The segments of a pool are of this kind as soon as the arena has taken their extents as spans
(**`not_void_of_addSpan`**).
-/

namespace BusPool

open AddressMap Attempt

/-! ### Extents with addresses in them -/

/-- An extent that is not void starts before it ends. -/
theorem Extent.not_void_iff {e : Extent} : ¬e.Void ↔ e.start.toNat < e.endWord.toNat := Nat.not_le

/-- Two extents with addresses in them overlap exactly when they share one. -/
theorem Extent.overlaps_iff_shared {e f : Extent} (he : ¬e.Void) (hf : ¬f.Void) :
    e.overlaps f = true ↔ ∃ a, e.contains a = true ∧ f.contains a = true := by
  rw [not_void_iff] at he hf
  simp only [overlaps_iff, contains_iff]
  constructor
  · rintro ⟨hef, hfe⟩
    -- the later one of the two first addresses
    rcases Nat.le_total e.start.toNat f.start.toNat with hle | hle
    · exact ⟨f.start, ⟨hle, hfe⟩, Nat.le_refl _, hf⟩
    · exact ⟨e.start, ⟨Nat.le_refl _, he⟩, hle, hef⟩
  · rintro ⟨a, ⟨hea, hae⟩, hfa, haf⟩
    exact ⟨Nat.lt_of_le_of_lt hea haf, Nat.lt_of_le_of_lt hfa hae⟩

/-- An extent that the arena takes as a span is not void. -/
theorem not_void_of_addSpan {span : Extent} {a a' : Arena}
    (h : (Arena.addSpan span).outcome a = (.ok (), a')) : ¬span.Void := by
  unfold Arena.addSpan at h
  cases hpos : demand (decide (0 < span.len)) (.emptySpan span.start) with
  | error f =>
    rw [hpos, outcome_error_bind] at h
    cases h
  | ok =>
    rw [hpos, outcome_ok_bind] at h
    cases hstop : demand (Word.add? span.start.word span.len).isSome (.spanWraps span) with
    | error f =>
      rw [hstop, outcome_error_bind] at h
      cases h
    | ok =>
      obtain ⟨stop, hsum⟩ := Option.isSome_iff_exists.1 (demand_eq_ok.1 hstop)
      have hlt := Word.toNat_lt stop
      have hlen := pos_iff.1 (of_decide_eq_true (demand_eq_ok.1 hpos))
      rw [← Word.add?_eq_some_iff.1 hsum] at hlt
      rw [Extent.not_void_iff, Extent.toNat_endWord]
      unfold Address.toNat at *
      omega

namespace SegmentIndex

variable {τ : Type} {i : SegmentIndex τ} {addr : Address}

/-! ### Lookups in an index of segments that lie apart -/

namespace Placed

/-- The segments that contain an address: the one that a lookup finds, or none. -/
theorem filter_contains (h : i.Placed) (addr : Address) :
    i.toList.filter (fun s => s.extent.contains addr) = (i.segmentAt? addr).toList := by
  cases hfound : i.segmentAt? addr with
  | some s => exact h.segmentAt?_eq_some_iff_filter.1 hfound
  | none =>
    refine List.filter_eq_nil_iff.2 fun s hs hin => ?_
    obtain ⟨x, hx, rfl⟩ := List.mem_map.1 hs
    have hsome := h.segmentAt?_eq_some_iff.2 ⟨x, hx, rfl, (h.contains_iff hx).1 hin⟩
    rw [hfound] at hsome
    cases hsome

/-- **A lookup finds what a search through all segments finds.** -/
theorem segmentAt?_eq_scan? (h : i.Placed) (addr : Address) : i.segmentAt? addr = i.scan? addr := by
  rw [scan?, ← List.head?_filter, h.filter_contains]
  cases i.segmentAt? addr <;> rfl

end Placed

/-- An owner is found unless the lookup finds none. -/
theorem owner_eq_error_iff {f : Fault} :
    i.owner addr = .error f ↔ i.segmentAt? addr = none ∧ f = .noOwner addr := by
  unfold owner
  cases i.segmentAt? addr <;> simp [eq_comm]

namespace Intake

variable {t : Intake τ}

/-- Where nothing void was taken in, the segments lie apart. -/
theorem Account.placed (h : t.Account) (hfull : ∀ s ∈ t.accepted, ¬s.extent.Void) :
    t.index.Placed where
  start_eq := fun x hx => h.start_eq hx
  pos := by
    intro x hx
    have hx := hfull x.2 (mem_acceptedAt.1 (h.mem_of_entry hx)).1
    rw [Extent.void_iff_len] at hx
    omega
  apart := by
    intro x hx y hy hlt
    by_contra hover
    obtain ⟨s, hs, hvoid⟩ := h.crossing x hx y hy hlt (Nat.not_le.1 hover)
    exact hfull s (mem_acceptedAt.1 hs).1 hvoid

/-- An index whose answers are those of a search through all segments. -/
structure SearchesAll (t : Intake τ) : Prop where
  /-- A segment is refused exactly if it shares an address with one in the index. -/
  refuses_iff : ∀ segment : Segment τ, ¬segment.extent.Void →
    ((∃ f, ((insert segment).outcome t.index).1 = .error f) ↔
      ∃ s ∈ t.index.toList, ∃ a, s.extent.contains a = true ∧ segment.extent.contains a = true)
  /-- A refusal changes nothing and names such a segment. -/
  refused : ∀ (segment : Segment τ) (f : Fault), ¬segment.extent.Void →
    ((insert segment).outcome t.index).1 = .error f →
      ((insert segment).outcome t.index).2 = t.index ∧
      ∃ s ∈ t.index.toList, f = .segmentOverlaps segment.extent s.extent ∧
        ∃ a, s.extent.contains a = true ∧ segment.extent.contains a = true
  /-- Of all segments that were taken in, the one that a lookup finds contains the address, and no
  other; if it finds none, none does. -/
  finds : ∀ addr, t.accepted.filter (fun s => s.extent.contains addr) =
    (t.index.segmentAt? addr).toList
  /-- A lookup finds what a search through the index in order finds. -/
  scans : ∀ addr, t.index.segmentAt? addr = t.index.scan? addr
  /-- An address has no owner exactly if a lookup finds none. -/
  owner_eq_error_iff : ∀ addr f, t.index.owner addr = .error f ↔
    t.index.segmentAt? addr = none ∧ f = .noOwner addr

namespace Account

/-- What an index without void segments does with one more segment. -/
private theorem insert_cases (h : t.Account) (hfull : ∀ s ∈ t.accepted, ¬s.extent.Void)
    {segment : Segment τ} (hsegment : ¬segment.extent.Void) :
    (∃ s ∈ t.index.toList, (∃ a, s.extent.contains a = true ∧ segment.extent.contains a = true) ∧
      (insert segment).outcome t.index =
        (.error (.segmentOverlaps segment.extent s.extent), t.index)) ∨
    ((∀ s ∈ t.index.toList, ¬∃ a, s.extent.contains a = true ∧ segment.extent.contains a = true) ∧
      (insert segment).outcome t.index = (.ok (), t.index.adding segment)) := by
  have hpos : 0 < segment.extent.len.toNat := by
    rw [Extent.void_iff_len] at hsegment
    omega
  have hshared : ∀ s ∈ t.index.toList, s.extent.overlaps segment.extent = true ↔
      ∃ a, s.extent.contains a = true ∧ segment.extent.contains a = true :=
    fun s hs => Extent.overlaps_iff_shared (hfull s (h.accepted_of_mem hs)) hsegment
  rcases (h.placed hfull).outcome_insert segment hpos with
    ⟨e, he, hoverlap, hrun⟩ | ⟨hclear, hrun, -⟩
  · obtain ⟨s, hs, rfl⟩ := List.mem_map.1 he
    exact .inl ⟨s, hs, (hshared s hs).1 hoverlap, hrun⟩
  · refine .inr ⟨fun s hs => ?_, hrun⟩
    rw [← hshared s hs, hclear _ (List.mem_map_of_mem hs)]
    exact Bool.false_ne_true

/-- The segments that were taken in and contain an address are those of the index that do. -/
private theorem filter_accepted (h : t.Account) (hfull : ∀ s ∈ t.accepted, ¬s.extent.Void)
    (addr : Address) : t.accepted.filter (fun s => s.extent.contains addr) =
      (t.index.segmentAt? addr).toList := by
  have hperm := (h.intact hfull).yielded.filter fun s => s.extent.contains addr
  rw [(h.placed hfull).filter_contains] at hperm
  cases hfound : t.index.segmentAt? addr with
  | none =>
    rw [hfound] at hperm
    exact hperm.nil_eq.symm
  | some s =>
    rw [hfound] at hperm
    exact (List.singleton_perm.1 hperm).symm

/-- An index without void segments answers as a search through all segments does. -/
theorem searchesAll (h : t.Account) (hfull : ∀ s ∈ t.accepted, ¬s.extent.Void) :
    t.SearchesAll := by
  refine ⟨fun segment hsegment => ?_, fun segment f hsegment hf => ?_, h.filter_accepted hfull,
    (h.placed hfull).segmentAt?_eq_scan?, fun addr f => owner_eq_error_iff⟩
  · rcases h.insert_cases hfull hsegment with ⟨s, hs, hshared, hrun⟩ | ⟨hapart, hrun⟩
    · exact ⟨fun _ => ⟨s, hs, hshared⟩, fun _ => ⟨_, congrArg Prod.fst hrun⟩⟩
    · refine ⟨fun ⟨f, hf⟩ => ?_, fun ⟨s, hs, hshared⟩ => absurd hshared (hapart s hs)⟩
      rw [hrun] at hf
      cases hf
  · rcases h.insert_cases hfull hsegment with ⟨s, hs, hshared, hrun⟩ | ⟨-, hrun⟩
    · rw [hrun] at hf ⊢
      cases hf
      exact ⟨rfl, s, hs, rfl, hshared⟩
    · rw [hrun] at hf
      cases hf

end Account

/-- **Looking at one candidate is as good as searching.** After any offers of segments with
addresses in them, refused ones included, the index answers as if it looked at all segments. The
segments that a pool has spans for are among these. -/
theorem lookup_searches_all (history : List (Segment τ)) (hfull : ∀ s ∈ history, ¬s.extent.Void) :
    (after history).SearchesAll ∧
    ∀ (g : Grant τ) (a a' : Arena), (Arena.addSpan g.extent).outcome a = (.ok (), a') →
      ¬g.extent.Void := by
  refine ⟨?_, fun g a a' hspan => not_void_of_addSpan hspan⟩
  exact (Account.after history).searchesAll fun s hs => hfull s (mem_of_accepted hs)

/-- Two segments that touch, one across both of them, and one that reaches past the top of the
bus. -/
def touchingOffers : List (Segment Nat) :=
  [⟨⟨⟨8192⟩, 4096⟩, ⟨0, 0⟩, 1⟩, ⟨⟨⟨4096⟩, 4096⟩, ⟨1, 0⟩, 2⟩, ⟨⟨⟨6144⟩, 4096⟩, ⟨2, 0⟩, 3⟩,
    ⟨⟨⟨18446744073709547520⟩, 8192⟩, ⟨3, 0⟩, 4⟩]

/-- The last byte of the lower segment belongs to that one alone, of the three that are taken in.
The greatest word belongs to none, because ends are cut off there. -/
theorem lookup_between_touching :
    (∀ s ∈ touchingOffers, ¬s.extent.Void) ∧
      (after touchingOffers).accepted.map Segment.token = [1, 2, 4] ∧
      ((after touchingOffers).accepted.filter
        fun s => s.extent.contains ⟨8191⟩).map Segment.token = [2] ∧
      ((after touchingOffers).accepted.filter
        fun s => s.extent.contains ⟨Word.top⟩).map Segment.token = [] := by
  have hfull : ∀ s ∈ touchingOffers, ¬s.extent.Void := by
    decide +kernel
  obtain ⟨hsearches, -⟩ := lookup_searches_all touchingOffers hfull
  refine ⟨hfull, by decide +kernel, ?_, ?_⟩
  · rw [hsearches.finds]
    decide +kernel
  · rw [hsearches.finds]
    decide +kernel

end Intake

end SegmentIndex

end BusPool
