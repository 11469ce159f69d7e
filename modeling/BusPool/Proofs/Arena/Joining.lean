import BusPool.Proofs.Arena.Layout

/-!
# Putting a block back

The third way in which an arena changes: a block becomes free again, together with the free extents
that it touches (**`Layout.release`**).

Without a block, a gap next to it could become longer. That none is left that could is what joining
both neighbours is for: the joined extent ends at blocks or at ends of the span
(**`Layout.gap_joined`**), and a gap that is not joined does not touch the block
(**`Layout.gap_untouched`**).
-/

namespace BusPool.Arena

open AddressMap

namespace Layout

variable {a : Arena}

/-- The free extents that a block touches inside its span: one that ends where the block starts,
and one that starts where the block ends. Touching at an end of the span does not count. -/
structure Touching (a : Arena) (span : Address × Word) (start : Address) (size : Word)
    (below above : Option Extent) : Prop where
  /-- What touches the block from below. -/
  below_iff : ∀ e, e ∈ below ↔ (e.start, e.len) ∈ a.free.entries ∧
    stopOf (e.start, e.len) = start.toNat ∧ span.1 ≠ start
  /-- What touches the block from above. -/
  above_iff : ∀ e, e ∈ above ↔ (e.start, e.len) ∈ a.free.entries ∧
    e.start.toNat = stopOf (start, size) ∧ stopOf (start, size) ≠ stopOf span

section release

variable {start : Address} {size len : Word} {span : Address × Word} {below above : Option Extent}

/-- Where the free extent starts that a block becomes part of. -/
def joinedStart (start : Address) (below : Option Extent) : Address :=
  (below.map Extent.start).getD start

/-- The free extents after a block has gone back. -/
def joined (free : AddressMap Word) (start : Address) (below above : Option Extent) (len : Word) :
    AddressMap Word :=
  ((free.eraseAt below).eraseAt above).insert (joinedStart start below) len

/-- What lies below the block is as long as the joined extent reaches down. -/
theorem joinedStart_eq (htouch : Touching a span start size below above) :
    start.toNat = (joinedStart start below).toNat + lenOf below := by
  cases below with
  | none => rfl
  | some e => exact ((htouch.below_iff e).1 rfl).2.1.symm

/-- The joined extent has the bytes of the block and of what it touches. -/
theorem holds_joined (htouch : Touching a span start size below above)
    (hlen : len.toNat = size.toNat + lenOf below + lenOf above) {n : Nat} :
    Holds (joinedStart start below, len) n ↔ (∃ e ∈ below, Holds (e.start, e.len) n) ∨
      Holds (start, size) n ∨ ∃ e ∈ above, Holds (e.start, e.len) n := by
  have hstart := joinedStart_eq htouch
  have hbelow : (∃ e ∈ below, Holds (e.start, e.len) n) ↔
      (joinedStart start below).toNat ≤ n ∧ n < start.toNat := by
    cases below with
    | none => simp [joinedStart]
    | some e =>
      have := ((htouch.below_iff e).1 rfl).2.1
      simp only [Option.mem_some_iff, exists_eq_left', AddressMap.holds_iff, joinedStart,
        Option.map_some, Option.getD_some]
      rw [stopOf_mk] at this
      rw [this]
  have habove : (∃ e ∈ above, Holds (e.start, e.len) n) ↔
      start.toNat + size.toNat ≤ n ∧ n < start.toNat + size.toNat + lenOf above := by
    cases above with
    | none => simp [lenOf]
    | some e =>
      have := ((htouch.above_iff e).1 rfl).2.1
      simp only [Option.mem_some_iff, exists_eq_left', AddressMap.holds_iff, lenOf,
        Option.map_some, Option.getD_some]
      rw [stopOf_mk] at this
      rw [this]
  rw [hbelow, habove, AddressMap.holds_iff, AddressMap.holds_iff]
  omega

/-- No free extent that is left starts where the joined extent does. -/
theorem joinedStart_not_mem (h : a.Layout) (hblock : (start, size) ∈ a.reserved.entries) :
    ∀ v, (joinedStart start below, v) ∉ ((a.free.eraseAt below).eraseAt above).entries := by
  intro v hv
  obtain ⟨hv, -⟩ := mem_eraseAt.1 hv
  obtain ⟨hv, hne⟩ := mem_eraseAt.1 hv
  cases below with
  | none =>
    have hcov : a.reserved.Covers start.toNat := ⟨_, hblock, holds_start (h.block_pos _ hblock)⟩
    exact h.free_clear hv (holds_start (h.free_pos hv)) hcov
  | some e => exact hne e rfl rfl

/-- The free extents afterwards: the joined one, and those that the block does not touch. -/
theorem mem_joined (h : a.Layout) (hblock : (start, size) ∈ a.reserved.entries)
    {x : Address × Word} :
    x ∈ (joined a.free start below above len).entries ↔ x = (joinedStart start below, len) ∨
      x ∈ a.free.entries ∧ (∀ e ∈ below, x.1 ≠ e.start) ∧ ∀ e ∈ above, x.1 ≠ e.start := by
  rw [joined, mem_insert]
  refine or_congr_right ⟨?_, ?_⟩
  · rintro ⟨hx, -⟩
    obtain ⟨hx, habove⟩ := mem_eraseAt.1 hx
    obtain ⟨hx, hbelow⟩ := mem_eraseAt.1 hx
    exact ⟨hx, hbelow, habove⟩
  · rintro ⟨hx, hbelow, habove⟩
    have hrest := mem_eraseAt.2 ⟨mem_eraseAt.2 ⟨hx, hbelow⟩, habove⟩
    have hnew : ∀ v, (joinedStart start below, v) ∉
        ((a.free.eraseAt below).eraseAt above).entries := joinedStart_not_mem h hblock
    refine ⟨hrest, fun heq => hnew x.2 ?_⟩
    rwa [← heq]

/-- What touches the block is free, and the rest of the free extents is left. -/
theorem total_touching (h : a.Layout) (hblock : (start, size) ∈ a.reserved.entries)
    (htouch : Touching a span start size below above) :
    a.free.total = lenOf below + lenOf above + ((a.free.eraseAt below).eraseAt above).total := by
  have hbelow : a.free.total = lenOf below + (a.free.eraseAt below).total :=
    total_eraseAt fun e he => ((htouch.below_iff e).1 he).1
  have habove : (a.free.eraseAt below).total =
      lenOf above + ((a.free.eraseAt below).eraseAt above).total := by
    refine total_eraseAt fun e he => mem_eraseAt.2 ⟨((htouch.above_iff e).1 he).1, ?_⟩
    -- what touches from above does not start where something below does
    intro e' he' heq
    have hstart := ((htouch.above_iff e).1 he).2.1
    have hstop := ((htouch.below_iff e').1 he').2.1
    have hpos := h.block_pos _ hblock
    have hkey : e.start.toNat = e'.start.toNat := congrArg Address.toNat heq
    simp only [stopOf_mk] at hstart hstop hpos
    omega
  rw [hbelow, habove, Nat.add_assoc]

/-- The free extents afterwards have the bytes of the block in addition. -/
theorem total_joined (h : a.Layout) (hblock : (start, size) ∈ a.reserved.entries)
    (htouch : Touching a span start size below above)
    (hlen : len.toNat = size.toNat + lenOf below + lenOf above) :
    (joined a.free start below above len).total = size.toNat + a.free.total := by
  rw [joined, total_insert (joinedStart_not_mem h hblock), total_touching h hblock htouch]
  omega

/-- What touches the block lies in the same span. -/
theorem touching_gap (h : a.Layout) (hs : span ∈ a.spans.entries)
    (hhome : span.1.toNat ≤ start.toNat ∧ stopOf (start, size) ≤ stopOf span)
    (htouch : Touching a span start size below above) (hsize : 0 < size.toNat) {e : Extent}
    (he : e ∈ below ∨ e ∈ above) : Gap span a.reserved (e.start, e.len) := by
  rcases he with he | he
  · obtain ⟨hmem, hstop, hne⟩ := (htouch.below_iff e).1 he
    obtain ⟨t, ht, hgap⟩ := h.free_gap _ hmem
    have hpos := hgap.pos
    have hkey := Address.toNat_inj.not.2 hne
    simp only [stopOf_mk] at hstop hhome hpos
    -- both spans have the byte right below the block
    have hlast : Holds (e.start, e.len) (start.toNat - 1) := by
      rw [AddressMap.holds_iff]
      omega
    have hshared : Holds span (start.toNat - 1) := ⟨by omega, by omega⟩
    rwa [h.span_eq hs ht hshared (hgap.holds_span hlast)]
  · obtain ⟨hmem, hstart, hne⟩ := (htouch.above_iff e).1 he
    obtain ⟨t, ht, hgap⟩ := h.free_gap _ hmem
    have hfirst := holds_start hgap.pos
    have hshared : Holds span e.start.toNat := by
      refine ⟨?_, ?_⟩ <;> simp only [stopOf_mk] at hstart hne hhome <;> omega
    rwa [h.span_eq hs ht hshared (hgap.holds_span hfirst)]

/-- Where nothing touches the block from below, the span starts there or another block ends. -/
theorem edge_below (h : a.Layout) (hblock : (start, size) ∈ a.reserved.entries)
    (hs : span ∈ a.spans.entries)
    (hhome : span.1.toNat ≤ start.toNat ∧ stopOf (start, size) ≤ stopOf span)
    (htouch : Touching a span start size none above) :
    start.toNat = span.1.toNat ∨ a.reserved.Covers (start.toNat - 1) := by
  have hpos : 0 < size.toNat := h.block_pos _ hblock
  by_cases hedge : start.toNat = span.1.toNat
  · exact .inl hedge
  · simp only [stopOf_mk] at hhome
    have hshared : Holds span (start.toNat - 1) := ⟨by omega, by omega⟩
    refine .inr ((h.covered span hs _ hshared).resolve_right ?_)
    -- a free extent with the byte right below the block would touch it
    rintro ⟨x, hx, hxn⟩
    have hnot : ¬Holds x start.toNat := fun hn => h.free_clear hx hn ⟨_, hblock, holds_start hpos⟩
    have hstop : stopOf x = start.toNat := by
      unfold Holds at hxn hnot
      omega
    have hsome := (htouch.below_iff ⟨x.1, x.2⟩).2
      ⟨hx, hstop, fun heq => hedge (congrArg Address.toNat heq).symm⟩
    cases hsome

/-- Where nothing touches the block from above, the span ends there or another block starts. -/
theorem edge_above (h : a.Layout) (hblock : (start, size) ∈ a.reserved.entries)
    (hs : span ∈ a.spans.entries)
    (hhome : span.1.toNat ≤ start.toNat ∧ stopOf (start, size) ≤ stopOf span)
    (htouch : Touching a span start size below none) :
    stopOf (start, size) = stopOf span ∨ a.reserved.Covers (stopOf (start, size)) := by
  have hpos : 0 < size.toNat := h.block_pos _ hblock
  by_cases hedge : stopOf (start, size) = stopOf span
  · exact .inl hedge
  · have hshared : Holds span (stopOf (start, size)) := by
      rw [stopOf_mk] at hhome hedge ⊢
      exact ⟨by omega, by omega⟩
    refine .inr ((h.covered span hs _ hshared).resolve_right ?_)
    -- a free extent with the byte right above the block would touch it
    rintro ⟨x, hx, hxn⟩
    have hlast : Holds (start, size) (start.toNat + size.toNat - 1) := by
      rw [AddressMap.holds_iff]
      omega
    have hnot : ¬Holds x (start.toNat + size.toNat - 1) := fun hn =>
      h.free_clear hx hn ⟨_, hblock, hlast⟩
    have hfirst : x.1.toNat = stopOf (start, size) := by
      rw [stopOf_mk] at hxn ⊢
      unfold Holds at hxn hnot
      omega
    have hsome := (htouch.above_iff ⟨x.1, x.2⟩).2 ⟨hx, hfirst, hedge⟩
    cases hsome

/-- Below the joined extent the span starts or another block ends. -/
theorem joined_below (h : a.Layout) (hblock : (start, size) ∈ a.reserved.entries)
    (hs : span ∈ a.spans.entries)
    (hhome : span.1.toNat ≤ start.toNat ∧ stopOf (start, size) ≤ stopOf span)
    (htouch : Touching a span start size below above) :
    span.1.toNat ≤ (joinedStart start below).toNat ∧
      ((joinedStart start below).toNat = span.1.toNat ∨
        a.reserved.Covers ((joinedStart start below).toNat - 1)) := by
  cases below with
  | none => exact ⟨hhome.1, edge_below h hblock hs hhome htouch⟩
  | some e =>
    have hgap := touching_gap h hs hhome htouch (h.block_pos _ hblock) (.inl rfl)
    exact ⟨hgap.start_le, hgap.below⟩

/-- Above the joined extent the span ends or another block starts. -/
theorem joined_above (h : a.Layout) (hblock : (start, size) ∈ a.reserved.entries)
    (hs : span ∈ a.spans.entries)
    (hhome : span.1.toNat ≤ start.toNat ∧ stopOf (start, size) ≤ stopOf span)
    (htouch : Touching a span start size below above) :
    stopOf (start, size) + lenOf above ≤ stopOf span ∧
      (stopOf (start, size) + lenOf above = stopOf span ∨
        a.reserved.Covers (stopOf (start, size) + lenOf above)) := by
  cases above with
  | none => exact ⟨hhome.2, edge_above h hblock hs hhome htouch⟩
  | some e =>
    have hgap := touching_gap h hs hhome htouch (h.block_pos _ hblock) (.inr rfl)
    have hstop : stopOf (start, size) + lenOf (some e) = stopOf (e.start, e.len) := by
      rw [← ((htouch.above_iff e).1 rfl).2.1]
      rfl
    rw [hstop]
    exact ⟨hgap.stop_le, hgap.above⟩

/-- The joined extent is a gap. Where nothing touches the block, a block or an end of the span
does. -/
theorem gap_joined (h : a.Layout) (hblock : (start, size) ∈ a.reserved.entries)
    (hs : span ∈ a.spans.entries)
    (hhome : span.1.toNat ≤ start.toNat ∧ stopOf (start, size) ≤ stopOf span)
    (htouch : Touching a span start size below above)
    (hlen : len.toNat = size.toNat + lenOf below + lenOf above) :
    Gap span (a.reserved.erase start) (joinedStart start below, len) := by
  have hpos : 0 < size.toNat := h.block_pos _ hblock
  have hstart := joinedStart_eq htouch
  have hstop : stopOf (joinedStart start below, len) = stopOf (start, size) + lenOf above := by
    rw [stopOf_mk, stopOf_mk]
    omega
  have herase := fun n => covers_erase (n := n) h.block_apart hblock
  obtain ⟨hlow, hbelow⟩ := joined_below h hblock hs hhome htouch
  obtain ⟨hhigh, habove⟩ := joined_above h hblock hs hhome htouch
  rw [← hstop] at hhigh habove
  refine ⟨by dsimp only; omega, hlow, hhigh, fun n hn hcov => ?_, ?_, ?_⟩
  · obtain ⟨hcov, hout⟩ := (herase n).1 hcov
    rcases (holds_joined htouch hlen).1 hn with ⟨e, he, hn⟩ | hn | ⟨e, he, hn⟩
    · exact h.free_clear ((htouch.below_iff e).1 he).1 hn hcov
    · exact hout hn
    · exact h.free_clear ((htouch.above_iff e).1 he).1 hn hcov
  · by_cases hedge : (joinedStart start below).toNat = span.1.toNat
    · exact .inl hedge
    · refine .inr ((herase _).2 ⟨hbelow.resolve_left hedge, fun hn => ?_⟩)
      rw [AddressMap.holds_iff] at hn
      dsimp only at hn
      omega
  · refine habove.imp_right fun hcov => (herase _).2 ⟨hcov, fun hn => ?_⟩
    rw [hstop, stopOf_mk, AddressMap.holds_iff] at hn
    omega

/-- The byte right below a gap is not one of a block that the gap does not touch. -/
theorem not_holds_below (h : a.Layout) (hblock : (start, size) ∈ a.reserved.entries)
    (hs : span ∈ a.spans.entries)
    (hhome : span.1.toNat ≤ start.toNat ∧ stopOf (start, size) ≤ stopOf span)
    (htouch : Touching a span start size below above) {t x : Address × Word}
    (ht : t ∈ a.spans.entries) (hx : x ∈ a.free.entries) (hgap : Gap t a.reserved x)
    (hedge : x.1.toNat ≠ t.1.toNat) (habove : ∀ e ∈ above, x.1 ≠ e.start) :
    ¬Holds (start, size) (x.1.toNat - 1) := by
  intro hn
  have hxpos := hgap.pos
  have hxstart := hgap.start_le
  have hxstop := hgap.stop_le
  have hxend : stopOf x = x.1.toNat + x.2.toNat := rfl
  have hout : ¬Holds (start, size) x.1.toNat := fun hn' =>
    hgap.clear _ (holds_start hxpos) ⟨_, hblock, hn'⟩
  have hfirst : x.1.toNat = stopOf (start, size) := by
    unfold Holds at hn hout
    omega
  have hshared : Holds t (x.1.toNat - 1) := ⟨by omega, by omega⟩
  have hsame := h.span_eq hs ht ⟨Nat.le_trans hhome.1 hn.1, Nat.lt_of_lt_of_le hn.2 hhome.2⟩ hshared
  subst hsame
  refine habove ⟨x.1, x.2⟩ ((htouch.above_iff _).2 ⟨hx, hfirst, ?_⟩) rfl
  rw [← hfirst]
  omega

/-- The byte right above a gap is not one of a block that the gap does not touch. -/
theorem not_holds_above (h : a.Layout) (hblock : (start, size) ∈ a.reserved.entries)
    (hs : span ∈ a.spans.entries)
    (hhome : span.1.toNat ≤ start.toNat ∧ stopOf (start, size) ≤ stopOf span)
    (htouch : Touching a span start size below above) {t x : Address × Word}
    (ht : t ∈ a.spans.entries) (hx : x ∈ a.free.entries) (hgap : Gap t a.reserved x)
    (hedge : stopOf x ≠ stopOf t) (hbelow : ∀ e ∈ below, x.1 ≠ e.start) :
    ¬Holds (start, size) (stopOf x) := by
  intro hn
  have hxpos := hgap.pos
  have hxstart := hgap.start_le
  have hxstop := hgap.stop_le
  have hxend : stopOf x = x.1.toNat + x.2.toNat := rfl
  have hlast : Holds x (stopOf x - 1) := ⟨by omega, by omega⟩
  have hout : ¬Holds (start, size) (stopOf x - 1) := fun hn' =>
    hgap.clear _ hlast ⟨_, hblock, hn'⟩
  have hstop : stopOf x = start.toNat := by
    rw [AddressMap.holds_iff] at hn hout
    omega
  have hshared : Holds t (stopOf x) := ⟨by omega, by omega⟩
  have hsame := h.span_eq hs ht ⟨Nat.le_trans hhome.1 hn.1, Nat.lt_of_lt_of_le hn.2 hhome.2⟩ hshared
  subst hsame
  refine hbelow ⟨x.1, x.2⟩ ((htouch.below_iff _).2 ⟨hx, hstop, fun heq => ?_⟩) rfl
  rw [heq] at hxstart
  omega

/-- A gap that the block does not touch stays as it is when the block goes back. -/
theorem gap_untouched (h : a.Layout) (hblock : (start, size) ∈ a.reserved.entries)
    (hs : span ∈ a.spans.entries)
    (hhome : span.1.toNat ≤ start.toNat ∧ stopOf (start, size) ≤ stopOf span)
    (htouch : Touching a span start size below above) {t x : Address × Word}
    (ht : t ∈ a.spans.entries) (hx : x ∈ a.free.entries) (hgap : Gap t a.reserved x)
    (hbelow : ∀ e ∈ below, x.1 ≠ e.start) (habove : ∀ e ∈ above, x.1 ≠ e.start) :
    Gap t (a.reserved.erase start) x := by
  have herase := fun n => covers_erase (n := n) h.block_apart hblock
  refine ⟨hgap.pos, hgap.start_le, hgap.stop_le, fun n hn hcov => ?_, ?_, ?_⟩
  · exact hgap.clear n hn ((herase n).1 hcov).1
  · by_cases hedge : x.1.toNat = t.1.toNat
    · exact .inl hedge
    · exact .inr ((herase _).2 ⟨hgap.below.resolve_left hedge,
        not_holds_below h hblock hs hhome htouch ht hx hgap hedge habove⟩)
  · by_cases hedge : stopOf x = stopOf t
    · exact .inl hedge
    · exact .inr ((herase _).2 ⟨hgap.above.resolve_left hedge,
        not_holds_above h hblock hs hhome htouch ht hx hgap hedge hbelow⟩)

/-- A block that goes back becomes free together with the free extents that it touches. -/
theorem release (h : a.Layout) {freeBytes : Word} (hblock : (start, size) ∈ a.reserved.entries)
    (hs : span ∈ a.spans.entries)
    (hhome : span.1.toNat ≤ start.toNat ∧ stopOf (start, size) ≤ stopOf span)
    (htouch : Touching a span start size below above)
    (hlen : len.toNat = size.toNat + lenOf below + lenOf above)
    (hfree : freeBytes.toNat = size.toNat + a.freeBytes.toNat) :
    Layout ⟨a.spans, joined a.free start below above len, a.reserved.erase start, a.spanBytes,
      freeBytes⟩ := by
  have htotal := total_joined h hblock htouch hlen
  have hgap := gap_joined h hblock hs hhome htouch hlen
  constructor
  · exact h.span_pos
  · exact h.span_stop
  · exact h.span_apart
  · intro r hr
    exact h.block_pos r (mem_erase.1 hr).1
  · intro r hr
    exact h.block_home r (mem_erase.1 hr).1
  · exact h.block_apart.erase start
  · intro x hx
    rcases (mem_joined h hblock).1 hx with rfl | ⟨hx, hbelow, habove⟩
    · exact ⟨span, hs, hgap⟩
    · obtain ⟨t, ht, hxgap⟩ := h.free_gap x hx
      exact ⟨t, ht, gap_untouched h hblock hs hhome htouch ht hx hxgap hbelow habove⟩
  · intro t ht n hn
    rw [covers_erase h.block_apart hblock]
    by_cases hin : Holds (joinedStart start below, len) n
    · exact .inr ⟨_, (mem_joined h hblock).2 (.inl rfl), hin⟩
    · have hout := (holds_joined htouch hlen).not.1 hin
      simp only [not_or, not_exists, not_and] at hout
      obtain ⟨hbelow, hsize, habove⟩ := hout
      rcases h.covered t ht n hn with hcov | ⟨x, hx, hxn⟩
      · exact .inl ⟨hcov, hsize⟩
      · refine .inr ⟨x, (mem_joined h hblock).2 (.inr ⟨hx, ?_, ?_⟩), hxn⟩
        · intro e he heq
          have hsame := entry_eq_of_mem hx ((htouch.below_iff e).1 he).1 heq
          exact hbelow e he (hsame ▸ hxn)
        · intro e he heq
          have hsame := entry_eq_of_mem hx ((htouch.above_iff e).1 he).1 heq
          exact habove e he (hsame ▸ hxn)
  · exact h.spanBytes_eq
  · have := h.freeBytes_eq
    dsimp only
    omega
  · have := h.total_eq
    have := total_erase hblock
    dsimp only
    omega

end release

end Layout

end BusPool.Arena
