import BusPool.Arena.Basic
import BusPool.Proofs.AddressMap

/-!
# The layout of an arena

What holds of an arena between any two operations, whatever was asked of it before. Spans have
bytes, end on the bus and lie apart; every reserved block lies inside a span, and blocks lie apart.

The free extents are not described by a list of rules but pinned down: each of them is a *gap*, a
stretch of a span that meets no block and cannot be made longer, and there is a free extent at
every byte of a span that no block covers. Since gaps that share a byte are equal
(**`Gap.eq_of_shared`**), spans and blocks leave no choice what the free extents are
(**`Layout.mem_free_iff`**). That they lie apart, meet no block and are joined wherever they touch
inside a span all follows from this.
-/

namespace BusPool

open AddressMap

namespace Arena

/-- A stretch of a span that no block meets and that ends, on both sides, at an end of the span or
at a block. -/
structure Gap (span : Address × Word) (reserved : AddressMap Word) (x : Address × Word) :
    Prop where
  /-- A gap has bytes. -/
  pos : 0 < x.2.toNat
  /-- It starts in the span. -/
  start_le : span.1.toNat ≤ x.1.toNat
  /-- It ends in the span. -/
  stop_le : stopOf x ≤ stopOf span
  /-- No block has a byte of it. -/
  clear : ∀ n, Holds x n → ¬reserved.Covers n
  /-- Below it there is a block, unless it starts the span. -/
  below : x.1.toNat = span.1.toNat ∨ reserved.Covers (x.1.toNat - 1)
  /-- Above it there is a block, unless it ends the span. -/
  above : stopOf x = stopOf span ∨ reserved.Covers (stopOf x)

/-- An arena as the operations leave it. -/
structure Layout (a : Arena) : Prop where
  /-- Spans have bytes. -/
  span_pos : ∀ s ∈ a.spans.entries, 0 < s.2.toNat
  /-- Spans end on the bus. -/
  span_stop : ∀ s ∈ a.spans.entries, stopOf s < UInt64.size
  /-- Spans lie apart. -/
  span_apart : a.spans.Spaced stopOf
  /-- Blocks have bytes. -/
  block_pos : ∀ r ∈ a.reserved.entries, 0 < r.2.toNat
  /-- Blocks lie in spans. -/
  block_home : ∀ r ∈ a.reserved.entries,
    ∃ s ∈ a.spans.entries, s.1.toNat ≤ r.1.toNat ∧ stopOf r ≤ stopOf s
  /-- Blocks lie apart. -/
  block_apart : a.reserved.Spaced stopOf
  /-- Free extents are gaps between blocks. -/
  free_gap : ∀ x ∈ a.free.entries, ∃ s ∈ a.spans.entries, Gap s a.reserved x
  /-- Every byte of a span belongs to a block or is free. -/
  covered : ∀ s ∈ a.spans.entries, ∀ n, Holds s n → a.reserved.Covers n ∨ a.free.Covers n
  /-- The first counter is the length of the spans. -/
  spanBytes_eq : a.spanBytes.toNat = a.spans.total
  /-- The second counter is the length of the free extents. -/
  freeBytes_eq : a.freeBytes.toNat = a.free.total
  /-- Blocks and free extents have as many bytes as the spans. -/
  total_eq : a.spans.total = a.free.total + a.reserved.total

/-! ### Gaps -/

/-- A stretch that has bytes holds its first address. -/
theorem holds_start {x : Address × Word} (h : 0 < x.2.toNat) : Holds x x.1.toNat := by
  refine ⟨Nat.le_refl _, ?_⟩
  unfold stopOf
  omega

namespace Gap

variable {s t x y : Address × Word} {reserved : AddressMap Word}

/-- A gap lies in its span. -/
theorem holds_span (h : Gap s reserved x) {n : Nat} (hn : Holds x n) : Holds s n :=
  ⟨Nat.le_trans h.start_le hn.1, Nat.lt_of_lt_of_le hn.2 h.stop_le⟩

/-- Of two gaps of one span that share a byte neither starts before the other. -/
private theorem start_le_of_shared (hx : Gap s reserved x) (hy : Gap s reserved y) {n : Nat}
    (hxn : Holds x n) (hyn : Holds y n) : y.1.toNat ≤ x.1.toNat := by
  have hxs := hx.start_le
  by_contra hlt
  rcases hy.below with hbelow | hbelow
  · omega
  · refine hx.clear _ ⟨?_, ?_⟩ hbelow
    · omega
    · have := hyn.1
      have := hxn.2
      omega

/-- Of two gaps of one span that share a byte neither ends after the other. -/
private theorem stop_le_of_shared (hx : Gap s reserved x) (hy : Gap s reserved y) {n : Nat}
    (hxn : Holds x n) (hyn : Holds y n) : stopOf x ≤ stopOf y := by
  have hxs := hx.stop_le
  by_contra hlt
  rcases hy.above with habove | habove
  · omega
  · refine hx.clear _ ⟨?_, ?_⟩ habove
    · have := hyn.2
      have := hxn.1
      omega
    · omega

/-- Gaps of one span that share a byte are equal. -/
theorem eq_of_shared (hx : Gap s reserved x) (hy : Gap s reserved y) {n : Nat}
    (hxn : Holds x n) (hyn : Holds y n) : x = y := by
  have hstart : x.1.toNat = y.1.toNat :=
    Nat.le_antisymm (hy.start_le_of_shared hx hyn hxn) (hx.start_le_of_shared hy hxn hyn)
  have hstop : stopOf x = stopOf y :=
    Nat.le_antisymm (hx.stop_le_of_shared hy hxn hyn) (hy.stop_le_of_shared hx hyn hxn)
  have hkey := Address.toNat_inj.1 hstart
  have hlen : x.2 = y.2 := by
    rw [← UInt64.toNat_inj]
    unfold stopOf at hstop
    omega
  exact Prod.ext hkey hlen

end Gap

namespace Layout

variable {a : Arena} {s t x y r : Address × Word}

/-! ### What a layout implies -/

/-- The arena without spans is laid out. -/
theorem empty : Layout Arena.empty where
  span_pos := by intro s hs; cases hs
  span_stop := by intro s hs; cases hs
  span_apart := spaced_empty _
  block_pos := by intro r hr; cases hr
  block_home := by intro r hr; cases hr
  block_apart := spaced_empty _
  free_gap := by intro x hx; cases hx
  covered := by intro s hs; cases hs
  spanBytes_eq := rfl
  freeBytes_eq := rfl
  total_eq := rfl

/-- Spans that share a byte are the same. -/
theorem span_eq (h : a.Layout) (hs : s ∈ a.spans.entries) (ht : t ∈ a.spans.entries) {n : Nat}
    (hsn : Holds s n) (htn : Holds t n) : s = t :=
  h.span_apart.eq_of_shared hs ht hsn htn

/-- A block that shares a byte with a span lies in that span. -/
theorem block_home_of_shared (h : a.Layout) (hr : r ∈ a.reserved.entries)
    (hs : s ∈ a.spans.entries) {n : Nat} (hrn : Holds r n) (hsn : Holds s n) :
    s.1.toNat ≤ r.1.toNat ∧ stopOf r ≤ stopOf s := by
  obtain ⟨t, ht, hlow, hhigh⟩ := h.block_home r hr
  have htn : Holds t n := ⟨Nat.le_trans hlow hrn.1, Nat.lt_of_lt_of_le hrn.2 hhigh⟩
  rw [h.span_eq hs ht hsn htn]
  exact ⟨hlow, hhigh⟩

/-- Gaps of any spans that share a byte are equal. -/
theorem gap_eq (h : a.Layout) (hs : s ∈ a.spans.entries) (ht : t ∈ a.spans.entries)
    (hx : Gap s a.reserved x) (hy : Gap t a.reserved y) {n : Nat} (hxn : Holds x n)
    (hyn : Holds y n) : x = y := by
  have hst := h.span_eq hs ht (hx.holds_span hxn) (hy.holds_span hyn)
  subst hst
  exact hx.eq_of_shared hy hxn hyn

/-- **The free extents are exactly the gaps.** -/
theorem mem_free_iff (h : a.Layout) :
    x ∈ a.free.entries ↔ ∃ s ∈ a.spans.entries, Gap s a.reserved x := by
  refine ⟨h.free_gap x, ?_⟩
  rintro ⟨s, hs, hx⟩
  have hfirst := holds_start hx.pos
  rcases h.covered s hs _ (hx.holds_span hfirst) with hblock | ⟨y, hy, hyn⟩
  · exact absurd hblock (hx.clear _ hfirst)
  · obtain ⟨t, ht, hgap⟩ := h.free_gap y hy
    rwa [h.gap_eq hs ht hx hgap hfirst hyn]

/-- Free extents have bytes. -/
theorem free_pos (h : a.Layout) (hx : x ∈ a.free.entries) : 0 < x.2.toNat := by
  obtain ⟨s, -, hgap⟩ := h.free_gap x hx
  exact hgap.pos

/-- Free extents end on the bus. -/
theorem free_stop (h : a.Layout) (hx : x ∈ a.free.entries) : stopOf x < UInt64.size := by
  obtain ⟨s, hs, hgap⟩ := h.free_gap x hx
  exact Nat.lt_of_le_of_lt hgap.stop_le (h.span_stop s hs)

/-- Blocks end on the bus. -/
theorem block_stop (h : a.Layout) (hr : r ∈ a.reserved.entries) : stopOf r < UInt64.size := by
  obtain ⟨s, hs, -, hstop⟩ := h.block_home r hr
  exact Nat.lt_of_le_of_lt hstop (h.span_stop s hs)

/-- No block has a byte of a free extent. -/
theorem free_clear (h : a.Layout) (hx : x ∈ a.free.entries) {n : Nat} (hn : Holds x n) :
    ¬a.reserved.Covers n := by
  obtain ⟨s, -, hgap⟩ := h.free_gap x hx
  exact hgap.clear n hn

/-- Free extents that share a byte are the same. -/
theorem free_eq (h : a.Layout) (hx : x ∈ a.free.entries) (hy : y ∈ a.free.entries) {n : Nat}
    (hxn : Holds x n) (hyn : Holds y n) : x = y := by
  obtain ⟨s, hs, hsx⟩ := h.free_gap x hx
  obtain ⟨t, ht, hty⟩ := h.free_gap y hy
  exact h.gap_eq hs ht hsx hty hxn hyn

/-- Free extents lie apart. -/
theorem free_apart (h : a.Layout) : a.free.Spaced stopOf := by
  intro x hx y hy hlt
  by_contra hmeet
  have hy1 := holds_start (h.free_pos hy)
  have := h.free_eq hx hy ⟨Nat.le_of_lt hlt, Nat.not_le.1 hmeet⟩ hy1
  rw [this] at hlt
  exact Nat.lt_irrefl _ hlt

/-- A byte of a span that no block has lies in a free extent. -/
theorem free_of_clear (h : a.Layout) (hs : s ∈ a.spans.entries) {n : Nat} (hn : Holds s n)
    (hclear : ¬a.reserved.Covers n) : ∃ x ∈ a.free.entries, Holds x n ∧ Gap s a.reserved x := by
  obtain ⟨x, hx, hxn⟩ := (h.covered s hs n hn).resolve_left hclear
  obtain ⟨t, ht, hgap⟩ := h.free_gap x hx
  rw [← h.span_eq hs ht hn (hgap.holds_span hxn)] at hgap
  exact ⟨x, hx, hxn, hgap⟩

/-- A stretch of a span that no block meets lies in one free extent. -/
theorem exists_free_of_clear (h : a.Layout) (hs : s ∈ a.spans.entries) {n len : Nat}
    (hpos : 0 < len) (hlow : s.1.toNat ≤ n) (hhigh : n + len ≤ stopOf s)
    (hclear : ∀ i, n ≤ i → i < n + len → ¬a.reserved.Covers i) :
    ∃ x ∈ a.free.entries, x.1.toNat ≤ n ∧ n + len ≤ stopOf x := by
  obtain ⟨x, hx, hxn, hgap⟩ :=
    h.free_of_clear hs ⟨hlow, by omega⟩ (hclear n (Nat.le_refl _) (by omega))
  refine ⟨x, hx, hxn.1, ?_⟩
  by_contra hshort
  -- a gap that ended inside the stretch would end at a block or at the end of the span
  rcases hgap.above with hedge | hcov
  · omega
  · exact hclear _ (Nat.le_of_lt hxn.2) (Nat.not_le.1 hshort) hcov

/-- The spans have fewer bytes than there are words. -/
theorem total_lt (h : a.Layout) : a.spans.total < UInt64.size := by
  have := Word.toNat_lt a.spanBytes
  rwa [h.spanBytes_eq] at this

end Layout

end Arena

end BusPool
