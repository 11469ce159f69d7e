import BusPool.Proofs.Arena.Layout

/-!
# Adding a span and carving out a block

Two of the three ways in which an arena changes, as changes of its maps and counters: a span comes
in (**`Layout.addSpan`**), and a block is carved out of a free extent (**`Layout.carve`**). Both
only add to what is covered, so that gaps elsewhere stay gaps.
-/

namespace BusPool.Arena

open AddressMap

namespace Layout

variable {a : Arena}

/-! ### Adding a span -/

section addSpan

variable {span : Address × Word}

/-- A span stays one when another is added. -/
theorem mem_insert_span (hnew : ∀ v, (span.1, v) ∉ a.spans.entries) {s : Address × Word}
    (hs : s ∈ a.spans.entries) : s ∈ (a.spans.insert span.1 span.2).entries :=
  mem_insert.2 (.inr ⟨hs, fun heq => hnew s.2 (heq ▸ hs)⟩)

/-- No span has a byte of one that is added. -/
theorem not_holds_span (hnew : ∀ v, (span.1, v) ∉ a.spans.entries)
    (hspaced : (a.spans.insert span.1 span.2).Spaced stopOf) {s : Address × Word}
    (hs : s ∈ a.spans.entries) {n : Nat} (hn : Holds s n) : ¬Holds span n := by
  intro hn'
  have hsame := hspaced.eq_of_shared (mem_insert_span hnew hs) (mem_insert.2 (.inl rfl)) hn hn'
  exact hnew s.2 (hsame ▸ hs)

/-- A span that is added is a gap as a whole. -/
theorem gap_span (h : a.Layout) (hpos : 0 < span.2.toNat)
    (hnew : ∀ v, (span.1, v) ∉ a.spans.entries)
    (hspaced : (a.spans.insert span.1 span.2).Spaced stopOf) : Gap span a.reserved span := by
  refine ⟨hpos, Nat.le_refl _, Nat.le_refl _, ?_, .inl rfl, .inl rfl⟩
  rintro n hn ⟨r, hr, hrn⟩
  obtain ⟨s, hs, hlow, hhigh⟩ := h.block_home r hr
  have hsn : Holds s n := ⟨Nat.le_trans hlow hrn.1, Nat.lt_of_lt_of_le hrn.2 hhigh⟩
  exact not_holds_span hnew hspaced hs hsn hn

/-- No free extent starts where a span that is added starts. -/
theorem free_not_mem_span (h : a.Layout) (hpos : 0 < span.2.toNat)
    (hnew : ∀ v, (span.1, v) ∉ a.spans.entries)
    (hspaced : (a.spans.insert span.1 span.2).Spaced stopOf) :
    ∀ v, (span.1, v) ∉ a.free.entries := by
  intro v hv
  obtain ⟨s, hs, hgap⟩ := h.free_gap _ hv
  have hfirst : Holds s span.1.toNat := hgap.holds_span (holds_start hgap.pos)
  exact not_holds_span hnew hspaced hs hfirst (holds_start hpos)

/-- A new span that lies apart from the others is free as a whole. -/
theorem addSpan (h : a.Layout) {spanBytes freeBytes : Word} (hpos : 0 < span.2.toNat)
    (hstop : stopOf span < UInt64.size) (hnew : ∀ v, (span.1, v) ∉ a.spans.entries)
    (hspaced : (a.spans.insert span.1 span.2).Spaced stopOf)
    (hspan : spanBytes.toNat = span.2.toNat + a.spanBytes.toNat)
    (hfree : freeBytes.toNat = span.2.toNat + a.freeBytes.toNat) :
    Layout ⟨a.spans.insert span.1 span.2, a.free.insert span.1 span.2, a.reserved, spanBytes,
      freeBytes⟩ := by
  have hfresh := h.free_not_mem_span hpos hnew hspaced
  constructor
  · intro s hs
    rcases mem_insert.1 hs with rfl | ⟨hs, -⟩
    · exact hpos
    · exact h.span_pos s hs
  · intro s hs
    rcases mem_insert.1 hs with rfl | ⟨hs, -⟩
    · exact hstop
    · exact h.span_stop s hs
  · exact hspaced
  · exact h.block_pos
  · intro r hr
    obtain ⟨s, hs, hin⟩ := h.block_home r hr
    exact ⟨s, mem_insert_span hnew hs, hin⟩
  · exact h.block_apart
  · intro x hx
    rcases mem_insert.1 hx with rfl | ⟨hx, -⟩
    · exact ⟨span, mem_insert.2 (.inl rfl), h.gap_span hpos hnew hspaced⟩
    · obtain ⟨s, hs, hgap⟩ := h.free_gap x hx
      exact ⟨s, mem_insert_span hnew hs, hgap⟩
  · intro s hs n hn
    rw [covers_insert hfresh]
    rcases mem_insert.1 hs with rfl | ⟨hs, -⟩
    · exact .inr (.inl hn)
    · exact (h.covered s hs n hn).imp_right .inr
  · rw [hspan, total_insert hnew, h.spanBytes_eq]
  · rw [hfree, total_insert hfresh, h.freeBytes_eq]
  · rw [total_insert hnew, total_insert hfresh, h.total_eq, Nat.add_assoc]

end addSpan

/-! ### Taking a block out -/

/-- A block cuts a stretch in three: what is below it, the block, and what is above it. Either
remainder may be empty. -/
structure Cut (start : Address) (len : Word) (spot blockEnd : Address) (size head tail : Word) :
    Prop where
  /-- The block has bytes. -/
  size_pos : 0 < size.toNat
  /-- Where the block ends. -/
  end_eq : blockEnd.toNat = spot.toNat + size.toNat
  /-- What is below the block. -/
  head_eq : spot.toNat = start.toNat + head.toNat
  /-- What is above the block. -/
  tail_eq : start.toNat + len.toNat = blockEnd.toNat + tail.toNat

section carve

variable {start spot blockEnd : Address} {len size head tail : Word}

/-- Every byte of the stretch is in one of the three parts. -/
theorem Cut.holds_iff (hcut : Cut start len spot blockEnd size head tail) {n : Nat} :
    Holds (start, len) n ↔
      Holds (start, head) n ∨ Holds (spot, size) n ∨ Holds (blockEnd, tail) n := by
  have := hcut.end_eq
  have := hcut.head_eq
  have := hcut.tail_eq
  simp only [AddressMap.holds_iff]
  omega

/-- The free extents around a block that is cut out of one of them. -/
def remnants (free : AddressMap Word) (start : Address) (head : Word) (blockEnd : Address)
    (tail : Word) : AddressMap Word :=
  ((free.erase start).insertPos start head).insertPos blockEnd tail

/-- No block starts where a block is cut out. -/
theorem spot_not_mem (h : a.Layout) (hregion : (start, len) ∈ a.free.entries)
    (hcut : Cut start len spot blockEnd size head tail) : ∀ v, (spot, v) ∉ a.reserved.entries := by
  intro v hv
  have hin := hcut.holds_iff.2 (.inr (.inl (holds_start hcut.size_pos)))
  exact h.free_clear hregion hin ⟨_, hv, holds_start (h.block_pos _ hv)⟩

/-- The blocks cover the bytes of this one in addition. -/
theorem covers_blocks (h : a.Layout) (hregion : (start, len) ∈ a.free.entries)
    (hcut : Cut start len spot blockEnd size head tail) {n : Nat} :
    (a.reserved.insert spot size).Covers n ↔ Holds (spot, size) n ∨ a.reserved.Covers n :=
  covers_insert (spot_not_mem h hregion hcut)

/-- No free extent is left at the key of the lower part. -/
theorem head_not_mem (free : AddressMap Word) (start : Address) :
    ∀ v, (start, v) ∉ (free.erase start).entries := by
  intro v hv
  exact (mem_erase.1 hv).2 rfl

/-- Nor is there one at the key of the upper part, if that has bytes. -/
theorem tail_not_mem (h : a.Layout) (hregion : (start, len) ∈ a.free.entries)
    (hcut : Cut start len spot blockEnd size head tail) (htail : 0 < tail.toNat) :
    ∀ v, (blockEnd, v) ∉ ((a.free.erase start).insertPos start head).entries := by
  intro v hv
  rcases (mem_insertPos fun _ => head_not_mem a.free start).1 hv with ⟨heq, -⟩ | hv
  · have hkey : blockEnd.toNat = start.toNat := congrArg (fun x => x.1.toNat) heq
    have := hcut.size_pos
    have := hcut.end_eq
    have := hcut.head_eq
    omega
  · obtain ⟨hv, hne⟩ := mem_erase.1 hv
    have hin := hcut.holds_iff.2 (.inr (.inr (holds_start htail)))
    exact hne (congrArg Prod.fst (h.free_eq hv hregion (holds_start (h.free_pos hv)) hin))

/-- The free extents afterwards: the other ones, and the remainders with bytes. -/
theorem mem_remnants (h : a.Layout) (hregion : (start, len) ∈ a.free.entries)
    (hcut : Cut start len spot blockEnd size head tail) {x : Address × Word} :
    x ∈ (remnants a.free start head blockEnd tail).entries ↔
      (x = (blockEnd, tail) ∧ 0 < tail.toNat) ∨ (x = (start, head) ∧ 0 < head.toNat) ∨
        x ∈ a.free.entries ∧ x.1 ≠ start := by
  rw [remnants, mem_insertPos (tail_not_mem h hregion hcut),
    mem_insertPos fun _ => head_not_mem a.free start, mem_erase]

/-- The free extents afterwards have all bytes but those of the block. -/
theorem total_remnants (h : a.Layout) (hregion : (start, len) ∈ a.free.entries)
    (hcut : Cut start len spot blockEnd size head tail) :
    a.free.total = size.toNat + (remnants a.free start head blockEnd tail).total := by
  have := hcut.end_eq
  have := hcut.head_eq
  have := hcut.tail_eq
  rw [remnants, total_insertPos (tail_not_mem h hregion hcut),
    total_insertPos fun _ => head_not_mem a.free start, total_erase hregion]
  omega

/-- Bytes that were free belong to the block or are still free. -/
theorem covers_remnants (h : a.Layout) (hregion : (start, len) ∈ a.free.entries)
    (hcut : Cut start len spot blockEnd size head tail) {n : Nat} (hn : a.free.Covers n) :
    Holds (spot, size) n ∨ (remnants a.free start head blockEnd tail).Covers n := by
  obtain ⟨x, hx, hxn⟩ := hn
  by_cases hkey : x.1 = start
  · have hsame := entry_eq_of_mem hx hregion hkey
    subst hsame
    rcases hcut.holds_iff.1 hxn with hn | hn | hn
    · refine .inr ⟨_, (mem_remnants h hregion hcut).2 (.inr (.inl ⟨rfl, ?_⟩)), hn⟩
      rw [AddressMap.holds_iff] at hn
      omega
    · exact .inl hn
    · refine .inr ⟨_, (mem_remnants h hregion hcut).2 (.inl ⟨rfl, ?_⟩), hn⟩
      rw [AddressMap.holds_iff] at hn
      omega
  · exact .inr ⟨x, (mem_remnants h hregion hcut).2 (.inr (.inr ⟨hx, hkey⟩)), hxn⟩

/-- What is above the block is a gap, which starts at the block. -/
theorem gap_tail (h : a.Layout) (hregion : (start, len) ∈ a.free.entries)
    (hcut : Cut start len spot blockEnd size head tail) {s : Address × Word}
    (hgap : Gap s a.reserved (start, len)) (hpos : 0 < tail.toNat) :
    Gap s (a.reserved.insert spot size) (blockEnd, tail) := by
  have hinsert := fun n => covers_blocks (n := n) h hregion hcut
  have hsize := hcut.size_pos
  have hend := hcut.end_eq
  have hhead := hcut.head_eq
  have htail := hcut.tail_eq
  have hstop : stopOf (blockEnd, tail) = stopOf (start, len) := htail.symm
  have hstart := hgap.start_le
  dsimp only at hstart
  refine ⟨hpos, by dsimp only; omega, hstop ▸ hgap.stop_le, fun n hn hcov => ?_, .inr ?_, ?_⟩
  · rcases (hinsert n).1 hcov with hn' | hcov
    · rw [AddressMap.holds_iff] at hn hn'
      omega
    · exact hgap.clear n (hcut.holds_iff.2 (.inr (.inr hn))) hcov
  · refine (hinsert _).2 (.inl ?_)
    rw [AddressMap.holds_iff]
    dsimp only
    omega
  · rw [hstop]
    exact hgap.above.imp_right fun hcov => (hinsert _).2 (.inr hcov)

/-- What is below the block is a gap, which ends at the block. -/
theorem gap_head (h : a.Layout) (hregion : (start, len) ∈ a.free.entries)
    (hcut : Cut start len spot blockEnd size head tail) {s : Address × Word}
    (hgap : Gap s a.reserved (start, len)) (hpos : 0 < head.toNat) :
    Gap s (a.reserved.insert spot size) (start, head) := by
  have hinsert := fun n => covers_blocks (n := n) h hregion hcut
  have hsize := hcut.size_pos
  have hend := hcut.end_eq
  have hhead := hcut.head_eq
  have htail := hcut.tail_eq
  have hstop := hgap.stop_le
  rw [stopOf_mk] at hstop
  refine ⟨hpos, hgap.start_le, by rw [stopOf_mk]; omega, fun n hn hcov => ?_, ?_, .inr ?_⟩
  · rcases (hinsert n).1 hcov with hn' | hcov
    · rw [AddressMap.holds_iff] at hn hn'
      omega
    · exact hgap.clear n (hcut.holds_iff.2 (.inl hn)) hcov
  · exact hgap.below.imp_right fun hcov => (hinsert _).2 (.inr hcov)
  · refine (hinsert _).2 (.inl ?_)
    rw [stopOf_mk, AddressMap.holds_iff]
    omega

/-- A gap that the block is not cut out of stays as it was. -/
theorem gap_elsewhere (h : a.Layout) (hregion : (start, len) ∈ a.free.entries)
    (hcut : Cut start len spot blockEnd size head tail) {s x : Address × Word}
    (hx : x ∈ a.free.entries) (hne : x.1 ≠ start) (hgap : Gap s a.reserved x) :
    Gap s (a.reserved.insert spot size) x := by
  have hinsert := fun n => covers_blocks (n := n) h hregion hcut
  refine ⟨hgap.pos, hgap.start_le, hgap.stop_le, fun n hn hcov => ?_, ?_, ?_⟩
  · rcases (hinsert n).1 hcov with hn' | hcov
    · have hin := hcut.holds_iff.2 (.inr (.inl hn'))
      exact hne (congrArg Prod.fst (h.free_eq hx hregion hn hin))
    · exact hgap.clear n hn hcov
  · exact hgap.below.imp_right fun hcov => (hinsert _).2 (.inr hcov)
  · exact hgap.above.imp_right fun hcov => (hinsert _).2 (.inr hcov)

/-- The free extents afterwards are gaps. -/
theorem gap_of_mem_remnants (h : a.Layout) (hregion : (start, len) ∈ a.free.entries)
    (hcut : Cut start len spot blockEnd size head tail) {x : Address × Word}
    (hx : x ∈ (remnants a.free start head blockEnd tail).entries) :
    ∃ s ∈ a.spans.entries, Gap s (a.reserved.insert spot size) x := by
  rcases (mem_remnants h hregion hcut).1 hx with ⟨rfl, hpos⟩ | ⟨rfl, hpos⟩ | ⟨hx, hne⟩
  · obtain ⟨s, hs, hgap⟩ := h.free_gap _ hregion
    exact ⟨s, hs, gap_tail h hregion hcut hgap hpos⟩
  · obtain ⟨s, hs, hgap⟩ := h.free_gap _ hregion
    exact ⟨s, hs, gap_head h hregion hcut hgap hpos⟩
  · obtain ⟨s, hs, hgap⟩ := h.free_gap x hx
    exact ⟨s, hs, gap_elsewhere h hregion hcut hx hne hgap⟩

/-- The block lies apart from the blocks that were there. -/
theorem reserved_apart (h : a.Layout) (hregion : (start, len) ∈ a.free.entries)
    (hcut : Cut start len spot blockEnd size head tail) :
    (a.reserved.insert spot size).Spaced stopOf := by
  have hfree : ∀ {n}, Holds (spot, size) n → ¬a.reserved.Covers n := fun hn =>
    h.free_clear hregion (hcut.holds_iff.2 (.inr (.inl hn)))
  intro x hx y hy hlt
  rcases mem_insert.1 hx with rfl | ⟨hx, -⟩ <;> rcases mem_insert.1 hy with rfl | ⟨hy, -⟩
  · exact absurd hlt (Nat.lt_irrefl _)
  · by_contra hmeet
    exact hfree ⟨Nat.le_of_lt hlt, Nat.not_le.1 hmeet⟩ ⟨y, hy, holds_start (h.block_pos y hy)⟩
  · by_contra hmeet
    exact hfree (holds_start hcut.size_pos) ⟨x, hx, Nat.le_of_lt hlt, Nat.not_le.1 hmeet⟩
  · exact h.block_apart x hx y hy hlt

/-- A block carved out of a free extent leaves what is below it and what is above it free. -/
theorem carve (h : a.Layout) {freeBytes : Word} (hregion : (start, len) ∈ a.free.entries)
    (hcut : Cut start len spot blockEnd size head tail)
    (hfree : a.freeBytes.toNat = size.toNat + freeBytes.toNat) :
    Layout ⟨a.spans, remnants a.free start head blockEnd tail, a.reserved.insert spot size,
      a.spanBytes, freeBytes⟩ := by
  have htotal := total_remnants h hregion hcut
  constructor
  · exact h.span_pos
  · exact h.span_stop
  · exact h.span_apart
  · intro r hr
    rcases mem_insert.1 hr with rfl | ⟨hr, -⟩
    · exact hcut.size_pos
    · exact h.block_pos r hr
  · intro r hr
    rcases mem_insert.1 hr with rfl | ⟨hr, -⟩
    · obtain ⟨s, hs, hgap⟩ := h.free_gap _ hregion
      have hlow := hgap.start_le
      have hhigh := hgap.stop_le
      have := hcut.end_eq
      have := hcut.head_eq
      have := hcut.tail_eq
      simp only [stopOf_mk] at hlow hhigh ⊢
      exact ⟨s, hs, by omega, by omega⟩
    · exact h.block_home r hr
  · exact reserved_apart h hregion hcut
  · exact fun x hx => gap_of_mem_remnants h hregion hcut hx
  · intro s hs n hn
    rw [covers_blocks h hregion hcut]
    rcases h.covered s hs n hn with hcov | hcov
    · exact .inl (.inr hcov)
    · exact (covers_remnants h hregion hcut hcov).imp_left .inl
  · exact h.spanBytes_eq
  · have := h.freeBytes_eq
    dsimp only
    omega
  · have := h.total_eq
    rw [total_insert (spot_not_mem h hregion hcut)]
    dsimp only
    omega

end carve

end Layout

end BusPool.Arena
