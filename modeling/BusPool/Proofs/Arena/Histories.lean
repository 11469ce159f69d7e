import BusPool.Proofs.Arena.Operations

/-!
# An arena after any history

Whatever was asked of an arena, and whichever operations stopped at a fault, it is laid out: one
operation keeps the layout (**`Layout.next`**), and so does a history (**`Layout.after`**). A
fault never leaves a change behind, because all checks come before the first change and no sum or
difference after it can fail.

In terms of what the maps hold, **`tiled_after`**: the free extents and the reserved blocks tile
the spans. They have bytes, do not meet, lie in one span each and leave no byte of a span out; free
extents of one span do not touch; and the counters are the sums of the lengths.
-/

namespace BusPool.Arena

open AddressMap Attempt

variable {a : Arena}

/-! ### One operation -/

/-- A reservation that asks for what it may not stops at a fault before anything has changed. -/
theorem outcome_reserve_fault {size align boundary : Word}
    (hargs : ¬Reservable size align boundary) :
    ∃ f, (reserve size align boundary).outcome a = (.error f, a) := by
  unfold reserve
  cases hsize : demand (0 < size) .zeroSize with
  | error f => exact ⟨f, outcome_error_bind⟩
  | ok =>
    rw [outcome_ok_bind]
    cases halign : demand (Word.isPowerOfTwo align) .alignNotPowerOfTwo with
    | error f => exact ⟨f, outcome_error_bind⟩
    | ok =>
      rw [outcome_ok_bind]
      cases hbound : demand (boundary == 0 || (Word.isPowerOfTwo boundary && size ≤ boundary))
          .badBoundary with
      | error f => exact ⟨f, outcome_error_bind⟩
      | ok =>
        have hlimit := demand_eq_ok.1 hbound
        rw [Bool.or_eq_true, beq_iff_eq, Bool.and_eq_true, decide_eq_true_eq] at hlimit
        refine absurd ⟨?_, demand_eq_ok.1 halign, fun hne => ?_, fun hne => ?_⟩ hargs
        · exact pos_iff.1 (of_decide_eq_true (demand_eq_ok.1 hsize))
        · exact (hlimit.resolve_left hne).1
        · exact UInt64.le_iff_toNat_le.1 (hlimit.resolve_left hne).2

/-- An operation whose answer is not looked at leaves the same arena. -/
private theorem outcome_then_none (op : Attempt Arena Unit) :
    ((do op; return none : Attempt Arena (Option Address)).outcome a).2 = (op.outcome a).2 := by
  cases hrun : op.outcome a with
  | mk result a' =>
    cases result with
    | ok => rw [outcome_bind_ok hrun, outcome_pure]
    | error f => rw [outcome_bind_error hrun]

namespace Layout

/-- **One operation keeps the layout**, also where it stops at a fault. -/
theorem next (h : a.Layout) (op : Op) : (a.next op).Layout := by
  cases op with
  | addSpan span =>
    show ((Op.addSpan span).perform.outcome a).2.Layout
    rw [Op.perform, outcome_then_none]
    by_cases hadd : a.Addable span
    · obtain ⟨a', hrun, hlayout, -⟩ := h.outcome_addSpan hadd
      rw [hrun]
      exact hlayout
    · obtain ⟨f, hrun⟩ := h.outcome_addSpan_fault hadd
      rw [hrun]
      exact h
  | reserve size align boundary =>
    show ((Arena.reserve size align boundary).outcome a).2.Layout
    by_cases hargs : Reservable size align boundary
    · rcases h.outcome_reserve hargs with ⟨hrun, -⟩ | ⟨_, _, _, a', hrun, -, -, hlayout, -⟩
      · rw [hrun]
        exact h
      · rw [hrun]
        exact hlayout
    · obtain ⟨f, hrun⟩ := outcome_reserve_fault (a := a) hargs
      rw [hrun]
      exact h
  | release start size =>
    show ((Op.release start size).perform.outcome a).2.Layout
    rw [Op.perform, outcome_then_none]
    by_cases hblock : (start, size) ∈ a.reserved.entries
    · obtain ⟨a', hrun, hlayout, -⟩ := h.outcome_release hblock
      rw [hrun]
      exact hlayout
    · obtain ⟨f, hrun⟩ := outcome_release_fault hblock
      rw [hrun]
      exact h

/-- **A history keeps the layout.** -/
theorem foldl_next (h : a.Layout) (history : List Op) : (history.foldl Arena.next a).Layout := by
  induction history generalizing a with
  | nil => exact h
  | cons op rest ih =>
    apply ih
    exact h.next op

/-- **Every arena that a history leads to is laid out.** -/
theorem after (history : List Op) : (Arena.after history).Layout :=
  Layout.empty.foldl_next history

/-! ### What is reserved -/

/-- The bytes in use are those of the reserved blocks. -/
theorem exists_inUseBytes (h : a.Layout) :
    ∃ w, a.inUseBytes = .ok w ∧ w.toNat = a.reserved.total ∧
      a.spanBytes.toNat = a.freeBytes.toNat + w.toNat := by
  have hspan := h.spanBytes_eq
  have hfree := h.freeBytes_eq
  have htotal := h.total_eq
  obtain ⟨w, hsub, heq⟩ := Checked.exists_sub (a := a.spanBytes) (b := a.freeBytes) (by omega)
  refine ⟨w, hsub, ?_, heq⟩
  omega

end Layout

/-! ### Tiles -/

/-- The free extents and the reserved blocks. -/
def tiles (a : Arena) : List (Address × Word) := a.free.entries ++ a.reserved.entries

/-- One stretch lies inside another as a whole. -/
def Inside (x s : Address × Word) : Prop := s.1.toNat ≤ x.1.toNat ∧ stopOf x ≤ stopOf s

/-- Whether it does is decided in `Nat`. -/
instance (x s : Address × Word) : Decidable (Inside x s) := inferInstanceAs (Decidable (_ ∧ _))

/-- An arena whose free extents and reserved blocks tile its spans. -/
structure Tiled (a : Arena) : Prop where
  /-- Spans have bytes. -/
  span_pos : ∀ s ∈ a.spans.entries, 0 < s.2.toNat
  /-- Spans end at or below the greatest word. -/
  span_stop : ∀ s ∈ a.spans.entries, stopOf s ≤ UInt64.size - 1
  /-- No two spans meet. -/
  span_apart : a.spans.entries.Pairwise fun s t => stopOf s ≤ t.1.toNat
  /-- Tiles have bytes. -/
  tile_pos : ∀ x ∈ a.tiles, 0 < x.2.toNat
  /-- No two tiles meet. -/
  tile_apart : a.tiles.Pairwise fun x y => stopOf x ≤ y.1.toNat ∨ stopOf y ≤ x.1.toNat
  /-- Every tile lies inside exactly one span. -/
  tile_home : ∀ x ∈ a.tiles, ∃! s, s ∈ a.spans.entries ∧ Inside x s
  /-- Every byte of a span is one of a tile. -/
  covered : ∀ s ∈ a.spans.entries, ∀ n, Holds s n → ∃ x ∈ a.tiles, Holds x n
  /-- No two free extents of one span touch. -/
  joined : ∀ s ∈ a.spans.entries, ∀ x ∈ a.free.entries, ∀ y ∈ a.free.entries,
    Inside x s → Inside y s → stopOf x ≠ y.1.toNat
  /-- The first counter is the sum of the lengths of the spans. -/
  spanBytes_eq : a.spanBytes.toNat = (a.spans.entries.map fun s => s.2.toNat).sum
  /-- The second counter is the sum of the lengths of the free extents. -/
  freeBytes_eq : a.freeBytes.toNat = (a.free.entries.map fun x => x.2.toNat).sum
  /-- The bytes in use are the sum of the lengths of the blocks. -/
  inUseBytes_eq : ∃ w, a.inUseBytes = .ok w ∧
    w.toNat = (a.reserved.entries.map fun r => r.2.toNat).sum

/-- The entries of a spaced map lie apart, in the order of the map. -/
theorem pairwise_of_spaced {m : AddressMap Word} (h : m.Spaced stopOf) :
    m.entries.Pairwise fun x y => stopOf x ≤ y.1.toNat := by
  apply m.ordered.imp_of_mem
  intro x y hx hy hlt
  exact h x hx y hy hlt

namespace Layout

variable {s t x y r : Address × Word}

/-- A free extent and a block lie apart. -/
theorem free_apart_block (h : a.Layout) (hx : x ∈ a.free.entries) (hr : r ∈ a.reserved.entries) :
    stopOf x ≤ r.1.toNat ∨ stopOf r ≤ x.1.toNat := by
  by_contra hmeet
  rw [not_or, Nat.not_le, Nat.not_le] at hmeet
  obtain ⟨n, hxn, hrn⟩ := (meet_iff (h.free_pos hx) (h.block_pos r hr)).2 hmeet.symm
  exact h.free_clear hx hxn ⟨r, hr, hrn⟩

/-- A stretch with bytes lies inside one span at most. -/
theorem span_unique (h : a.Layout) (hpos : 0 < x.2.toNat) (hs : s ∈ a.spans.entries)
    (ht : t ∈ a.spans.entries) (hxs : Inside x s) (hxt : Inside x t) : s = t := by
  have hx := holds_start hpos
  apply h.span_eq hs ht (n := x.1.toNat)
  · exact ⟨hxs.1, Nat.lt_of_lt_of_le hx.2 hxs.2⟩
  · exact ⟨hxt.1, Nat.lt_of_lt_of_le hx.2 hxt.2⟩

/-- Free extents of one span do not touch: where one ends, the span ends or a block starts. -/
theorem free_not_touching (h : a.Layout) (hs : s ∈ a.spans.entries) (hx : x ∈ a.free.entries)
    (hy : y ∈ a.free.entries) (hxs : Inside x s) (hys : Inside y s) : stopOf x ≠ y.1.toNat := by
  intro htouch
  obtain ⟨t, ht, hgap⟩ := h.free_gap x hx
  have hst : s = t := h.span_unique hgap.pos hs ht hxs ⟨hgap.start_le, hgap.stop_le⟩
  have hyfirst := holds_start (h.free_pos hy)
  subst hst
  rcases hgap.above with hedge | hblock
  · have hhigh := hys.2
    have := hyfirst.2
    omega
  · rw [htouch] at hblock
    exact h.free_clear hy hyfirst hblock

/-- The tiles of a layout do not meet. -/
theorem tiles_apart (h : a.Layout) :
    a.tiles.Pairwise fun x y => stopOf x ≤ y.1.toNat ∨ stopOf y ≤ x.1.toNat := by
  rw [tiles, List.pairwise_append]
  refine ⟨?_, ?_, ?_⟩
  · exact (pairwise_of_spaced h.free_apart).imp Or.inl
  · exact (pairwise_of_spaced h.block_apart).imp Or.inl
  · intro x hx r hr
    exact h.free_apart_block hx hr

/-- Every tile of a layout lies inside a span. -/
theorem exists_home (h : a.Layout) (hx : x ∈ a.tiles) : ∃ s ∈ a.spans.entries, Inside x s := by
  rcases List.mem_append.1 hx with hx | hx
  · obtain ⟨s, hs, hgap⟩ := h.free_gap x hx
    exact ⟨s, hs, hgap.start_le, hgap.stop_le⟩
  · exact h.block_home x hx

/-- Every tile of a layout has bytes. -/
theorem tiles_pos (h : a.Layout) (hx : x ∈ a.tiles) : 0 < x.2.toNat := by
  rcases List.mem_append.1 hx with hx | hx
  · exact h.free_pos hx
  · exact h.block_pos x hx

/-- What is laid out is tiled. -/
theorem tiled (h : a.Layout) : a.Tiled where
  span_pos := h.span_pos
  span_stop := by
    intro s hs
    exact Nat.le_sub_one_of_lt (h.span_stop s hs)
  span_apart := pairwise_of_spaced h.span_apart
  tile_pos := by
    intro x hx
    exact h.tiles_pos hx
  tile_apart := h.tiles_apart
  tile_home := by
    intro x hx
    obtain ⟨s, hs, hin⟩ := h.exists_home hx
    refine ⟨s, ⟨hs, hin⟩, ?_⟩
    rintro t ⟨ht, hin'⟩
    exact h.span_unique (h.tiles_pos hx) ht hs hin' hin
  covered := by
    intro s hs n hn
    rcases h.covered s hs n hn with ⟨x, hx, hxn⟩ | ⟨x, hx, hxn⟩
    · exact ⟨x, List.mem_append_right _ hx, hxn⟩
    · exact ⟨x, List.mem_append_left _ hx, hxn⟩
  joined := by
    intro s hs x hx y hy hxs hys
    exact h.free_not_touching hs hx hy hxs hys
  spanBytes_eq := h.spanBytes_eq
  freeBytes_eq := h.freeBytes_eq
  inUseBytes_eq := by
    obtain ⟨w, hw, heq, -⟩ := h.exists_inUseBytes
    exact ⟨w, hw, heq⟩

end Layout

/-- **Free extents and blocks tile the spans after every history**, whatever its operations ask for
and wherever they stop at a fault. -/
theorem tiled_after (history : List Op) : (after history).Tiled := (Layout.after history).tiled

/-- Two spans that touch stay two free extents: a block comes back between them, an overlapping
span is refused, and so is a release of half a block. -/
example :
    let history : List Op :=
      [.addSpan ⟨⟨4096⟩, 256⟩, .addSpan ⟨⟨4352⟩, 256⟩, .reserve 256 16 0, .reserve 64 16 0,
        .addSpan ⟨⟨4500⟩, 16⟩, .release ⟨4352⟩ 32, .release ⟨4096⟩ 256]
    (after history).free.entries = [(⟨4096⟩, 256), (⟨4416⟩, 192)] := by
  decide +kernel

end BusPool.Arena
