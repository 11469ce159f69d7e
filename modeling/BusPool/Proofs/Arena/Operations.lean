import BusPool.Arena.History
import BusPool.Proofs.Arena.Carving
import BusPool.Proofs.Arena.Joining
import BusPool.Proofs.Attempt
import BusPool.Proofs.Placement

/-!
# What the operations of an arena do

Each operation either stops at a fault before it has changed anything, or finishes with a change
that keeps the layout. An added span is one that has bytes, ends on the bus and meets no other
(**`Layout.outcome_addSpan`**); a reservation takes the first free extent in which there is a place
(**`Layout.outcome_reserve`**); a release is one of exactly a reserved block
(**`Layout.outcome_release`**). No sum or difference on the way has no result: all counted bytes
are bytes of the spans, and those fit in a word.
-/

namespace BusPool.Arena

open AddressMap Attempt

variable {a : Arena}

/-! ### Adding a span -/

/-- A span that can be added. -/
structure Addable (a : Arena) (span : Extent) : Prop where
  /-- It has bytes. -/
  pos : 0 < span.len.toNat
  /-- It ends on the bus. -/
  stop : span.start.toNat + span.len.toNat < UInt64.size
  /-- It meets no span. -/
  apart : ∀ s ∈ a.spans.entries, (extentOf s).overlaps span = false

namespace Layout

variable {span : Extent} {s : Address × Word}

/-- Whether a new span on the bus meets an old one. -/
theorem overlaps_eq_false_iff (h : a.Layout) (hs : s ∈ a.spans.entries)
    (hstop : span.start.toNat + span.len.toNat < UInt64.size) :
    (extentOf s).overlaps span = false ↔
      ¬(s.1.toNat < span.start.toNat + span.len.toNat ∧ span.start.toNat < stopOf s) := by
  have hend : span.endWord.toNat = span.start.toNat + span.len.toNat :=
    toNat_endWord_extentOf (x := (span.start, span.len)) hstop
  rw [← Bool.not_eq_true, Extent.overlaps_iff, extentOf, hend,
    toNat_endWord_extentOf (h.span_stop s hs)]

/-- Every span has bytes, so that looking at the neighbours of an address is enough. -/
private theorem span_full (h : a.Layout) :
    ∀ s ∈ a.spans.entries, s.1.toNat < stopOf s ∨ UInt64.size ≤ stopOf s + 1 :=
  fun s hs => .inl (holds_start (h.span_pos s hs)).2

/-- The neighbours of a new span, as far as it matters whether they are met. -/
private theorem not_meet_neighbours (h : a.Layout)
    (hstop : span.start.toNat + span.len.toNat < UInt64.size)
    (hnear : ∀ s ∈ a.spans.neighbours span.start, (extentOf s).overlaps span = false) :
    ∀ s ∈ a.spans.neighbours span.start,
      ¬(s.1.toNat < stopOf (span.start, span.len) ∧ span.start.toNat < stopOf s) :=
  fun s hs => (h.overlaps_eq_false_iff (mem_of_mem_neighbours hs) hstop).1 (hnear s hs)

/-- A new span that meets none of its neighbours keeps the spans apart. -/
theorem spaced_insert (h : a.Layout) (hstop : span.start.toNat + span.len.toNat < UInt64.size)
    (hnear : ∀ s ∈ a.spans.neighbours span.start, (extentOf s).overlaps span = false) :
    (a.spans.insert span.start span.len).Spaced stopOf :=
  h.span_apart.insert h.span_full (Nat.le_add_right _ _) (h.not_meet_neighbours hstop hnear)

/-- A new span that meets none of its neighbours meets no span. -/
theorem addable_of_neighbours (h : a.Layout) (hpos : 0 < span.len.toNat)
    (hstop : span.start.toNat + span.len.toNat < UInt64.size)
    (hnear : ∀ s ∈ a.spans.neighbours span.start, (extentOf s).overlaps span = false) :
    a.Addable span := by
  refine ⟨hpos, hstop, fun s hs => (h.overlaps_eq_false_iff hs hstop).2 ?_⟩
  exact h.span_apart.not_meet h.span_full (Nat.le_add_right _ _)
    (h.not_meet_neighbours hstop hnear) s hs

/-- A span can be added when it has bytes, ends on the bus and shares no address with a span. -/
theorem addable_iff (h : a.Layout) : a.Addable span ↔ 0 < span.len.toNat ∧
    span.start.toNat + span.len.toNat < UInt64.size ∧
      ∀ s ∈ a.spans.entries, ¬Meet s (span.start, span.len) := by
  constructor
  · rintro ⟨hpos, hstop, hapart⟩
    refine ⟨hpos, hstop, fun s hs => ?_⟩
    rw [meet_iff (h.span_pos s hs) hpos]
    exact (h.overlaps_eq_false_iff hs hstop).1 (hapart s hs)
  · rintro ⟨hpos, hstop, hapart⟩
    refine ⟨hpos, hstop, fun s hs => (h.overlaps_eq_false_iff hs hstop).2 ?_⟩
    have hout := hapart s hs
    rwa [meet_iff (h.span_pos s hs) hpos] at hout

/-- There is no span where a span can be added. -/
theorem span_not_mem (h : a.Layout) (hadd : a.Addable span) :
    ∀ v, (span.start, v) ∉ a.spans.entries := by
  intro v hv
  refine (h.overlaps_eq_false_iff hv hadd.stop).1 (hadd.apart _ hv) ⟨?_, ?_⟩
  · exact Nat.lt_add_of_pos_right hadd.pos
  · exact Nat.lt_add_of_pos_right (h.span_pos _ hv)

/-- All spans together have fewer bytes than there are addresses, also with a span that can be
added. -/
theorem total_add_lt (h : a.Layout) (hadd : a.Addable span) :
    span.len.toNat + a.spans.total < UInt64.size := by
  have hspaced := h.spaced_insert hadd.stop fun s hs => hadd.apart s (mem_of_mem_neighbours hs)
  have hstop : ∀ s ∈ (a.spans.insert span.start span.len).entries, stopOf s ≤ UInt64.size - 1 := by
    intro s hs
    rcases mem_insert.1 hs with rfl | ⟨hs, -⟩
    · exact Nat.le_sub_one_of_lt hadd.stop
    · exact Nat.le_sub_one_of_lt (h.span_stop s hs)
  have hsize := Word.size_eq
  have hle := hspaced.total_le hstop
  rw [total_insert (h.span_not_mem hadd)] at hle
  omega

/-- A span that can be added is added. -/
theorem outcome_addSpan (h : a.Layout) (hadd : a.Addable span) :
    ∃ a', (Arena.addSpan span).outcome a = (.ok (), a') ∧ a'.Layout ∧
      a'.spans = a.spans.insert span.start span.len ∧ a'.reserved = a.reserved := by
  have hnear : ∀ s ∈ a.spans.neighbours span.start, (extentOf s).overlaps span = false :=
    fun s hs => hadd.apart s (mem_of_mem_neighbours hs)
  have htotal := h.total_add_lt hadd
  have hspan := h.spanBytes_eq
  have hfree := h.freeBytes_eq
  have heq := h.total_eq
  have hpos : demand (0 < span.len) (.emptySpan span.start) = .ok () := demand_pos hadd.pos _
  have hstop : demand (Word.add? span.start.word span.len).isSome (.spanWraps span) = .ok () := by
    have hsum : Word.add? span.start.word span.len = some _ := if_pos hadd.stop
    rw [hsum]
    rfl
  have hapart : demandApart ((a.spans.neighbours span.start).map extentOf) span
      (.spanOverlaps span) = .ok () := by
    refine demandApart_eq_ok_iff.2 fun other hother => ?_
    obtain ⟨s, hs, rfl⟩ := List.mem_map.1 hother
    exact hnear s hs
  obtain ⟨spanBytes, hspanBytes, hspanEq⟩ :=
    Checked.exists_add (a := a.spanBytes) (b := span.len) (by omega)
  obtain ⟨freeBytes, hfreeBytes, hfreeEq⟩ :=
    Checked.exists_add (a := a.freeBytes) (b := span.len) (by omega)
  refine ⟨⟨a.spans.insert span.start span.len, a.free.insert span.start span.len, a.reserved,
    spanBytes, freeBytes⟩, ?_, ?_, rfl, rfl⟩
  · unfold Arena.addSpan
    simp only [hpos, hstop, hapart, outcome_ok_bind, outcome_get_bind, outcome_modify_bind,
      hspanBytes, hfreeBytes, outcome_modify]
  · have hentry : 0 < (span.start, span.len).2.toNat := hadd.pos
    refine h.addSpan hentry hadd.stop (h.span_not_mem hadd) (h.spaced_insert hadd.stop hnear) ?_ ?_
    · dsimp only
      omega
    · dsimp only
      omega

/-- A span that cannot be added is refused before anything has changed. -/
theorem outcome_addSpan_fault (h : a.Layout) (hadd : ¬a.Addable span) :
    ∃ f, (Arena.addSpan span).outcome a = (.error f, a) := by
  unfold Arena.addSpan
  cases hpos : demand (0 < span.len) (.emptySpan span.start) with
  | error f => exact ⟨f, outcome_error_bind⟩
  | ok =>
    rw [outcome_ok_bind]
    cases hstop : demand (Word.add? span.start.word span.len).isSome (.spanWraps span) with
    | error f => exact ⟨f, outcome_error_bind⟩
    | ok =>
      rw [outcome_ok_bind, outcome_get_bind]
      cases hnear : demandApart ((a.spans.neighbours span.start).map extentOf) span
          (.spanOverlaps span) with
      | error f => exact ⟨f, outcome_error_bind⟩
      | ok =>
        refine absurd (h.addable_of_neighbours ?_ ?_ fun s hs => ?_) hadd
        · exact pos_iff.1 (of_decide_eq_true (demand_eq_ok.1 hpos))
        · by_contra hwraps
          have := demand_eq_ok.1 hstop
          rw [Word.add?_eq_none_iff.2 (Nat.not_lt.1 hwraps)] at this
          cases this
        · exact demandApart_eq_ok_iff.1 hnear _ (List.mem_map_of_mem hs)

end Layout

/-- A span that reaches past the top of the bus is refused, whatever the arena. -/
theorem outcome_addSpan_wraps {span : Extent} (hpos : 0 < span.len.toNat)
    (hwraps : UInt64.size ≤ span.start.toNat + span.len.toNat) :
    (addSpan span).outcome a = (.error (.spanWraps span), a) := by
  have hsize : demand (0 < span.len) (.emptySpan span.start) = .ok () := demand_pos hpos _
  have hstop : demand (Word.add? span.start.word span.len).isSome (.spanWraps span) =
      .error (.spanWraps span) := by
    rw [Word.add?_eq_none_iff.2 hwraps]
    rfl
  unfold addSpan
  simp only [hsize, hstop, outcome_ok_bind, outcome_error_bind]

/-! ### Reserving a block -/

/-- What a reservation may ask for. -/
structure Reservable (size align boundary : Word) : Prop where
  /-- A block has bytes. -/
  pos : 0 < size.toNat
  /-- The alignment is a power of two. -/
  align_pow : Word.isPowerOfTwo align = true
  /-- A boundary is a power of two. -/
  boundary_pow : boundary ≠ 0 → Word.isPowerOfTwo boundary = true
  /-- A block is no larger than the boundary. -/
  size_le : boundary ≠ 0 → size.toNat ≤ boundary.toNat

/-- Where in a free extent a block can be placed. -/
def placeIn (size align boundary : Word) (x : Address × Word) : Option Address :=
  Placement.lowest? x.1 (x.1.word + x.2) size align boundary

section reserve

variable {size align boundary : Word} {x : Address × Word} {spot : Address}

/-- The end of a free extent on the bus is a word. -/
theorem toNat_limit (hx : stopOf x < UInt64.size) : (x.1.word + x.2).toNat = stopOf x :=
  (Word.add?_eq_some_iff.1 (if_pos hx)).symm

/-- A place in a free extent lies in it, with the whole block. -/
theorem placeIn_bounds (hargs : Reservable size align boundary) (hx : stopOf x < UInt64.size)
    (h : placeIn size align boundary x = some spot) :
    x.1.toNat ≤ spot.toNat ∧ spot.toNat + size.toNat ≤ stopOf x := by
  rw [← toNat_limit hx]
  exact Placement.lowest?_bounds hargs.boundary_pow h

/-- The search goes through the free extents in order and ends at the first place. -/
theorem firstFit_eq {xs : List (Address × Word)} (hstop : ∀ x ∈ xs, stopOf x < UInt64.size) :
    firstFit size align boundary (xs.map extentOf) = .ok (xs.findSome? fun x =>
      (placeIn size align boundary x).map fun spot => (extentOf x, spot)) := by
  induction xs with
  | nil => rfl
  | cons x xs ih =>
    have hrest := ih fun y hy => hstop y (List.mem_cons_of_mem _ hy)
    have hsum : Word.add? x.1.word x.2 = some _ := if_pos (hstop x List.mem_cons_self)
    have hlimit : Checked.add x.1.word x.2 = .ok (x.1.word + x.2) := by
      rw [Checked.add, hsum]
      rfl
    rw [List.map_cons, firstFit, List.findSome?_cons]
    refine bind_eq_ok_iff.2 ⟨x.1.word + x.2, hlimit, ?_⟩
    simp only [placeIn, extentOf]
    cases Placement.lowest? x.1 (x.1.word + x.2) size align boundary with
    | none => exact hrest
    | some spot => rfl

/-- A search that finds nothing has found no place in any free extent. -/
theorem firstFit_eq_none {m : AddressMap Word} (hstop : ∀ x ∈ m.entries, stopOf x < UInt64.size)
    (h : firstFit size align boundary (m.entries.map extentOf) = .ok none) :
    ∀ x ∈ m.entries, placeIn size align boundary x = none := by
  rw [firstFit_eq hstop, Except.ok.injEq, List.findSome?_eq_none_iff] at h
  intro x hx
  exact Option.map_eq_none_iff.1 (h x hx)

/-- A search that finds a place has found none in any lower free extent. -/
theorem firstFit_eq_some {m : AddressMap Word} (hstop : ∀ x ∈ m.entries, stopOf x < UInt64.size)
    {region : Extent} (h : firstFit size align boundary (m.entries.map extentOf) =
      .ok (some (region, spot))) :
    ∃ x ∈ m.entries, region = extentOf x ∧ placeIn size align boundary x = some spot ∧
      ∀ y ∈ m.entries, y.1 < x.1 → placeIn size align boundary y = none := by
  rw [firstFit_eq hstop, Except.ok.injEq, List.findSome?_eq_some_iff] at h
  obtain ⟨front, x, back, hsplit, hx, hfront⟩ := h
  obtain ⟨_, hplace, hfound⟩ := Option.map_eq_some_iff.1 hx
  cases hfound
  refine ⟨x, by rw [hsplit]; simp, rfl, hplace, fun y hy hlt => ?_⟩
  have ordered := m.ordered
  rw [hsplit] at ordered hy
  obtain ⟨-, hback, -⟩ := List.pairwise_append.1 ordered
  rcases List.mem_append.1 hy with hy | hy
  · exact Option.map_eq_none_iff.1 (hfront y hy)
  · rcases List.mem_cons.1 hy with rfl | hy
    · exact absurd hlt (Nat.lt_irrefl _)
    · exact absurd hlt (Nat.lt_asymm ((List.pairwise_cons.1 hback).1 y hy))

namespace Layout

/-- A block is taken out of a free extent that it lies in. -/
theorem outcome_carve (h : a.Layout) (hx : x ∈ a.free.entries) (hsize : 0 < size.toNat)
    (hlow : x.1.toNat ≤ spot.toNat) (hhigh : spot.toNat + size.toNat ≤ stopOf x) :
    ∃ a', (Arena.carve (extentOf x) spot size).outcome a = (.ok (), a') ∧ a'.Layout ∧
      a'.spans = a.spans ∧ a'.reserved = a.reserved.insert spot size := by
  have hstop := h.free_stop hx
  have hfree := h.freeBytes_eq
  have htotal := total_erase hx
  unfold stopOf at hhigh hstop
  obtain ⟨regionEnd, hregion, hregionEq⟩ := Checked.exists_add (a := x.1.word) (b := x.2) hstop
  obtain ⟨blockEnd, hblock, hblockEq⟩ := Checked.exists_add (a := spot.word) (b := size)
    (Nat.lt_of_le_of_lt hhigh hstop)
  obtain ⟨head, hhead, hheadEq⟩ := Checked.exists_sub (a := spot.word) (b := x.1.word) hlow
  obtain ⟨tail, htail, htailEq⟩ := Checked.exists_sub (a := regionEnd) (b := blockEnd)
    (by rw [← hregionEq, ← hblockEq]; exact hhigh)
  obtain ⟨freeBytes, hbytes, hbytesEq⟩ :=
    Checked.exists_sub (a := a.freeBytes) (b := size) (by omega)
  have hcut : Cut x.1 x.2 spot ⟨blockEnd⟩ size head tail :=
    ⟨hsize, hblockEq.symm, hheadEq, hregionEq.trans htailEq⟩
  refine ⟨⟨a.spans, remnants a.free x.1 head ⟨blockEnd⟩ tail, a.reserved.insert spot size,
    a.spanBytes, freeBytes⟩, ?_, h.carve hx hcut hbytesEq, rfl, rfl⟩
  unfold Arena.carve
  simp only [extentOf, hregion, hblock, Address.sub, hhead, outcome_ok_bind, outcome_modify_bind]
  by_cases hlower : 0 < head <;> by_cases hupper : 0 < tail <;>
    simp only [hlower, hupper, htail, hbytes, if_true, if_false, outcome_ok_bind,
      outcome_modify_bind, outcome_get_bind, outcome_modify, remnants, insertPos]

/-- **A reservation takes the first free extent with a place.** Where there is no place at all it
says so, and changes nothing. -/
theorem outcome_reserve (h : a.Layout) (hargs : Reservable size align boundary) :
    ((Arena.reserve size align boundary).outcome a = (.ok none, a) ∧
      ∀ x ∈ a.free.entries, placeIn size align boundary x = none) ∨
    ∃ x ∈ a.free.entries, ∃ spot a',
      (Arena.reserve size align boundary).outcome a = (.ok (some spot), a') ∧
      placeIn size align boundary x = some spot ∧
      (∀ y ∈ a.free.entries, y.1 < x.1 → placeIn size align boundary y = none) ∧
      a'.Layout ∧ a'.spans = a.spans ∧ a'.reserved = a.reserved.insert spot size := by
  have hstop : ∀ x ∈ a.free.entries, stopOf x < UInt64.size := fun x hx => h.free_stop hx
  have hsize : demand (0 < size) .zeroSize = .ok () := demand_pos hargs.pos _
  have halign : demand (Word.isPowerOfTwo align) .alignNotPowerOfTwo = .ok () :=
    demand_eq_ok.2 hargs.align_pow
  have hbound : demand (boundary == 0 || (Word.isPowerOfTwo boundary && size ≤ boundary))
      .badBoundary = .ok () := by
    rw [demand_eq_ok, Bool.or_eq_true, beq_iff_eq, Bool.and_eq_true]
    by_cases hzero : boundary = 0
    · exact .inl hzero
    · exact .inr ⟨hargs.boundary_pow hzero,
        decide_eq_true (UInt64.le_iff_toNat_le.2 (hargs.size_le hzero))⟩
  obtain ⟨found, hfound⟩ : ∃ found, firstFit size align boundary a.freeExtents = .ok found :=
    ⟨_, firstFit_eq hstop⟩
  cases found with
  | none =>
    refine .inl ⟨?_, firstFit_eq_none hstop hfound⟩
    unfold Arena.reserve
    simp only [hsize, halign, hbound, hfound, outcome_ok_bind, outcome_get_bind, outcome_pure]
  | some place =>
    obtain ⟨region, spot⟩ := place
    obtain ⟨x, hx, rfl, hplace, hlower⟩ := firstFit_eq_some hstop hfound
    obtain ⟨hlow, hhigh⟩ := placeIn_bounds hargs (hstop x hx) hplace
    obtain ⟨a', hcarve, hkept⟩ := h.outcome_carve hx hargs.pos hlow hhigh
    refine .inr ⟨x, hx, spot, a', ?_, hplace, hlower, hkept⟩
    unfold Arena.reserve
    simp only [hsize, halign, hbound, hfound, outcome_ok_bind, outcome_get_bind]
    rw [outcome_bind_ok hcarve, outcome_pure]

end Layout

end reserve

/-! ### Releasing a block -/

section release

variable {start : Address} {size : Word} {span : Address × Word}

/-- Taking a neighbour out of the free extents, if there is one, adds its length. -/
theorem outcome_absorb (len : Word) (neighbour : Option Extent)
    (hlen : len.toNat + lenOf neighbour < UInt64.size) :
    ∃ sum, (absorb len neighbour).outcome a =
        (.ok sum, { a with free := a.free.eraseAt neighbour }) ∧
      sum.toNat = len.toNat + lenOf neighbour := by
  cases neighbour with
  | none => exact ⟨len, rfl, rfl⟩
  | some e =>
    obtain ⟨sum, hsum, heq⟩ := Checked.exists_add (a := len) (b := e.len) hlen
    refine ⟨sum, ?_, heq.symm⟩
    unfold absorb
    simp only [outcome_modify_bind, hsum, outcome_lift]
    rfl

/-- Only a reserved block passes the check before a release. -/
theorem demandReserved_eq_ok_iff :
    a.demandReserved ⟨start, size⟩ = .ok () ↔ (start, size) ∈ a.reserved.entries := by
  rw [demandReserved, ← get?_eq_some_iff]
  cases a.reserved.get? start with
  | some len => simp
  | none =>
    cases demandApart ((a.free.neighbours start).map extentOf) ⟨start, size⟩
      (.doubleFree ⟨start, size⟩) <;> simp [bind, Except.bind, throw, throwThe, MonadExceptOf.throw]

namespace Layout

/-- The span of a block is found. -/
theorem spanAround?_eq (h : a.Layout) (hs : span ∈ a.spans.entries) {stop : Word}
    (hlow : span.1.toNat ≤ start.toNat) (hhigh : stop.toNat ≤ stopOf span)
    (hpos : start.toNat < stop.toNat) : a.spanAround? start stop = some (extentOf span) := by
  have hend := toNat_endWord_extentOf (h.span_stop span hs)
  have hfloor := h.span_apart.floor?_of_holds hs hlow (Nat.lt_of_lt_of_le hpos hhigh)
  rw [spanAround?, hfloor, Option.map_some, Option.filter_some, if_pos]
  rw [Bool.and_eq_true, Extent.contains_iff, extentOf, hend, decide_eq_true_iff,
    UInt64.le_iff_toNat_le, hend]
  exact ⟨⟨hlow, Nat.lt_of_lt_of_le hpos hhigh⟩, hhigh⟩

/-- What starts in a free extent is released for the second time. -/
theorem demandReserved_of_free (h : a.Layout) {x : Address × Word} (hx : x ∈ a.free.entries)
    (hlow : x.1.toNat ≤ start.toNat) (hhigh : start.toNat < stopOf x) (hsize : 0 < size.toNat) :
    a.demandReserved ⟨start, size⟩ = .error (.doubleFree ⟨start, size⟩ (extentOf x)) := by
  have hstop := h.free_stop hx
  have hnone : a.reserved.get? start = none := by
    refine get?_eq_none_iff.2 fun len hblock => ?_
    exact h.free_clear hx ⟨hlow, hhigh⟩ ⟨_, hblock, holds_start (h.block_pos _ hblock)⟩
  have hfloor : a.free.floor? start = some x := h.free_apart.floor?_of_holds hx hlow hhigh
  have hoverlap : (extentOf x).overlaps ⟨start, size⟩ = true := by
    rw [Extent.overlaps_iff, extentOf, toNat_endWord_extentOf hstop, Extent.toNat_endWord]
    dsimp only
    omega
  have hmet : demandApart ((a.free.neighbours start).map extentOf) ⟨start, size⟩
      (.doubleFree ⟨start, size⟩) = .error (.doubleFree ⟨start, size⟩ (extentOf x)) := by
    rw [neighbours, hfloor, Option.toList_some, List.singleton_append, List.map_cons,
      demandApart_cons_of_overlaps hoverlap]
  rw [demandReserved, hnone]
  show demandApart _ _ _ >>= _ = _
  rw [hmet]
  rfl

/-- No free extent starts inside a block. -/
theorem stop_le_of_start_le (h : a.Layout) (hblock : (start, size) ∈ a.reserved.entries)
    {y : Address × Word} (hy : y ∈ a.free.entries) (hlow : start.toNat ≤ y.1.toNat) :
    stopOf (start, size) ≤ y.1.toNat := by
  by_contra hin
  exact h.free_clear hy (holds_start (h.free_pos hy)) ⟨_, hblock, hlow, Nat.not_le.1 hin⟩

/-- What is looked up below a block is the free extent that touches it from there. -/
theorem mem_touchingBelow?_iff (h : a.Layout) (hblock : (start, size) ∈ a.reserved.entries)
    {e : Extent} : e ∈ a.touchingBelow? (extentOf span) ⟨start, size⟩ ↔
      (e.start, e.len) ∈ a.free.entries ∧ stopOf (e.start, e.len) = start.toNat ∧
        span.1 ≠ start := by
  have hpos := h.block_pos _ hblock
  rw [touchingBelow?, Option.mem_def, Option.filter_eq_some_iff, Option.map_eq_some_iff,
    Bool.and_eq_true, beq_iff_eq, bne_iff_ne, ← UInt64.toNat_inj]
  constructor
  · rintro ⟨⟨x, hfloor, rfl⟩, hedge, hne⟩
    obtain ⟨hx, -, -⟩ := floor?_eq_some_iff.1 hfloor
    refine ⟨hx, ?_, hne.symm⟩
    show stopOf x = start.toNat
    rw [← toNat_endWord_extentOf (h.free_stop hx)]
    exact hedge
  · rintro ⟨hx, hedge, hne⟩
    refine ⟨⟨(e.start, e.len), floor?_eq_some_iff.2 ⟨hx, ?_, fun y hy hlow => ?_⟩, rfl⟩, ?_,
      hne.symm⟩
    · rw [Address.le_iff, ← hedge]
      exact Nat.le_add_right _ _
    · -- one in between would start at the block
      by_contra hlt
      have hnext := h.free_apart _ hx y hy (Nat.not_le.1 hlt)
      have hafter := h.stop_le_of_start_le hblock hy (hedge ▸ hnext)
      have hup : y.1.toNat ≤ start.toNat := hlow
      rw [stopOf_mk] at hafter
      dsimp only at hpos
      omega
    · rw [show e = ⟨(e.start, e.len).1, (e.start, e.len).2⟩ from rfl,
        toNat_endWord_extentOf (h.free_stop hx)]
      exact hedge

/-- What is looked up above a block is the free extent that touches it from there. -/
theorem mem_touchingAbove?_iff (h : a.Layout) (hblock : (start, size) ∈ a.reserved.entries)
    (hs : span ∈ a.spans.entries) {stop : Word} (hstop : stop.toNat = stopOf (start, size))
    {e : Extent} : e ∈ a.touchingAbove? (extentOf span) start stop ↔
      (e.start, e.len) ∈ a.free.entries ∧ e.start.toNat = stopOf (start, size) ∧
        stopOf (start, size) ≠ stopOf span := by
  have hend : stop ≠ (extentOf span).endWord ↔ stop.toNat ≠ stopOf span := by
    rw [ne_eq, ← UInt64.toNat_inj, extentOf, toNat_endWord_extentOf (h.span_stop span hs)]
  rw [touchingAbove?, Option.mem_def, Option.filter_eq_some_iff, Option.map_eq_some_iff,
    Bool.and_eq_true, beq_iff_eq, bne_iff_ne, ← UInt64.toNat_inj, hend, hstop]
  constructor
  · rintro ⟨⟨x, hceil, rfl⟩, hedge, hne⟩
    exact ⟨(ceil?_eq_some_iff.1 hceil).1, hedge, hne⟩
  · rintro ⟨hx, hedge, hne⟩
    refine ⟨⟨(e.start, e.len), ceil?_eq_some_iff.2 ⟨hx, ?_, fun y hy hlow => ?_⟩, rfl⟩, hedge,
      hne⟩
    · rw [Address.le_iff]
      dsimp only
      rw [hedge]
      exact Nat.le_add_right _ _
    · rw [Address.le_iff]
      dsimp only
      rw [hedge]
      exact h.stop_le_of_start_le hblock hy hlow

/-- The free extents that are looked up around a block are the ones that it touches. -/
theorem touching (h : a.Layout) (hblock : (start, size) ∈ a.reserved.entries)
    (hs : span ∈ a.spans.entries) {stop : Word} (hstop : stop.toNat = stopOf (start, size)) :
    Touching a span start size (a.touchingBelow? (extentOf span) ⟨start, size⟩)
      (a.touchingAbove? (extentOf span) start stop) :=
  ⟨fun _ => h.mem_touchingBelow?_iff hblock, fun _ => h.mem_touchingAbove?_iff hblock hs hstop⟩

/-- **A reserved block is released.** -/
theorem outcome_release (h : a.Layout) (hblock : (start, size) ∈ a.reserved.entries) :
    ∃ a', (Arena.release start size).outcome a = (.ok (), a') ∧ a'.Layout ∧
      a'.spans = a.spans ∧ a'.reserved = a.reserved.erase start := by
  have hpos := h.block_pos _ hblock
  have hstopLt := h.block_stop hblock
  obtain ⟨span, hs, hhome⟩ := h.block_home _ hblock
  have hstop : Word.add? start.word size = some (start.word + size) := if_pos hstopLt
  have hstopEq : (start.word + size).toNat = stopOf (start, size) :=
    (Word.add?_eq_some_iff.1 hstop).symm
  have hspan : a.spanAround? start (start.word + size) = some (extentOf span) := by
    refine h.spanAround?_eq hs hhome.1 (hstopEq ▸ hhome.2) ?_
    rw [hstopEq]
    exact Nat.lt_add_of_pos_right hpos
  have htouch := h.touching hblock hs hstopEq
  generalize hbelow : a.touchingBelow? (extentOf span) ⟨start, size⟩ = below at htouch
  generalize habove : a.touchingAbove? (extentOf span) start (start.word + size) = above at htouch
  have hsize : demand (0 < size) .zeroSize = .ok () := demand_pos hpos _
  have hreserved : a.demandReserved ⟨start, size⟩ = .ok () := demandReserved_eq_ok_iff.2 hblock
  -- the block and what it touches are bytes of the spans
  have htotal := total_erase hblock
  have hrest := total_touching h hblock htouch
  have heq := h.total_eq
  have hlt := h.total_lt
  have hfree := h.freeBytes_eq
  dsimp only at hpos
  obtain ⟨len, hlen, hlenEq⟩ := outcome_absorb
    (a := { a with reserved := a.reserved.erase start }) size below (by omega)
  obtain ⟨sum, hsum, hsumEq⟩ := outcome_absorb
    (a := { a with reserved := a.reserved.erase start, free := a.free.eraseAt below }) len above
    (by omega)
  obtain ⟨freeBytes, hbytes, hbytesEq⟩ :=
    Checked.exists_add (a := a.freeBytes) (b := size) (by omega)
  refine ⟨⟨a.spans, joined a.free start below above sum, a.reserved.erase start, a.spanBytes,
    freeBytes⟩, ?_, ?_, rfl, rfl⟩
  · unfold Arena.release
    simp only [hsize, hstop, hspan, hreserved, outcome_ok_bind, outcome_get_bind, hbelow, habove,
      outcome_modify_bind]
    rw [outcome_bind_ok hlen, outcome_bind_ok hsum]
    simp only [outcome_modify_bind, outcome_get_bind, hbytes, outcome_ok_bind, outcome_modify]
    rfl
  · refine h.release hblock hs hhome htouch ?_ ?_
    · omega
    · omega

end Layout

/-- A release of anything but a reserved block stops at a fault before anything has changed. -/
theorem outcome_release_fault (hblock : (start, size) ∉ a.reserved.entries) :
    ∃ f, (Arena.release start size).outcome a = (.error f, a) := by
  unfold Arena.release
  cases demand (0 < size) .zeroSize with
  | error f => exact ⟨f, outcome_error_bind⟩
  | ok =>
    rw [outcome_ok_bind]
    cases Word.add? start.word size with
    | none => exact ⟨_, outcome_throw⟩
    | some stop =>
      simp only [outcome_get_bind]
      cases a.spanAround? start stop with
      | none => exact ⟨_, outcome_throw⟩
      | some span =>
        cases hreserved : a.demandReserved ⟨start, size⟩ with
        | error f => exact ⟨f, outcome_error_bind⟩
        | ok => exact absurd (demandReserved_eq_ok_iff.1 hreserved) hblock

end release

end BusPool.Arena
