import BusPool.Proofs.AddressMap
import BusPool.Proofs.Attempt
import BusPool.Segment.Index

/-!
# An index of segments that lie apart

What holds of an index into which only segments with bytes were inserted. Its segments lie apart,
where a segment that reaches past the top of the bus counts as ending with the greatest word
(**`SegmentIndex.Placed`**). A segment is inserted when its extent overlaps none in the index, and
refused without any change when it does (**`Placed.outcome_insert`**); looking at the two
neighbours decides it for all.

What overlaps no segment takes the place of none that a lookup could find
(**`Placed.keeps_adding`**). The single candidate that a lookup considers is then the segment that
contains the address, if there is one (**`Placed.segmentAt?_eq_some_iff`**,
**`Placed.segmentAt?_eq_some_iff_filter`**).
-/

namespace BusPool.SegmentIndex

open AddressMap Attempt

variable {τ : Type} {i : SegmentIndex τ}

/-- One past the last address of an indexed segment, or the greatest word. -/
def segmentStop (entry : Address × Segment τ) : Nat := entry.2.extent.endWord.toNat

/-- An index of segments with bytes. -/
structure Placed (i : SegmentIndex τ) : Prop where
  /-- Each segment is kept at its first address. -/
  start_eq : ∀ x ∈ i.segments.entries, x.2.extent.start = x.1
  /-- Segments have bytes. -/
  pos : ∀ x ∈ i.segments.entries, 0 < x.2.extent.len.toNat
  /-- Segments lie apart. -/
  apart : i.segments.Spaced segmentStop

/-- The index with one more segment, in place of one at the same address. -/
def adding (i : SegmentIndex τ) (segment : Segment τ) : SegmentIndex τ :=
  ⟨i.segments.insert segment.extent.start segment⟩

/-- A segment at a new address is put to the others. -/
theorem perm_toList_adding {segment : Segment τ}
    (hnew : ∀ other, (segment.extent.start, other) ∉ i.segments.entries) :
    (i.adding segment).toList.Perm (segment :: i.toList) := by
  have hperm := (perm_insert i.segments segment.extent.start segment).map Prod.snd
  rwa [erase_of_not_mem hnew] at hperm

/-- Every segment that an address is looked up in stays in the index. A segment at the greatest
word is looked up at no address, because it counts as ending where it starts. -/
def Keeps (i j : SegmentIndex τ) : Prop :=
  ∀ x ∈ i.segments.entries, x.1.toNat < segmentStop x → x ∈ j.segments.entries

/-- An index keeps its own segments. -/
theorem Keeps.refl (i : SegmentIndex τ) : i.Keeps i := fun _ hx _ => hx

/-- The extents of the index. -/
theorem mem_extents {e : Extent} : e ∈ i.extents ↔ ∃ x ∈ i.segments.entries, x.2.extent = e := by
  simp [extents, toList, values]

/-- No extent ends before it starts. -/
theorem start_le_endWord (e : Extent) : e.start.toNat ≤ e.endWord.toNat := by
  have := e.start.toNat_lt
  rw [Extent.toNat_endWord]
  omega

/-- Overlapping a segment that is kept at its first address, in terms of that address. -/
theorem overlaps_iff_of_start {x : Address × Segment τ} (hx : x.2.extent.start = x.1) (e : Extent) :
    x.2.extent.overlaps e = true ↔
      x.1.toNat < e.endWord.toNat ∧ e.start.toNat < segmentStop x := by
  rw [Extent.overlaps_iff, hx]
  exact Iff.rfl

/-- **What an insertion can do**, whatever the index. A segment that overlaps one of its neighbours
is refused and changes nothing; any other is put at its first address. -/
theorem outcome_insert_cases (i : SegmentIndex τ) (segment : Segment τ) :
    (∃ x ∈ i.segments.neighbours segment.extent.start,
      x.2.extent.overlaps segment.extent = true ∧ (insert segment).outcome i =
        (.error (.segmentOverlaps segment.extent x.2.extent), i)) ∨
    ((∀ x ∈ i.segments.neighbours segment.extent.start,
      x.2.extent.overlaps segment.extent = false) ∧
      (insert segment).outcome i = (.ok (), i.adding segment)) := by
  unfold insert
  simp only [outcome_get_bind]
  cases hnear : demandApart ((i.segments.neighbours segment.extent.start).map
      fun entry => entry.2.extent) segment.extent (.segmentOverlaps segment.extent) with
  | error f =>
    obtain ⟨e, he, hoverlap, rfl⟩ := exists_of_demandApart_eq_error hnear
    obtain ⟨x, hx, rfl⟩ := List.mem_map.1 he
    exact .inl ⟨x, hx, hoverlap, outcome_error_bind⟩
  | ok =>
    refine .inr ⟨fun x hx => ?_, ?_⟩
    · exact demandApart_eq_ok_iff.1 hnear _ (List.mem_map_of_mem hx)
    · rw [outcome_ok_bind, outcome_modify, adding]

namespace Placed

variable {segment : Segment τ} {x : Address × Segment τ} {addr : Address}

/-- The index without segments. -/
theorem empty : (SegmentIndex.empty : SegmentIndex τ).Placed where
  start_eq := by intro x hx; cases hx
  pos := by intro x hx; cases hx
  apart := spaced_empty _

/-- A segment ends after its first address, unless that is the greatest word. -/
private theorem full (h : i.Placed) :
    ∀ x ∈ i.segments.entries, x.1.toNat < segmentStop x ∨ UInt64.size ≤ segmentStop x + 1 := by
  intro x hx
  have hpos := h.pos x hx
  have hkey := congrArg Address.toNat (h.start_eq x hx)
  have hsize := Word.size_eq
  rw [segmentStop, Extent.toNat_endWord]
  omega

/-- Overlapping an indexed segment, in terms of where that is kept. -/
theorem overlaps_iff (h : i.Placed) (hx : x ∈ i.segments.entries) (e : Extent) :
    x.2.extent.overlaps e = true ↔
      x.1.toNat < e.endWord.toNat ∧ e.start.toNat < segmentStop x :=
  overlaps_iff_of_start (h.start_eq x hx) e

/-- **A segment is inserted exactly when it overlaps no other.** Otherwise nothing changes. -/
theorem outcome_insert (h : i.Placed) (segment : Segment τ)
    (hpos : 0 < segment.extent.len.toNat) :
    (∃ e ∈ i.extents, e.overlaps segment.extent = true ∧
      (insert segment).outcome i = (.error (.segmentOverlaps segment.extent e), i)) ∨
    ((∀ e ∈ i.extents, e.overlaps segment.extent = false) ∧
      (insert segment).outcome i = (.ok (), i.adding segment) ∧ (i.adding segment).Placed) := by
  rcases outcome_insert_cases i segment with ⟨x, hx, hoverlap, hrun⟩ | ⟨hnear, hrun⟩
  · exact .inl ⟨_, mem_extents.2 ⟨x, mem_of_mem_neighbours hx, rfl⟩, hoverlap, hrun⟩
  · have hclear : ∀ x ∈ i.segments.neighbours segment.extent.start,
        ¬(x.1.toNat < segmentStop (segment.extent.start, segment) ∧
          segment.extent.start.toNat < segmentStop x) := by
      intro x hx
      have hfalse := hnear x hx
      rwa [← Bool.not_eq_true, h.overlaps_iff (mem_of_mem_neighbours hx)] at hfalse
    have hlow := start_le_endWord segment.extent
    refine .inr ⟨fun e he => ?_, hrun, ?_, ?_, h.apart.insert h.full hlow hclear⟩
    · obtain ⟨x, hx, rfl⟩ := mem_extents.1 he
      rw [← Bool.not_eq_true, h.overlaps_iff hx]
      exact h.apart.not_meet h.full hlow hclear x hx
    · intro x hx
      rcases mem_insert.1 hx with rfl | ⟨hx, -⟩
      · rfl
      · exact h.start_eq x hx
    · intro x hx
      rcases mem_insert.1 hx with rfl | ⟨hx, -⟩
      · exact hpos
      · exact h.pos x hx

/-- Containing an address, in terms of where the segment is kept. -/
theorem contains_iff (h : i.Placed) (hx : x ∈ i.segments.entries) :
    x.2.extent.contains addr = true ↔ x.1.toNat ≤ addr.toNat ∧ addr.toNat < segmentStop x := by
  rw [Extent.contains_iff, h.start_eq x hx]
  exact Iff.rfl

/-- **A segment that overlaps no other takes the place of none**, unless that one is looked up at
no address at all. -/
theorem keeps_adding (h : i.Placed) (hpos : 0 < segment.extent.len.toNat)
    (hclear : ∀ e ∈ i.extents, e.overlaps segment.extent = false) : i.Keeps (i.adding segment) := by
  intro x hx hfull
  refine mem_insert.2 (.inr ⟨hx, fun hkey => ?_⟩)
  have hstop : segmentStop x < UInt64.size := Word.toNat_lt _
  have hsame := congrArg Address.toNat hkey
  have hoverlap : x.2.extent.overlaps segment.extent = true := by
    rw [h.overlaps_iff hx, Extent.toNat_endWord]
    omega
  rw [hclear _ (mem_extents.2 ⟨x, hx, rfl⟩)] at hoverlap
  cases hoverlap

/-- A segment on the bus that overlaps no other is new at its first address. -/
theorem not_mem_of_clear (h : i.Placed) (hpos : 0 < segment.extent.len.toNat)
    (hstop : segment.extent.start.toNat + segment.extent.len.toNat < UInt64.size)
    (hclear : ∀ e ∈ i.extents, e.overlaps segment.extent = false) :
    ∀ other, (segment.extent.start, other) ∉ i.segments.entries := by
  intro other hx
  have hother := h.pos _ hx
  have hkey := congrArg Address.toNat (h.start_eq _ hx)
  have hfalse := hclear _ (mem_extents.2 ⟨_, hx, rfl⟩)
  rw [← Bool.not_eq_true, h.overlaps_iff hx] at hfalse
  apply hfalse
  rw [segmentStop, Extent.toNat_endWord, Extent.toNat_endWord]
  dsimp only at hother hkey ⊢
  omega

/-- **A lookup finds the segment that contains the address.** -/
theorem segmentAt?_eq_some_iff (h : i.Placed) :
    i.segmentAt? addr = some segment ↔
      ∃ x ∈ i.segments.entries, x.2 = segment ∧ x.1.toNat ≤ addr.toNat ∧
        addr.toNat < segmentStop x := by
  rw [segmentAt?, Option.filter_eq_some_iff, Option.map_eq_some_iff]
  constructor
  · rintro ⟨⟨x, hfloor, rfl⟩, hin⟩
    obtain ⟨hx, -, -⟩ := floor?_eq_some_iff.1 hfloor
    exact ⟨x, hx, rfl, (h.contains_iff hx).1 hin⟩
  · rintro ⟨x, hx, rfl, hlow, hhigh⟩
    exact ⟨⟨x, h.apart.floor?_of_holds hx hlow hhigh, rfl⟩, (h.contains_iff hx).2 ⟨hlow, hhigh⟩⟩

/-- **The lookup finds the one segment that contains the address**, if there is any. -/
theorem segmentAt?_eq_some_iff_filter (h : i.Placed) :
    i.segmentAt? addr = some segment ↔
      i.toList.filter (fun other => other.extent.contains addr) = [segment] := by
  constructor
  · intro hfound
    obtain ⟨x, hx, rfl, hlow, hhigh⟩ := h.segmentAt?_eq_some_iff.1 hfound
    have honly : i.segments.entries.filter (fun y => y.2.extent.contains addr) = [x] := by
      rw [← List.perm_singleton, List.perm_ext_iff_of_nodup
        ((nodup_entries i.segments).filter _) (List.pairwise_singleton _ x)]
      intro y
      rw [List.mem_filter, List.mem_singleton]
      constructor
      · rintro ⟨hy, hin⟩
        exact h.apart.eq_of_shared hy hx ((h.contains_iff hy).1 hin) ⟨hlow, hhigh⟩
      · rintro rfl
        exact ⟨hx, (h.contains_iff hx).2 ⟨hlow, hhigh⟩⟩
    rw [toList, values, List.filter_map]
    exact congrArg (List.map Prod.snd) honly
  · intro honly
    have hmem : segment ∈ i.toList.filter (fun other => other.extent.contains addr) := by
      simp [honly]
    obtain ⟨hlist, hin⟩ := List.mem_filter.1 hmem
    obtain ⟨x, hx, rfl⟩ := List.mem_map.1 hlist
    exact h.segmentAt?_eq_some_iff.2 ⟨x, hx, rfl, (h.contains_iff hx).1 hin⟩

end Placed

end BusPool.SegmentIndex
