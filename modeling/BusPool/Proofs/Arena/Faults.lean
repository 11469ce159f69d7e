import BusPool.Proofs.Arena.Histories

/-!
# The faults of an arena

When does an operation stop, and what does it say? **`Refuses`** is the whole list: twelve causes,
each with the condition under which it is the one. The conditions speak of all spans, all reserved
blocks and all free extents, whereas the operations look at two neighbours of an address
(**`demandApart_neighbours`**); the list is complete (**`Layout.refuses_or_returns`**) and every
entry of it is what happens (**`Refuses.outcome`**). Both together are
**`Layout.outcome_eq_error_iff`**.

Two things are read off the list. No cause is an arithmetic one (**`Refuses.not_isArithmetic`**):
after the checks every sum and every difference has a result. And an operation that stops leaves
the arena as it was. **`faults_exact`** says both of every arena that a history leads to, together
with the conditions under which spans are refused, releases accepted, and second releases told
from other mistakes. The one reservation is that a release of no bytes stops at the first check,
wherever it is made (**`empty_release_not_diagnosed`**).
-/

namespace BusPool

/-- The faults of checked arithmetic: an exact result is no word. -/
def Fault.isArithmetic : Fault → Bool
  | .addOverflow | .subOverflow | .mulOverflow | .zeroDivisor => true
  | _ => false

namespace Arena

open AddressMap Attempt

variable {a : Arena}

/-! ### Looking at two neighbours -/

/-- Stretches that end on the bus overlap as extents when they share an address. -/
theorem overlaps_iff_meet {x : Address × Word} {e : Extent} (hx : 0 < x.2.toNat)
    (hxs : stopOf x < UInt64.size) (he : 0 < e.len.toNat)
    (hes : e.start.toNat + e.len.toNat < UInt64.size) :
    (extentOf x).overlaps e = true ↔ Meet x (e.start, e.len) := by
  have hend : e.endWord.toNat = stopOf (e.start, e.len) :=
    toNat_endWord_extentOf (x := (e.start, e.len)) hes
  rw [meet_iff hx he, Extent.overlaps_iff, extentOf, hend, toNat_endWord_extentOf hxs]

/-- **The neighbours of its start tell whether an extent meets any entry**, and which is the first
one met. The entry below comes first; only if it is not met can the one above be the first. -/
theorem demandApart_neighbours {m : AddressMap Word} (hm : m.Spaced stopOf)
    (hpos : ∀ x ∈ m.entries, 0 < x.2.toNat) (hstop : ∀ x ∈ m.entries, stopOf x < UInt64.size)
    {e : Extent} (he : 0 < e.len.toNat) (hes : e.start.toNat + e.len.toNat < UInt64.size)
    (fault : Extent → Fault) :
    (demandApart ((m.neighbours e.start).map extentOf) e fault = .ok () ∧
      ∀ x ∈ m.entries, ¬Meet x (e.start, e.len)) ∨
    ∃ x, m.FirstMet (e.start, e.len) x ∧
      demandApart ((m.neighbours e.start).map extentOf) e fault = .error (fault (extentOf x)) := by
  have hoverlap : ∀ x ∈ m.entries, (extentOf x).overlaps e = true ↔ Meet x (e.start, e.len) :=
    fun x hx => overlaps_iff_meet (hpos x hx) (hstop x hx) he hes
  by_cases hbelow : ∃ x, m.floor? e.start = some x ∧ Meet x (e.start, e.len)
  · obtain ⟨x, hfloor, hmeet⟩ := hbelow
    refine .inr ⟨x, hm.firstMet_floor hfloor hmeet, ?_⟩
    have hmet := (hoverlap x (floor?_eq_some_iff.1 hfloor).1).2 hmeet
    simp [neighbours, hfloor, demandApart_cons_of_overlaps hmet]
  · have hlow : ∀ x, m.floor? e.start = some x → ¬Meet x (e.start, e.len) :=
      fun x hfloor hmeet => hbelow ⟨x, hfloor, hmeet⟩
    by_cases habove : ∃ x, m.ceil? e.start = some x ∧ Meet x (e.start, e.len)
    · obtain ⟨x, hceil, hmeet⟩ := habove
      refine .inr ⟨x, hm.firstMet_ceil hlow hceil hmeet, ?_⟩
      have hmet := (hoverlap x (ceil?_eq_some_iff.1 hceil).1).2 hmeet
      cases hfloor : m.floor? e.start with
      | none => simp [neighbours, hfloor, hceil, demandApart_cons_of_overlaps hmet]
      | some z =>
        have hz : (extentOf z).overlaps e = false := by
          rw [← Bool.not_eq_true, hoverlap z (floor?_eq_some_iff.1 hfloor).1]
          exact hlow z hfloor
        simp [neighbours, hfloor, hceil, demandApart_cons_of_apart hz,
          demandApart_cons_of_overlaps hmet]
    · have hnear : ∀ x ∈ m.neighbours e.start, ¬Meet x (e.start, e.len) := by
        intro x hx hmeet
        rcases List.mem_append.1 hx with hx | hx
        · exact hlow x (Option.mem_toList.1 hx) hmeet
        · exact habove ⟨x, Option.mem_toList.1 hx, hmeet⟩
      refine .inl ⟨demandApart_eq_ok_iff.2 fun other hother => ?_, fun x hx => ?_⟩
      · obtain ⟨x, hx, rfl⟩ := List.mem_map.1 hother
        rw [← Bool.not_eq_true, hoverlap x (mem_of_mem_neighbours hx)]
        exact hnear x hx
      · rw [meet_iff (hpos x hx) he]
        refine hm.not_meet (v := e.len) (fun y hy => .inl (holds_start (hpos y hy)).2)
          (Nat.le_add_right _ _) (fun y hy => ?_) x hx
        have hout := hnear y hy
        rwa [meet_iff (hpos y (mem_of_mem_neighbours hy)) he] at hout

/-! ### All faults and their conditions -/

/-- The operation stops at the fault. Conditions build on each other in the order of the checks. -/
inductive Refuses (a : Arena) : Op → Fault → Prop
  /-- A span has bytes. -/
  | emptySpan {span : Extent} (hzero : span.len.toNat = 0) :
    Refuses a (.addSpan span) (.emptySpan span.start)
  /-- A span ends on the bus. -/
  | spanWraps {span : Extent} (hpos : 0 < span.len.toNat)
    (hstop : UInt64.size ≤ span.start.toNat + span.len.toNat) :
    Refuses a (.addSpan span) (.spanWraps span)
  /-- A span shares no address with another; the lowest that it does is named. -/
  | spanOverlaps {span : Extent} {s : Address × Word} (hpos : 0 < span.len.toNat)
    (hstop : span.start.toNat + span.len.toNat < UInt64.size)
    (hmet : a.spans.FirstMet (span.start, span.len) s) :
    Refuses a (.addSpan span) (.spanOverlaps span (extentOf s))
  /-- A reservation is one of bytes. -/
  | reserveNothing {size align boundary : Word} (hzero : size.toNat = 0) :
    Refuses a (.reserve size align boundary) .zeroSize
  /-- Its alignment is a power of two. -/
  | alignment {size align boundary : Word} (hpos : 0 < size.toNat)
    (halign : Word.isPowerOfTwo align = false) :
    Refuses a (.reserve size align boundary) .alignNotPowerOfTwo
  /-- Its boundary is zero or a power of two not below the size. -/
  | boundary {size align boundary : Word} (hpos : 0 < size.toNat)
    (halign : Word.isPowerOfTwo align = true)
    (hbound : ¬(boundary = 0 ∨
      Word.isPowerOfTwo boundary = true ∧ size.toNat ≤ boundary.toNat)) :
    Refuses a (.reserve size align boundary) .badBoundary
  /-- A release is one of bytes. -/
  | releaseNothing {start : Address} {size : Word} (hzero : size.toNat = 0) :
    Refuses a (.release start size) .zeroSize
  /-- It ends on the bus. -/
  | releaseWraps {start : Address} {size : Word} (hpos : 0 < size.toNat)
    (hstop : UInt64.size ≤ start.toNat + size.toNat) :
    Refuses a (.release start size) (.releaseWraps start size)
  /-- It lies inside one span. -/
  | releaseOutside {start : Address} {size : Word} (hpos : 0 < size.toNat)
    (hstop : start.toNat + size.toNat < UInt64.size)
    (hout : ∀ s ∈ a.spans.entries, ¬Inside (start, size) s) :
    Refuses a (.release start size) (.releaseOutside start size)
  /-- A block that starts there has this length. -/
  | lengthMismatch {start : Address} {size len : Word} {s : Address × Word}
    (hpos : 0 < size.toNat) (hs : s ∈ a.spans.entries) (hin : Inside (start, size) s)
    (hblock : (start, len) ∈ a.reserved.entries) (hne : len ≠ size) :
    Refuses a (.release start size) (.lengthMismatch ⟨start, size⟩ len)
  /-- If no block starts there, no byte is free; the lowest free extent with one is named. -/
  | doubleFree {start : Address} {size : Word} {s x : Address × Word} (hpos : 0 < size.toNat)
    (hs : s ∈ a.spans.entries) (hin : Inside (start, size) s)
    (hnone : ∀ len, (start, len) ∉ a.reserved.entries) (hmet : a.free.FirstMet (start, size) x) :
    Refuses a (.release start size) (.doubleFree ⟨start, size⟩ (extentOf x))
  /-- A block starts there. -/
  | notBlockStart {start : Address} {size : Word} {s : Address × Word} (hpos : 0 < size.toNat)
    (hs : s ∈ a.spans.entries) (hin : Inside (start, size) s)
    (hnone : ∀ len, (start, len) ∉ a.reserved.entries)
    (hfree : ∀ x ∈ a.free.entries, ¬Meet x (start, size)) :
    Refuses a (.release start size) (.notBlockStart ⟨start, size⟩)

/-- No fault on the list is an arithmetic one. -/
theorem Refuses.not_isArithmetic {op : Op} {f : Fault} (h : a.Refuses op f) :
    f.isArithmetic = false := by
  cases h <;> rfl

/-! ### What is on the list happens -/

section outcome

variable {span : Extent} {s : Address × Word} {size align boundary : Word} {start : Address}
  {f : Fault}

/-- An operation without an answer stops exactly where its body does. -/
theorem outcome_perform_eq_error_iff {a' : Arena} {op : Attempt Arena Unit} :
    (do op; return none : Attempt Arena (Option Address)).outcome a = (.error f, a') ↔
      op.outcome a = (.error f, a') := by
  rcases hrun : op.outcome a with ⟨result | result, b⟩
  · rw [outcome_bind_error hrun]
    simp
  · rw [outcome_bind_ok hrun]
    simp

/-- It answers nothing where its body finishes. -/
theorem outcome_perform_of_ok {a' : Arena} {op : Attempt Arena Unit}
    (h : op.outcome a = (.ok (), a')) :
    (do op; return none : Attempt Arena (Option Address)).outcome a = (.ok none, a') := by
  rw [outcome_bind_ok h, outcome_pure]

/-- A release inside a span comes as far as the blocks. -/
theorem Layout.outcome_release_inside (h : a.Layout) (hpos : 0 < size.toNat)
    (hs : s ∈ a.spans.entries) (hin : Inside (start, size) s)
    (hfault : a.demandReserved ⟨start, size⟩ = .error f) :
    (Arena.release start size).outcome a = (.error f, a) := by
  have hend : start.toNat + size.toNat < UInt64.size :=
    Nat.lt_of_le_of_lt hin.2 (h.span_stop s hs)
  have hsum : Word.add? start.word size = some (start.word + size) := if_pos hend
  have hstop : start.toNat + size.toNat = (start.word + size).toNat :=
    Word.add?_eq_some_iff.1 hsum
  have hspan : a.spanAround? start (start.word + size) = some (extentOf s) :=
    h.spanAround?_eq hs hin.1 (hstop ▸ hin.2) (by omega)
  unfold Arena.release
  simp only [demand_pos hpos, hsum, hspan, hfault, outcome_ok_bind, outcome_get_bind,
    outcome_error_bind]

/-- The span that a release finds holds all of it. -/
theorem Layout.inside_of_spanAround? (h : a.Layout) {e : Extent} {stop : Word}
    (hstop : stop.toNat = start.toNat + size.toNat)
    (hspan : a.spanAround? start stop = some e) :
    ∃ s ∈ a.spans.entries, Inside (start, size) s := by
  obtain ⟨hbelow, hcheck⟩ := Option.filter_eq_some_iff.1 hspan
  obtain ⟨s, hfloor, rfl⟩ := Option.map_eq_some_iff.1 hbelow
  obtain ⟨hs, hlow, -⟩ := floor?_eq_some_iff.1 hfloor
  rw [Bool.and_eq_true, decide_eq_true_iff, UInt64.le_iff_toNat_le, extentOf,
    toNat_endWord_extentOf (h.span_stop s hs), hstop] at hcheck
  exact ⟨s, hs, hlow, hcheck.2⟩

/-- The check of a release where no block starts is one of the free extents alone. -/
theorem demandReserved_of_not_mem (hnone : ∀ len, (start, len) ∉ a.reserved.entries) :
    a.demandReserved ⟨start, size⟩ =
      (demandApart ((a.free.neighbours start).map extentOf) ⟨start, size⟩
        (.doubleFree ⟨start, size⟩) >>= fun _ => .error (.notBlockStart ⟨start, size⟩)) := by
  rw [demandReserved, get?_eq_none_iff.2 hnone]
  rfl

/-- The free extents next to the start of a release inside a span tell which of them it meets
first, if any. -/
theorem Layout.demandApart_free (h : a.Layout) (hpos : 0 < size.toNat)
    (hs : s ∈ a.spans.entries) (hin : Inside (start, size) s) :
    (demandApart ((a.free.neighbours start).map extentOf) ⟨start, size⟩
        (.doubleFree ⟨start, size⟩) = .ok () ∧ ∀ x ∈ a.free.entries, ¬Meet x (start, size)) ∨
    ∃ x, a.free.FirstMet (start, size) x ∧
      demandApart ((a.free.neighbours start).map extentOf) ⟨start, size⟩
        (.doubleFree ⟨start, size⟩) = .error (.doubleFree ⟨start, size⟩ (extentOf x)) :=
  demandApart_neighbours (e := ⟨start, size⟩) h.free_apart (fun _ hx => h.free_pos hx)
    (fun _ hx => h.free_stop hx) hpos (Nat.lt_of_le_of_lt hin.2 (h.span_stop s hs)) _

/-- A span that meets another is refused, naming the lowest that it meets. -/
theorem Layout.outcome_addSpan_overlaps (h : a.Layout) (hpos : 0 < span.len.toNat)
    (hstop : span.start.toNat + span.len.toNat < UInt64.size)
    (hmet : a.spans.FirstMet (span.start, span.len) s) :
    (Arena.addSpan span).outcome a = (.error (.spanOverlaps span (extentOf s)), a) := by
  have hends : demand (Word.add? span.start.word span.len).isSome (.spanWraps span) = .ok () := by
    have hsum : Word.add? span.start.word span.len = some _ := if_pos hstop
    rw [hsum]
    rfl
  rcases demandApart_neighbours h.span_apart h.span_pos h.span_stop hpos hstop
    (.spanOverlaps span) with ⟨-, hnone⟩ | ⟨t, hfirst, hfault⟩
  · exact absurd hmet.meets (hnone s hmet.mem)
  · rw [hmet.unique hfirst]
    unfold Arena.addSpan
    simp only [demand_pos hpos, hends, hfault, outcome_ok_bind, outcome_get_bind,
      outcome_error_bind]

/-- A reservation with a boundary that it may not have is refused. -/
theorem outcome_reserve_boundary (hpos : 0 < size.toNat)
    (halign : Word.isPowerOfTwo align = true)
    (hbound : ¬(boundary = 0 ∨
      Word.isPowerOfTwo boundary = true ∧ size.toNat ≤ boundary.toNat)) :
    (Arena.reserve size align boundary).outcome a = (.error .badBoundary, a) := by
  have hfails : (boundary == 0 || (Word.isPowerOfTwo boundary && decide (size ≤ boundary))) =
      false := by
    simpa [UInt64.le_iff_toNat_le] using hbound
  have haligned : demand (Word.isPowerOfTwo align) .alignNotPowerOfTwo = .ok () :=
    demand_eq_ok.2 halign
  rw [Arena.reserve, demand_pos hpos, outcome_ok_bind, haligned, outcome_ok_bind,
    demand_eq_error.2 ⟨hfails, rfl⟩, outcome_error_bind]

/-- A release that lies inside no span is refused. -/
theorem Layout.outcome_release_outside (h : a.Layout) (hpos : 0 < size.toNat)
    (hstop : start.toNat + size.toNat < UInt64.size)
    (hout : ∀ s ∈ a.spans.entries, ¬Inside (start, size) s) :
    (Arena.release start size).outcome a = (.error (.releaseOutside start size), a) := by
  have hsum : Word.add? start.word size = some (start.word + size) := if_pos hstop
  have hspan : a.spanAround? start (start.word + size) = none := by
    rw [Option.eq_none_iff_forall_ne_some]
    intro e he
    obtain ⟨s, hs, hin⟩ := h.inside_of_spanAround? (Word.add?_eq_some_iff.1 hsum).symm he
    exact hout s hs hin
  unfold Arena.release
  simp only [demand_pos hpos, hsum, hspan, outcome_ok_bind, outcome_get_bind, outcome_throw]

/-- **What is on the list happens**, and leaves the arena as it was. -/
theorem Refuses.outcome {op : Op} (hrefuses : a.Refuses op f) (h : a.Layout) :
    op.perform.outcome a = (.error f, a) := by
  cases hrefuses with
  | emptySpan hzero =>
    apply outcome_perform_eq_error_iff.2
    rw [addSpan, demand_zero hzero, outcome_error_bind]
  | spanWraps hpos hstop =>
    exact outcome_perform_eq_error_iff.2 (outcome_addSpan_wraps hpos hstop)
  | spanOverlaps hpos hstop hmet =>
    exact outcome_perform_eq_error_iff.2 (h.outcome_addSpan_overlaps hpos hstop hmet)
  | reserveNothing hzero =>
    show (Arena.reserve _ _ _).outcome a = _
    rw [Arena.reserve, demand_zero hzero, outcome_error_bind]
  | alignment hpos halign =>
    show (Arena.reserve _ _ _).outcome a = _
    rw [Arena.reserve, demand_pos hpos, outcome_ok_bind,
      demand_eq_error.2 ⟨halign, rfl⟩, outcome_error_bind]
  | boundary hpos halign hbound => exact outcome_reserve_boundary hpos halign hbound
  | releaseNothing hzero =>
    apply outcome_perform_eq_error_iff.2
    rw [release, demand_zero hzero, outcome_error_bind]
  | releaseWraps hpos hstop =>
    apply outcome_perform_eq_error_iff.2
    unfold release
    simp only [demand_pos hpos, Word.add?_eq_none_iff.2 hstop, outcome_ok_bind, outcome_throw]
  | releaseOutside hpos hstop hout =>
    exact outcome_perform_eq_error_iff.2 (h.outcome_release_outside hpos hstop hout)
  | lengthMismatch hpos hs hin hblock hne =>
    apply outcome_perform_eq_error_iff.2
    apply h.outcome_release_inside hpos hs hin
    rw [demandReserved, get?_eq_some_iff.2 hblock]
    exact demand_eq_error.2 ⟨beq_eq_false_iff_ne.2 hne, rfl⟩
  | @doubleFree start size s x hpos hs hin hnone hmet =>
    apply outcome_perform_eq_error_iff.2
    apply h.outcome_release_inside hpos hs hin
    rw [demandReserved_of_not_mem hnone]
    rcases h.demandApart_free hpos hs hin with ⟨-, hfree⟩ | ⟨y, hfirst, hfault⟩
    · exact absurd hmet.meets (hfree x hmet.mem)
    · rw [hmet.unique hfirst, hfault]
      rfl
  | notBlockStart hpos hs hin hnone hfree =>
    apply outcome_perform_eq_error_iff.2
    apply h.outcome_release_inside hpos hs hin
    rw [demandReserved_of_not_mem hnone]
    rcases h.demandApart_free hpos hs hin with ⟨hpasses, -⟩ | ⟨y, hfirst, -⟩
    · rw [hpasses]
      rfl
    · exact absurd hfirst.meets (hfree y hfirst.mem)

/-! ### What is not on the list returns -/

/-- A span is refused unless it can be added. -/
theorem Layout.addable_or_refuses (h : a.Layout) (span : Extent) :
    a.Addable span ∨ ∃ f, a.Refuses (.addSpan span) f := by
  rcases Nat.eq_zero_or_pos span.len.toNat with hzero | hpos
  · exact .inr ⟨_, .emptySpan hzero⟩
  rcases Nat.lt_or_ge (span.start.toNat + span.len.toNat) UInt64.size with hstop | hstop
  · rcases demandApart_neighbours h.span_apart h.span_pos h.span_stop hpos hstop
      (.spanOverlaps span) with ⟨-, hnone⟩ | ⟨s, hfirst, -⟩
    · exact .inl (h.addable_iff.2 ⟨hpos, hstop, hnone⟩)
    · exact .inr ⟨_, .spanOverlaps hpos hstop hfirst⟩
  · exact .inr ⟨_, .spanWraps hpos hstop⟩

/-- A reservation is refused unless it asks for what it may. -/
theorem reservable_or_refuses (a : Arena) (size align boundary : Word) :
    Reservable size align boundary ∨ ∃ f, a.Refuses (.reserve size align boundary) f := by
  rcases Nat.eq_zero_or_pos size.toNat with hzero | hpos
  · exact .inr ⟨_, .reserveNothing hzero⟩
  cases halign : Word.isPowerOfTwo align with
  | false => exact .inr ⟨_, .alignment hpos halign⟩
  | true =>
    by_cases hbound : boundary = 0 ∨
        Word.isPowerOfTwo boundary = true ∧ size.toNat ≤ boundary.toNat
    · exact .inl ⟨hpos, halign, fun hzero => (hbound.resolve_left hzero).1,
        fun hzero => (hbound.resolve_left hzero).2⟩
    · exact .inr ⟨_, .boundary hpos halign hbound⟩

/-- A release is refused unless it is one of a reserved block. -/
theorem Layout.block_or_refuses (h : a.Layout) (start : Address) (size : Word) :
    (start, size) ∈ a.reserved.entries ∨ ∃ f, a.Refuses (.release start size) f := by
  rcases Nat.eq_zero_or_pos size.toNat with hzero | hpos
  · exact .inr ⟨_, .releaseNothing hzero⟩
  rcases Nat.lt_or_ge (start.toNat + size.toNat) UInt64.size with hstop | hstop
  · by_cases hhome : ∃ s ∈ a.spans.entries, Inside (start, size) s
    · obtain ⟨s, hs, hin⟩ := hhome
      by_cases hblock : ∃ len, (start, len) ∈ a.reserved.entries
      · obtain ⟨len, hlen⟩ := hblock
        by_cases heq : len = size
        · exact .inl (heq ▸ hlen)
        · exact .inr ⟨_, .lengthMismatch hpos hs hin hlen heq⟩
      · have hnone := not_exists.1 hblock
        rcases h.demandApart_free hpos hs hin with ⟨-, hfree⟩ | ⟨x, hfirst, -⟩
        · exact .inr ⟨_, .notBlockStart hpos hs hin hnone hfree⟩
        · exact .inr ⟨_, .doubleFree hpos hs hin hnone hfirst⟩
    · exact .inr ⟨_, .releaseOutside hpos hstop fun s hs hin => hhome ⟨s, hs, hin⟩⟩
  · exact .inr ⟨_, .releaseWraps hpos hstop⟩

/-- **What is not on the list returns.** -/
theorem Layout.refuses_or_returns (h : a.Layout) (op : Op) :
    (∃ f, a.Refuses op f) ∨ ∃ answer a', op.perform.outcome a = (.ok answer, a') := by
  cases op with
  | addSpan span =>
    rcases h.addable_or_refuses span with hadd | hrefuses
    · obtain ⟨a', hrun, -⟩ := h.outcome_addSpan hadd
      exact .inr ⟨none, a', outcome_perform_of_ok hrun⟩
    · exact .inl hrefuses
  | reserve size align boundary =>
    rcases reservable_or_refuses a size align boundary with hargs | hrefuses
    · rcases h.outcome_reserve hargs with ⟨hrun, -⟩ | ⟨_, _, spot, a', hrun, -⟩
      · exact .inr ⟨none, a, hrun⟩
      · exact .inr ⟨some spot, a', hrun⟩
    · exact .inl hrefuses
  | release start size =>
    rcases h.block_or_refuses start size with hblock | hrefuses
    · obtain ⟨a', hrun, -⟩ := h.outcome_release hblock
      exact .inr ⟨none, a', outcome_perform_of_ok hrun⟩
    · exact .inl hrefuses

/-- **The list is exact**: an operation stops at a fault if and only if that is on the list, and
then it has changed nothing. -/
theorem Layout.outcome_eq_error_iff (h : a.Layout) {op : Op} {a' : Arena} :
    op.perform.outcome a = (.error f, a') ↔ a.Refuses op f ∧ a' = a := by
  constructor
  · intro hrun
    rcases h.refuses_or_returns op with ⟨g, hrefuses⟩ | ⟨answer, b, hreturns⟩
    · have hsame := hrun.symm.trans (hrefuses.outcome h)
      simp only [Prod.mk.injEq, Except.error.injEq] at hsame
      obtain ⟨rfl, rfl⟩ := hsame
      exact ⟨hrefuses, rfl⟩
    · rw [hrun] at hreturns
      simp at hreturns
  · rintro ⟨hrefuses, rfl⟩
    exact hrefuses.outcome h

end outcome

/-! ### In terms of single operations -/

/-- Everything there is to know about the faults of an arena. -/
structure ExactFaults (a : Arena) : Prop where
  /-- A span is refused exactly if it is empty, reaches past the greatest word, or shares an address
  with any span. -/
  addSpan_stops_iff : ∀ span, (∃ f a', (addSpan span).outcome a = (.error f, a')) ↔
    span.len.toNat = 0 ∨ UInt64.size - 1 < span.start.toNat + span.len.toNat ∨
      ∃ s ∈ a.spans.entries, Meet s (span.start, span.len)
  /-- A release is accepted exactly if it has bytes and a block of that size is reserved there. -/
  release_returns_iff : ∀ start size, (∃ a', (release start size).outcome a = (.ok (), a')) ↔
    0 < size.toNat ∧ (start, size) ∈ a.reserved.entries
  /-- A release of no bytes stops for that reason, wherever it is made. -/
  zeroSize : ∀ (start : Address) (size : Word), size.toNat = 0 →
    (release start size).outcome a = (.error .zeroSize, a)
  /-- A release of bytes inside a span where no block starts is told to be the second one if any
  byte is free, and the lowest free extent with one is named. -/
  doubleFree : ∀ (start : Address) (size : Word), 0 < size.toNat →
    (∀ len, (start, len) ∉ a.reserved.entries) →
    (∃ s ∈ a.spans.entries, Inside (start, size) s) →
    (∃ n, Holds (start, size) n ∧ a.free.Covers n) →
    ∃ x, a.free.FirstMet (start, size) x ∧
      (release start size).outcome a = (.error (.doubleFree ⟨start, size⟩ (extentOf x)), a)
  /-- If no byte is free, it is told to be of no block. -/
  notBlockStart : ∀ (start : Address) (size : Word), 0 < size.toNat →
    (∀ len, (start, len) ∉ a.reserved.entries) →
    (∃ s ∈ a.spans.entries, Inside (start, size) s) →
    (¬∃ n, Holds (start, size) n ∧ a.free.Covers n) →
    (release start size).outcome a = (.error (.notBlockStart ⟨start, size⟩), a)
  /-- No operation stops at a sum or difference that is no word. -/
  not_isArithmetic : ∀ (op : Op) f a', op.perform.outcome a = (.error f, a') →
    f.isArithmetic = false
  /-- Nor does the count of the bytes in use. -/
  inUseBytes_returns : ∃ w, a.inUseBytes = .ok w
  /-- An operation that stops changes nothing, in any part of the arena. -/
  unchanged : ∀ (op : Op) f a', op.perform.outcome a = (.error f, a') → a' = a

/-- Free bytes of a stretch are bytes of a free extent that it meets. -/
theorem exists_covers_iff {e : Address × Word} :
    (∃ n, Holds e n ∧ a.free.Covers n) ↔ ∃ x ∈ a.free.entries, Meet x e := by
  constructor
  · rintro ⟨n, hen, x, hx, hxn⟩
    exact ⟨x, hx, n, hxn, hen⟩
  · rintro ⟨x, hx, n, hxn, hen⟩
    exact ⟨n, hen, x, hx, hxn⟩

namespace Layout

/-- When a span is refused, in one condition. -/
theorem addSpan_stops_iff (h : a.Layout) (span : Extent) :
    (∃ f a', (Arena.addSpan span).outcome a = (.error f, a')) ↔
      span.len.toNat = 0 ∨ UInt64.size - 1 < span.start.toNat + span.len.toNat ∨
        ∃ s ∈ a.spans.entries, Meet s (span.start, span.len) := by
  have hsize := Word.size_eq
  have hcannot : ¬a.Addable span ↔ span.len.toNat = 0 ∨
      UInt64.size - 1 < span.start.toNat + span.len.toNat ∨
        ∃ s ∈ a.spans.entries, Meet s (span.start, span.len) := by
    rw [h.addable_iff, not_and_or, not_and_or, not_forall₂]
    simp only [not_not, exists_prop]
    refine or_congr (by omega) (or_congr_left (by omega))
  rw [← hcannot]
  constructor
  · rintro ⟨f, a', hstops⟩ hadd
    obtain ⟨b, hrun, -⟩ := h.outcome_addSpan hadd
    simp [hrun] at hstops
  · intro hadd
    obtain ⟨f, hstops⟩ := h.outcome_addSpan_fault hadd
    exact ⟨f, a, hstops⟩

/-- When a release is accepted. -/
theorem release_returns_iff (h : a.Layout) (start : Address) (size : Word) :
    (∃ a', (Arena.release start size).outcome a = (.ok (), a')) ↔
      0 < size.toNat ∧ (start, size) ∈ a.reserved.entries := by
  constructor
  · rintro ⟨a', hrun⟩
    by_contra hblock
    have hnot : (start, size) ∉ a.reserved.entries :=
      fun hmem => hblock ⟨h.block_pos _ hmem, hmem⟩
    obtain ⟨f, hstops⟩ := outcome_release_fault hnot
    simp [hrun] at hstops
  · rintro ⟨-, hblock⟩
    obtain ⟨a', hrun, -⟩ := h.outcome_release hblock
    exact ⟨a', hrun⟩

/-- The faults of an arena that is laid out. -/
theorem exactFaults (h : a.Layout) : a.ExactFaults where
  addSpan_stops_iff := h.addSpan_stops_iff
  release_returns_iff := h.release_returns_iff
  zeroSize := by
    intro start size hzero
    have hrefuses : a.Refuses (.release start size) _ := .releaseNothing hzero
    exact outcome_perform_eq_error_iff.1 (hrefuses.outcome h)
  doubleFree := by
    rintro start size hpos hnone ⟨s, hs, hin⟩ hfree
    obtain ⟨x, hx, hmeet⟩ := exists_covers_iff.1 hfree
    rcases h.demandApart_free hpos hs hin with ⟨-, hclear⟩ | ⟨y, hfirst, -⟩
    · exact absurd hmeet (hclear x hx)
    · have hrefuses : a.Refuses (.release start size) _ := .doubleFree hpos hs hin hnone hfirst
      exact ⟨y, hfirst, outcome_perform_eq_error_iff.1 (hrefuses.outcome h)⟩
  notBlockStart := by
    rintro start size hpos hnone ⟨s, hs, hin⟩ hfree
    have hclear : ∀ x ∈ a.free.entries, ¬Meet x (start, size) :=
      fun x hx hmeet => hfree (exists_covers_iff.2 ⟨x, hx, hmeet⟩)
    have hrefuses : a.Refuses (.release start size) _ := .notBlockStart hpos hs hin hnone hclear
    exact outcome_perform_eq_error_iff.1 (hrefuses.outcome h)
  not_isArithmetic := by
    intro op f a' hstops
    exact (h.outcome_eq_error_iff.1 hstops).1.not_isArithmetic
  inUseBytes_returns := by
    obtain ⟨w, hw, -⟩ := h.exists_inUseBytes
    exact ⟨w, hw⟩
  unchanged := by
    intro op f a' hstops
    exact (h.outcome_eq_error_iff.1 hstops).2

end Layout

/-- **The faults of an arena are exact and leave no trace**, after every history, whatever its
operations ask for and wherever they stop. -/
theorem faults_exact (history : List Op) : (after history).ExactFaults :=
  (Layout.after history).exactFaults

/-- A span of 4096 bytes with blocks of 64 bytes at its start and behind a gap of 64 bytes. A
release that starts inside the first block and reaches beyond the second is told to be the second
one, of the gap; one that stays inside the first block is told to be of none; and one of no bytes,
at the same address, stops for having none. -/
theorem faults_exact_sample :
    let history : List Op := [.addSpan ⟨⟨4096⟩, 4096⟩, .reserve 64 64 0, .reserve 64 64 0,
      .reserve 64 64 0, .release ⟨4160⟩ 64]
    (release ⟨4128⟩ 4000).outcome (after history) =
      (.error (.doubleFree ⟨⟨4128⟩, 4000⟩ ⟨⟨4160⟩, 64⟩), after history) ∧
    (release ⟨4128⟩ 32).outcome (after history) =
      (.error (.notBlockStart ⟨⟨4128⟩, 32⟩), after history) ∧
    (release ⟨4128⟩ 0).outcome (after history) = (.error .zeroSize, after history) := by
  intro history
  have hexact := faults_exact history
  have hspan : (⟨4096⟩, 4096) ∈ (after history).spans.entries := List.mem_singleton_self _
  have hnone : ∀ len, (⟨4128⟩, len) ∉ (after history).reserved.entries :=
    get?_eq_none_iff.1 (by decide +kernel)
  have hfree : (after history).free.entries = [(⟨4160⟩, 64), (⟨4288⟩, 3904)] := by decide +kernel
  have hgap : (⟨4160⟩, 64) ∈ (after history).free.entries := by simp [hfree]
  have hmeet : Meet (⟨4160⟩, 64) (⟨4128⟩, 4000) := ⟨4160, by decide, by decide⟩
  refine ⟨?_, ?_, hexact.zeroSize ⟨4128⟩ 0 rfl⟩
  · obtain ⟨x, hfirst, hstops⟩ := hexact.doubleFree ⟨4128⟩ 4000 (by decide) hnone
      ⟨_, hspan, by decide⟩ (exists_covers_iff.2 ⟨_, hgap, hmeet⟩)
    have hx : x = (⟨4160⟩, 64) := by
      have hleast := hfirst.least _ hgap hmeet
      have hmem := hfirst.mem
      rw [hfree] at hmem
      simp only [List.mem_cons, List.not_mem_nil, or_false] at hmem
      rcases hmem with rfl | rfl
      · rfl
      · exact absurd hleast (by decide)
    rw [hstops, hx]
    rfl
  · apply hexact.notBlockStart ⟨4128⟩ 32 (by decide) hnone ⟨_, hspan, by decide⟩
    have hlow : ∀ x ∈ (after history).free.entries, 4160 ≤ x.1.toNat := by
      rw [hfree]
      decide
    rintro ⟨n, ⟨-, hbelow⟩, x, hx, habove, -⟩
    exact Nat.lt_irrefl _ (Nat.lt_of_lt_of_le hbelow (Nat.le_trans (hlow x hx) habove))

/-- **A release of no bytes is not diagnosed any further.** In a span of 4096 free bytes no block
starts at the first, and a release of no bytes there meets no free byte. Still the fault is not
that no block starts there: the length is checked before anything else. -/
theorem empty_release_not_diagnosed :
    let history : List Op := [.addSpan ⟨⟨4096⟩, 4096⟩]
    (∀ len, (⟨4096⟩, len) ∉ (after history).reserved.entries) ∧
    (∃ s ∈ (after history).spans.entries, Inside (⟨4096⟩, 0) s) ∧
    (¬∃ n, Holds (⟨4096⟩, 0) n ∧ (after history).free.Covers n) ∧
    (release ⟨4096⟩ 0).outcome (after history) = (.error .zeroSize, after history) ∧
    (release ⟨4096⟩ 0).outcome (after history) ≠
      (.error (.notBlockStart ⟨⟨4096⟩, 0⟩), after history) := by
  intro history
  have hstops : (release ⟨4096⟩ 0).outcome (after history) = (.error .zeroSize, after history) :=
    rfl
  refine ⟨by rintro len ⟨⟩, ⟨(⟨4096⟩, 4096), List.mem_singleton_self _, ?_⟩, ?_, hstops, ?_⟩
  · exact ⟨Nat.le_refl _, by decide⟩
  · rintro ⟨n, ⟨hlow, hhigh⟩, -⟩
    exact Nat.lt_irrefl _ (Nat.lt_of_le_of_lt hlow hhigh)
  · rw [hstops]
    simp

end Arena

end BusPool
