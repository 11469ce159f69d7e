import BusPool.Proofs.Arena.Histories

/-!
# An arena without a past

Free extents and counters remember nothing: spans and reserved blocks decide them
(**`Layout.eq_of_same`**), because the free extents are the gaps between the blocks and the
counters are sums over the maps. It does not matter in which order the maps came about, into how
many pieces free bytes were cut on the way, or which operations stopped at a fault.

So a block that is released leaves the arena it was reserved in
(**`Layout.outcome_release_of_reserve`**), and blocks that are released one after the other leave
the same arena in every order (**`Layout.exists_releaseAll`**). **`history_independence`** says
all three of the arenas that histories lead to.
-/

namespace BusPool

namespace AddressMap

variable {α : Type} {m : AddressMap α} {k : Address}

/-- What was inserted under a new key can be taken back. -/
theorem erase_insert_of_not_mem {v : α} (h : ∀ w, (k, w) ∉ m.entries) :
    (m.insert k v).erase k = m := by
  apply ext_mem
  intro x
  rw [mem_erase, mem_insert]
  constructor
  · rintro ⟨rfl | ⟨hx, -⟩, hne⟩
    · exact absurd rfl hne
    · exact hx
  · intro hx
    have hne : x.1 ≠ k := by
      rintro rfl
      exact h x.2 hx
    exact ⟨.inr ⟨hx, hne⟩, hne⟩

end AddressMap

namespace Arena

open AddressMap Attempt

variable {a b : Arena} {blocks : List (Address × Word)}

/-- Release blocks one after the other. -/
def releaseAll : List (Address × Word) → Attempt Arena Unit
  | [] => pure ()
  | block :: rest => do
    release block.1 block.2
    releaseAll rest

namespace Layout

/-- **Spans and blocks decide the arena.** -/
theorem eq_of_same (ha : a.Layout) (hb : b.Layout) (hspans : a.spans = b.spans)
    (hreserved : a.reserved = b.reserved) : a = b := by
  have hfree : a.free = b.free := by
    apply ext_mem
    intro x
    rw [ha.mem_free_iff, hb.mem_free_iff, hspans, hreserved]
  apply Arena.ext hspans hfree hreserved
  · apply UInt64.toNat_inj.1
    rw [ha.spanBytes_eq, hb.spanBytes_eq, hspans]
  · apply UInt64.toNat_inj.1
    rw [ha.freeBytes_eq, hb.freeBytes_eq, hfree]

/-- A span that was added is free as a whole, and nothing else has changed. -/
theorem eq_of_addSpan (ha : a.Layout) (hb : b.Layout) {span : Extent} (hadd : a.Addable span)
    (hspans : b.spans = a.spans.insert span.start span.len) (hreserved : b.reserved = a.reserved) :
    b.free = a.free.insert span.start span.len ∧
      b.spanBytes.toNat = a.spanBytes.toNat + span.len.toNat ∧
      b.freeBytes.toNat = a.freeBytes.toNat + span.len.toNat := by
  have htotal := ha.total_eq
  have htotal' := hb.total_eq
  have hspan := ha.spanBytes_eq
  have hspan' := hb.spanBytes_eq
  have hfree := ha.freeBytes_eq
  have hfree' := hb.freeBytes_eq
  rw [hspans, total_insert (ha.span_not_mem hadd)] at hspan' htotal'
  rw [hreserved] at htotal'
  have hspanBytes : b.spanBytes.toNat = span.len.toNat + a.spanBytes.toNat := by omega
  have hfreeBytes : b.freeBytes.toNat = span.len.toNat + a.freeBytes.toNat := by omega
  have hpos : 0 < (span.start, span.len).2.toNat := hadd.pos
  have hspaced := ha.spaced_insert hadd.stop fun s hs => hadd.apart s (mem_of_mem_neighbours hs)
  have hlayout := ha.addSpan hpos hadd.stop (ha.span_not_mem hadd) hspaced hspanBytes hfreeBytes
  refine ⟨congrArg Arena.free (hb.eq_of_same hlayout hspans hreserved), ?_, ?_⟩
  · rw [hspanBytes, Nat.add_comm]
  · rw [hfreeBytes, Nat.add_comm]

/-- No block starts where a new one is placed. -/
theorem not_mem_of_placeIn (h : a.Layout) {size align boundary : Word} {x : Address × Word}
    {spot : Address} (hargs : Reservable size align boundary) (hx : x ∈ a.free.entries)
    (hplace : placeIn size align boundary x = some spot) :
    ∀ w, (spot, w) ∉ a.reserved.entries := by
  intro w hw
  have hpos := hargs.pos
  obtain ⟨hlow, hhigh⟩ := placeIn_bounds hargs (h.free_stop hx) hplace
  apply h.free_clear hx (n := spot.toNat)
  · exact ⟨hlow, by omega⟩
  · exact ⟨_, hw, holds_start (h.block_pos _ hw)⟩

/-- **A release takes a reservation back.** -/
theorem outcome_release_of_reserve (h : a.Layout) {size align boundary : Word} {spot : Address}
    (hrun : (Arena.reserve size align boundary).outcome a = (.ok (some spot), b)) :
    (Arena.release spot size).outcome b = (.ok (), a) := by
  have hargs : Reservable size align boundary := by
    by_contra hargs
    obtain ⟨f, hfault⟩ := outcome_reserve_fault (a := a) hargs
    rw [hfault] at hrun
    cases hrun
  rcases h.outcome_reserve hargs with ⟨hnone, -⟩ | ⟨x, hx, _, _, hsome, hplace, -, hb, hspans, hin⟩
  · rw [hnone] at hrun
    cases hrun
  · rw [hsome] at hrun
    cases hrun
    have hnew := h.not_mem_of_placeIn hargs hx hplace
    have hblock : (spot, size) ∈ b.reserved.entries := by
      rw [hin]
      exact mem_insert.2 (.inl rfl)
    obtain ⟨c, hrelease, hc, hspans', hout⟩ := hb.outcome_release hblock
    have hback : c = a := by
      apply hc.eq_of_same h
      · rw [hspans', hspans]
      · rw [hout, hin, erase_insert_of_not_mem hnew]
    rw [hrelease, hback]

/-- Reserved blocks are released one after the other. The keys of those still to come stay in the
map, because no two blocks have one key. -/
theorem outcome_releaseAll (h : a.Layout) (hnodup : blocks.Nodup)
    (hmem : ∀ r ∈ blocks, r ∈ a.reserved.entries) :
    ∃ a', (releaseAll blocks).outcome a = (.ok (), a') ∧ a'.Layout ∧ a'.spans = a.spans ∧
      ∀ r, r ∈ a'.reserved.entries ↔ r ∈ a.reserved.entries ∧ r ∉ blocks := by
  induction blocks generalizing a with
  | nil =>
    refine ⟨a, rfl, h, rfl, ?_⟩
    intro r
    simp
  | cons block rest ih =>
    obtain ⟨hblock, hrest⟩ := List.forall_mem_cons.1 hmem
    obtain ⟨hnew, hnodup⟩ := List.nodup_cons.1 hnodup
    obtain ⟨b, hrelease, hb, hspans, hreserved⟩ := h.outcome_release hblock
    have hout : ∀ r, r ∈ b.reserved.entries ↔ r ∈ a.reserved.entries ∧ r ≠ block := by
      intro r
      rw [hreserved, mem_erase]
      apply and_congr_right
      intro hr
      apply not_congr
      exact ⟨entry_eq_of_mem hr hblock, congrArg Prod.fst⟩
    have hstill : ∀ r ∈ rest, r ∈ b.reserved.entries := by
      intro r hr
      rw [hout]
      exact ⟨hrest r hr, ne_of_mem_of_not_mem hr hnew⟩
    obtain ⟨c, hall, hc, hspans', hleft⟩ := ih hb hnodup hstill
    refine ⟨c, ?_, hc, hspans'.trans hspans, ?_⟩
    · rw [releaseAll, outcome_bind_ok hrelease]
      exact hall
    · intro r
      rw [hleft, hout, List.mem_cons, not_or, and_assoc]

/-- **Blocks can be released in any order.** -/
theorem exists_releaseAll (h : a.Layout) (hnodup : blocks.Nodup)
    (hmem : ∀ r ∈ blocks, r ∈ a.reserved.entries) :
    ∃ a', ∀ order : List (Address × Word), order.Perm blocks →
      (releaseAll order).outcome a = (.ok (), a') := by
  obtain ⟨a', -, ha', hspans, hleft⟩ := h.outcome_releaseAll hnodup hmem
  refine ⟨a', ?_⟩
  intro order hperm
  have hmem' : ∀ r ∈ order, r ∈ a.reserved.entries := by
    intro r hr
    exact hmem r (hperm.mem_iff.1 hr)
  obtain ⟨b, hrun, hb, hspans', hleft'⟩ := h.outcome_releaseAll (hperm.nodup_iff.2 hnodup) hmem'
  have hsame : b = a' := by
    apply hb.eq_of_same ha'
    · rw [hspans', hspans]
    · apply ext_mem
      intro r
      rw [hleft', hleft, hperm.mem_iff]
  rw [hrun, hsame]

end Layout

/-- **An arena does not remember how it came about.** Two histories that lead to the same spans and
the same reserved blocks lead to the same free extents and counters, and every operation after
either has the same outcome after the other. A release takes a reservation back, and the order in
which blocks are released does not matter. -/
theorem history_independence (history : List Op) :
    (∀ other : List Op, (after other).spans = (after history).spans →
      (after other).reserved = (after history).reserved →
      (after other).free = (after history).free ∧
      (after other).spanBytes = (after history).spanBytes ∧
      (after other).freeBytes = (after history).freeBytes ∧
      ∀ (later : List Op) (op : Op), op.perform.outcome (after (other ++ later)) =
        op.perform.outcome (after (history ++ later))) ∧
    (∀ (size align boundary : Word) (spot : Address) (a : Arena),
      (reserve size align boundary).outcome (after history) = (.ok (some spot), a) →
      (release spot size).outcome a = (.ok (), after history)) ∧
    (∀ blocks : List (Address × Word), blocks.Nodup →
      (∀ r ∈ blocks, r ∈ (after history).reserved.entries) →
      ∃ a, ∀ order : List (Address × Word), order.Perm blocks →
        (releaseAll order).outcome (after history) = (.ok (), a)) := by
  have h := Layout.after history
  refine ⟨?_, ?_, ?_⟩
  · intro other hspans hreserved
    have hsame : after other = after history :=
      (Layout.after other).eq_of_same h hspans hreserved
    refine ⟨congrArg Arena.free hsame, congrArg spanBytes hsame, congrArg freeBytes hsame, ?_⟩
    intro later op
    have hlater : after (other ++ later) = after (history ++ later) := by
      unfold after at hsame ⊢
      rw [List.foldl_append, List.foldl_append, hsame]
    rw [hlater]
  · intro size align boundary spot a hrun
    exact h.outcome_release_of_reserve hrun
  · intro blocks hnodup hmem
    exact h.exists_releaseAll hnodup hmem

/-- Two ways to one block in a span of 256 bytes: beside a long block that is released, and beside
two short ones that are released from below and join up to what the long one was. In the arena
that both lead to, a reservation is taken back, and two blocks are released in either order. -/
theorem history_independence_sample :
    let long : List Op := [.addSpan ⟨⟨4096⟩, 256⟩, .reserve 128 16 0, .reserve 64 16 0,
      .release ⟨4096⟩ 128]
    let short : List Op := [.addSpan ⟨⟨4096⟩, 256⟩, .reserve 64 16 0, .reserve 64 16 0,
      .reserve 64 16 0, .release ⟨4096⟩ 64, .release ⟨4160⟩ 64]
    let full : List Op := short ++ [.reserve 128 16 0]
    ((after short).spans = (after long).spans ∧ (after short).reserved = (after long).reserved ∧
      (after short).free = (after long).free) ∧
    (reserve 128 16 0).outcome (after short) = (.ok (some ⟨4096⟩), after full) ∧
    (release ⟨4096⟩ 128).outcome (after full) = (.ok (), after short) ∧
    ∃ a, (releaseAll [(⟨4096⟩, 128), (⟨4224⟩, 64)]).outcome (after full) = (.ok (), a) ∧
      (releaseAll [(⟨4224⟩, 64), (⟨4096⟩, 128)]).outcome (after full) = (.ok (), a) := by
  intro long short full
  have hspans : (after short).spans = (after long).spans := by
    apply AddressMap.ext
    decide +kernel
  have hreserved : (after short).reserved = (after long).reserved := by
    apply AddressMap.ext
    decide +kernel
  have hrun : (reserve 128 16 0).outcome (after short) = (.ok (some ⟨4096⟩), after full) := rfl
  obtain ⟨hsame, -, -⟩ := history_independence long
  obtain ⟨-, hback, -⟩ := history_independence short
  obtain ⟨-, -, horder⟩ := history_independence full
  obtain ⟨a, hall⟩ := horder [(⟨4096⟩, 128), (⟨4224⟩, 64)] (by decide) (by decide +kernel)
  refine ⟨⟨hspans, hreserved, (hsame short hspans hreserved).1⟩, hrun,
    hback 128 16 0 ⟨4096⟩ _ hrun, a, hall _ (List.Perm.refl _), hall _ (List.Perm.swap _ _ _)⟩

end Arena

end BusPool
