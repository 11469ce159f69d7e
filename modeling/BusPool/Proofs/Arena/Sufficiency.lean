import BusPool.Proofs.Arena.FirstFit
import BusPool.Proofs.Growth
import BusPool.Proofs.Room

/-!
# What is asked for suffices

A pool that has no room for a block asks for as many bytes as **`Config.growthRequest`** says and
adds what it is given as a span. How the request comes about is not visible to the arena; that it
is enough has to follow from the arithmetic alone. A span of at least that length has room for a
block wherever it starts, provided that it starts at a multiple of the granularity
(`Config.Valid.exists_room`): for alignments coarser than the granularity, with a boundary in the
way, and right below the top of the bus.

No reserved block reaches into a span that was just added, so that the room is free
(**`Layout.fits_of_addSpan`**). **`request_suffices`**: after any history the span can be added
and the reservation after it succeeds.
-/

namespace BusPool.Arena

open AddressMap Attempt

namespace Layout

variable {a a' : Arena} {size align boundary : Word} {span : Extent} {n : Nat}

/-- Every admitted block inside a span that was just added fits. -/
theorem fits_of_addSpan (h : a.Layout) (hadd : a.Addable span)
    (hspans : a'.spans = a.spans.insert span.start span.len) (hreserved : a'.reserved = a.reserved)
    (hadmits : (⟨size, align, boundary⟩ : Config).Admits n) (hlow : span.start.toNat ≤ n)
    (hhigh : n + size.toNat ≤ span.start.toNat + span.len.toNat) :
    a'.Fits size align boundary n := by
  have hnew : (span.start, span.len) ∈ a'.spans.entries := by
    rw [hspans]
    exact mem_insert.2 (.inl rfl)
  refine ⟨hadmits.aligned, hadmits.uncrossed, ⟨_, hnew, hlow, hhigh⟩, fun i hi hi' => ?_⟩
  rw [hreserved]
  rintro ⟨r, hr, hri⟩
  -- the block lies in an older span, which would share the byte with the new one
  obtain ⟨s, hs, hstart, hstop⟩ := h.block_home r hr
  have hsi : Holds s i := ⟨Nat.le_trans hstart hri.1, Nat.lt_of_lt_of_le hri.2 hstop⟩
  have hspan : Holds (span.start, span.len) i :=
    ⟨Nat.le_trans hlow hi, Nat.lt_of_lt_of_le hi' hhigh⟩
  exact (h.addable_iff.1 hadd).2.2 s hs ⟨i, hsi, hspan⟩

end Layout

/-- **What is asked for suffices.** Take any history, parameters that are accepted, and a
granularity for which there is a request. Whatever span is granted, as long as it is no shorter
than the request, starts at a multiple of the granularity, ends on the bus and shares no address
with an earlier span: it can be added, and a block can then be reserved. -/
theorem request_suffices (history : List Op) {c : Config} {granularity request : Word}
    {span : Extent} (haccepted : c.validate = .ok ())
    (hpow : Word.isPowerOfTwo granularity = true)
    (hrequest : c.growthRequest granularity = .ok request)
    (hstart : granularity.toNat ∣ span.start.toNat) (hlen : request.toNat ≤ span.len.toNat)
    (hstop : span.start.toNat + span.len.toNat ≤ UInt64.size - 1)
    (hapart : ∀ s ∈ (after history).spans.entries, ¬Meet s (span.start, span.len)) :
    ∃ a', (addSpan span).outcome (after history) = (.ok (), a') ∧
      ∃ spot a'', (reserve c.blockSize c.align c.boundary).outcome a' = (.ok (some spot), a'') := by
  have hc : c.Valid := Config.validate_eq_ok_iff.1 haccepted
  have hsize := Word.size_eq
  have hpos : 0 < span.len.toNat := Nat.lt_of_lt_of_le (hc.growthRequest_pos hrequest) hlen
  have hlayout := Layout.after history
  have hadd : (after history).Addable span := hlayout.addable_iff.2 ⟨hpos, by omega, hapart⟩
  obtain ⟨a', hrun, hlayout', hspans, hreserved⟩ := hlayout.outcome_addSpan hadd
  obtain ⟨n, hnext, hroom⟩ := hc.exists_room hpow hstart
  have hwanted : c.wanted granularity ≤ request.toNat :=
    (Config.growthRequest_eq_ok_iff.1 hrequest).2.1.2
  have hfits : a'.Fits c.blockSize c.align c.boundary n :=
    hlayout.fits_of_addSpan hadd hspans hreserved hnext.admits hnext.le (by omega)
  obtain ⟨spot, a'', hreserve, -⟩ := hlayout'.outcome_reserve_of_fits (reservable hc) hfits
  exact ⟨a', hrun, spot, a'', hreserve⟩

/-- Blocks of 96 bytes at multiples of 32 that cross no multiple of 128, from a store that grants at
multiples of 16. The one span is full; 208 bytes from 8240 on are enough, although a block at the
next multiple of 32 would cross a boundary. -/
theorem request_suffices_across_boundary :
    let history : List Op := [.addSpan ⟨⟨4096⟩, 128⟩, .reserve 96 32 128]
    Config.validate ⟨96, 32, 128⟩ = .ok () ∧ Config.growthRequest ⟨96, 32, 128⟩ 16 = .ok 208 ∧
    (reserve 96 32 128).outcome (after history) = (.ok none, after history) ∧
    ∃ a', (addSpan ⟨⟨8240⟩, 208⟩).outcome (after history) = (.ok (), a') ∧
      ∃ spot a'', (reserve 96 32 128).outcome a' = (.ok (some spot), a'') := by
  intro history
  have haccepted : Config.validate ⟨96, 32, 128⟩ = .ok () := rfl
  have hpow : Word.isPowerOfTwo 16 = true := by decide
  have hrequest : Config.growthRequest ⟨96, 32, 128⟩ 16 = .ok 208 := rfl
  refine ⟨haccepted, hrequest, rfl, ?_⟩
  apply request_suffices history haccepted hpow hrequest
  · decide
  · decide
  · decide
  · intro s hs
    obtain rfl : s = (⟨4096⟩, 128) := List.mem_singleton.1 hs
    rintro ⟨n, ⟨-, hbelow⟩, ⟨habove, -⟩⟩
    exact absurd (Nat.lt_of_le_of_lt habove hbelow) (by decide)

end BusPool.Arena
