import BusPool.Proofs.Slots
import Mathlib.Data.Finset.Max

/-!
# Packings of a stretch

A *packing* of a stretch is any choice of places for blocks, as long as blocks may start there, lie
inside the stretch and do not meet. No packing has more blocks than the stretch has slots
(**`Config.isGreatest_packingSizes`**), so blocks in all the slots are as many as fit, wherever one
might have put them instead.

The slots stay ahead of every packing: the slot of number `k` lies at or below the place of number
`k`, counted from below (**`Config.Packing.exists_slot_le`**).
-/

namespace BusPool.Config

variable {c : Config} {s : Address × Word} {places : Finset Nat} {k : Nat}

/-- Places in a stretch at which blocks can be at the same time. -/
structure Packing (c : Config) (s : Address × Word) (places : Finset Nat) : Prop where
  /-- Blocks may start there. -/
  admitted : ∀ n ∈ places, c.Admits n
  /-- The blocks lie inside the stretch. -/
  inside : ∀ n ∈ places, s.1.toNat ≤ n ∧ n + c.blockSize.toNat ≤ stopOf s
  /-- The blocks do not meet. -/
  apart : ∀ m ∈ places, ∀ n ∈ places, m ≠ n →
    m + c.blockSize.toNat ≤ n ∨ n + c.blockSize.toNat ≤ m

/-- How many blocks the packings of a stretch have. -/
def packingSizes (c : Config) (s : Address × Word) : Set Nat :=
  {k | ∃ places, c.Packing s places ∧ places.card = k}

namespace Packing

/-- Some of the places of a packing are a packing. -/
theorem subset (h : c.Packing s places) {fewer : Finset Nat} (hsub : fewer ⊆ places) :
    c.Packing s fewer where
  admitted := by
    intro n hn
    exact h.admitted n (hsub hn)
  inside := by
    intro n hn
    exact h.inside n (hsub hn)
  apart := by
    intro m hm n hn
    exact h.apart m (hsub hm) n (hsub hn)

/-- **The slots stay ahead.** In a packing of `k + 1` blocks some block starts at or above the slot
of number `k`. The induction takes the highest block away: the slot before lies at or below one of
the others, which ends below the highest. -/
theorem exists_slot_le (h : c.Packing s places) (hc : c.Valid) (hcard : places.card = k + 1) :
    ∃ a, c.SlotAt s.1.toNat k a ∧ ∃ p ∈ places, a ≤ p := by
  have hne : places.Nonempty := by
    rw [← Finset.card_pos, hcard]
    exact Nat.succ_pos k
  induction k generalizing places with
  | zero =>
    obtain ⟨p, hp⟩ := hne
    obtain ⟨a, ha⟩ := hc.exists_isNext s.1.toNat
    exact ⟨a, .first ha, p, hp, ha.le_of_admits (h.inside p hp).1 (h.admitted p hp)⟩
  | succ k ih =>
    have htop := places.max'_mem hne
    generalize hq : places.max' hne = q at htop
    have hrest : (places.erase q).card = k + 1 := by
      rw [Finset.card_erase_of_mem htop, hcard, Nat.add_sub_cancel]
    have hne' : (places.erase q).Nonempty := by
      rw [← Finset.card_pos, hrest]
      exact Nat.succ_pos k
    obtain ⟨a, ha, p, hp, hle⟩ := ih (h.subset (places.erase_subset q)) hrest hne'
    obtain ⟨hpq, hp⟩ := Finset.mem_erase.1 hp
    have hmax : p ≤ q := by
      rw [← hq]
      exact places.le_max' p hp
    have hend : p + c.blockSize.toNat ≤ q := by
      have hpos := hc.blockSize_pos
      have := h.apart p hp q htop hpq
      omega
    obtain ⟨b, hb⟩ := hc.exists_isNext (a + c.blockSize.toNat)
    refine ⟨b, .after ha hb, q, htop, ?_⟩
    exact hb.le_of_admits (Nat.le_trans (Nat.add_le_add_right hle _) hend) (h.admitted q htop)

/-- A stretch with a packing of more than `k` blocks has a slot of number `k`. -/
theorem exists_slot (h : c.Packing s places) (hc : c.Valid) (hlt : k < places.card) :
    ∃ a, c.SlotAt s.1.toNat k a ∧ c.IsSlot s a := by
  obtain ⟨fewer, hsub, hcard⟩ := Finset.exists_subset_card_eq (Nat.succ_le_of_lt hlt)
  obtain ⟨a, ha, p, hp, hle⟩ := (h.subset hsub).exists_slot_le hc hcard
  refine ⟨a, ha, ⟨k, ha⟩, ?_⟩
  exact Nat.le_trans (Nat.add_le_add_right hle _) (h.inside p (hsub hp)).2

/-- No packing has more blocks than the stretch has slots. -/
theorem card_le (h : c.Packing s places) (hc : c.Valid) {slots : Finset Nat}
    (hslots : ∀ n, c.IsSlot s n → n ∈ slots) : places.card ≤ slots.card := by
  have hslot : ∀ k, ∃ a, k < places.card → c.SlotAt s.1.toNat k a ∧ a ∈ slots := by
    intro k
    by_cases hlt : k < places.card
    · obtain ⟨a, ha, hin⟩ := h.exists_slot hc hlt
      exact ⟨a, fun _ => ⟨ha, hslots a hin⟩⟩
    · exact ⟨0, fun hlt' => absurd hlt' hlt⟩
  choose slot hslot using hslot
  have hpos := hc.blockSize_pos
  rw [← Finset.card_range places.card]
  apply Finset.card_le_card_of_injOn slot
  · intro k hk
    exact (hslot k (List.mem_range.1 hk)).2
  · -- slots of different numbers lie apart
    intro j hj k hk heq
    have hj := (hslot j (List.mem_range.1 hj)).1
    have hk := (hslot k (List.mem_range.1 hk)).1
    rcases Nat.lt_trichotomy j k with hlt | heq' | hlt
    · have := hj.apart hk hlt
      omega
    · exact heq'
    · have := hk.apart hj hlt
      omega

end Packing

/-- The slots of a stretch are a packing. -/
theorem packing_slots {slots : Finset Nat} (hslots : ∀ n ∈ slots, c.IsSlot s n) :
    c.Packing s slots where
  admitted := by
    intro n hn
    exact (hslots n hn).admits
  inside := by
    intro n hn
    exact ⟨(hslots n hn).start_le, (hslots n hn).fits⟩
  apart := by
    intro m hm n hn hne
    exact (hslots m hm).apart (hslots n hn) hne

/-- **Blocks in all slots are as many as fit.** -/
theorem isGreatest_packingSizes (hc : c.Valid) {slots : Finset Nat}
    (hslots : ∀ n, n ∈ slots ↔ c.IsSlot s n) : IsGreatest (c.packingSizes s) slots.card := by
  constructor
  · exact ⟨slots, packing_slots fun n hn => (hslots n).1 hn, rfl⟩
  · rintro _ ⟨places, hplaces, rfl⟩
    exact hplaces.card_le hc fun n hn => (hslots n).2 hn

end BusPool.Config
