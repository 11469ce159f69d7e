import BusPool.Proofs.AddressMap
import BusPool.Proofs.Placement

/-!
# Slots

The slots of a stretch of the bus are what a greedy packing makes of it: the first slot is the
lowest admitted address, and each further one is the lowest admitted address at or after the end
of the block in the slot before (**`Config.SlotAt`**). Only slots whose block ends within the
stretch count (**`Config.IsSlot`**).

Slots know nothing of blocks that come and go. They depend on the parameters and on where the
stretch starts and ends, and blocks in different slots lie apart (**`Config.SlotAt.apart`**).
-/

namespace BusPool.Config

variable {c : Config} {base j k x a b : Nat}

/-- There is an admitted address from any point on. -/
theorem Valid.exists_isNext (hc : c.Valid) (x : Nat) : ∃ a, c.IsNext x a := by
  by_cases h : c.boundary ≠ 0 → c.nextAligned x / c.boundary.toNat =
      (c.nextAligned x + c.blockSize.toNat - 1) / c.boundary.toNat
  · exact ⟨_, hc.isNext_nextAligned h⟩
  · obtain ⟨hb, hcross⟩ := not_forall.1 h
    exact ⟨_, hc.isNext_nextBoundary hb hcross⟩

/-- The slots counted from `base`, wherever the stretch may end. -/
inductive SlotAt (c : Config) (base : Nat) : Nat → Nat → Prop
  /-- The first slot is the lowest admitted address. -/
  | first {a : Nat} (next : c.IsNext base a) : SlotAt c base 0 a
  /-- The next slot is the lowest admitted address at or after the end of the block before. -/
  | after {k a b : Nat} (slot : SlotAt c base k a) (next : c.IsNext (a + c.blockSize.toNat) b) :
    SlotAt c base (k + 1) b

namespace SlotAt

/-- Slots are admitted addresses. -/
theorem admits (h : c.SlotAt base k a) : c.Admits a := by
  cases h with
  | first next => exact next.admits
  | after _ next => exact next.admits

/-- Slots lie at or above the point that they are counted from. -/
theorem base_le (h : c.SlotAt base k a) : base ≤ a := by
  induction h with
  | first next => exact next.le
  | after _ next ih => exact Nat.le_trans ih (Nat.le_trans (Nat.le_add_right _ _) next.le)

/-- There is one slot of each number. -/
theorem unique (ha : c.SlotAt base k a) (hb : c.SlotAt base k b) : a = b := by
  induction ha generalizing b with
  | first next =>
    cases hb with
    | first next' => exact next.unique next'
  | after _ next ih =>
    cases hb with
    | after slot' next' =>
      rw [ih slot'] at next
      exact next.unique next'

/-- The block in a slot ends before every later slot. -/
theorem apart (ha : c.SlotAt base j a) (hb : c.SlotAt base k b) (hlt : j < k) :
    a + c.blockSize.toNat ≤ b := by
  induction hb with
  | first => exact absurd hlt (Nat.not_lt_zero _)
  | @after k b b' hb next ih =>
    rcases Nat.lt_or_eq_of_le (Nat.le_of_lt_succ hlt) with hlt | rfl
    · exact Nat.le_trans (ih hlt) (Nat.le_trans (Nat.le_add_right _ _) next.le)
    · rw [ha.unique hb]
      exact next.le

end SlotAt

/-- A slot of a stretch: the block in it ends within the stretch. -/
structure IsSlot (c : Config) (s : Address × Word) (a : Nat) : Prop where
  /-- It is one of the slots counted from the start of the stretch. -/
  counted : ∃ k, c.SlotAt s.1.toNat k a
  /-- The block in it ends within the stretch. -/
  fits : a + c.blockSize.toNat ≤ stopOf s

namespace IsSlot

variable {s : Address × Word}

/-- A slot lies in its stretch. -/
theorem start_le (h : c.IsSlot s a) : s.1.toNat ≤ a := by
  obtain ⟨k, hk⟩ := h.counted
  exact hk.base_le

/-- A slot is an admitted address. -/
theorem admits (h : c.IsSlot s a) : c.Admits a := by
  obtain ⟨k, hk⟩ := h.counted
  exact hk.admits

/-- Blocks in different slots of a stretch lie apart. -/
theorem apart (ha : c.IsSlot s a) (hb : c.IsSlot s b) (hne : a ≠ b) :
    a + c.blockSize.toNat ≤ b ∨ b + c.blockSize.toNat ≤ a := by
  obtain ⟨j, hj⟩ := ha.counted
  obtain ⟨k, hk⟩ := hb.counted
  rcases Nat.lt_trichotomy j k with hlt | rfl | hlt
  · exact .inl (hj.apart hk hlt)
  · exact absurd (hj.unique hk) hne
  · exact .inr (hk.apart hj hlt)

/-- The lowest admitted address of the stretch is a slot if the block there fits. -/
theorem first (h : c.IsNext s.1.toNat a) (hfits : a + c.blockSize.toNat ≤ stopOf s) :
    c.IsSlot s a :=
  ⟨⟨0, .first h⟩, hfits⟩

/-- The lowest admitted address after the block in a slot is a slot if the block there fits. -/
theorem next (h : c.IsSlot s a) (hnext : c.IsNext (a + c.blockSize.toNat) b)
    (hfits : b + c.blockSize.toNat ≤ stopOf s) : c.IsSlot s b := by
  obtain ⟨k, hk⟩ := h.counted
  exact ⟨⟨k + 1, .after hk hnext⟩, hfits⟩

end IsSlot

/-- The slots of all stretches of a map. -/
def slots (c : Config) (spans : AddressMap Word) : Set Nat :=
  {n | ∃ s ∈ spans.entries, c.IsSlot s n}

/-- Blocks in different slots of spaced stretches lie apart. -/
theorem slots_apart {spans : AddressMap Word} (hspans : spans.Spaced stopOf)
    (ha : a ∈ c.slots spans) (hb : b ∈ c.slots spans) (hne : a ≠ b) :
    a + c.blockSize.toNat ≤ b ∨ b + c.blockSize.toNat ≤ a := by
  obtain ⟨s, hs, has⟩ := ha
  obtain ⟨t, ht, hbt⟩ := hb
  by_cases hkey : s.1 = t.1
  · have := AddressMap.entry_eq_of_mem hs ht hkey
    subst this
    exact has.apart hbt hne
  · rcases hspans.apart hs ht hkey with hap | hap
    · exact .inl (Nat.le_trans has.fits (Nat.le_trans hap hbt.start_le))
    · exact .inr (Nat.le_trans hbt.fits (Nat.le_trans hap has.start_le))

end BusPool.Config
