import BusPool.Config
import BusPool.Proofs.Attempt
import Mathlib.Order.Bounds.Basic

/-!
# What is asked for

A request of a pool in exact arithmetic: the bytes that a block may need wherever a grant starts
(**`Config.wanted`**), rounded up to the granularity of the store
(**`Config.growthRequest_eq_ok_iff`**). That is all there is to it. The checked sums on the way can
be taken as one exact sum (**`Config.growthRequest_eq`**): where one of them is no word, neither is
what is wanted.
-/

namespace BusPool

namespace Word

variable {a b : Word}

/-- A quotient is rounded up to the next number that, times the divisor, is enough. -/
theorem divCeil_le_iff (hb : 0 < b.toNat) {k : Nat} :
    (divCeil a b).toNat ≤ k ↔ a.toNat ≤ k * b.toNat := by
  have hlt := toNat_lt a
  have hdiv := Nat.div_add_mod a.toNat b.toNat
  have hrest : a % b = 0 ↔ a.toNat % b.toNat = 0 := by
    rw [← UInt64.toNat_inj, UInt64.toNat_mod]
    rfl
  unfold divCeil
  split
  · rename_i hzero
    rw [hrest] at hzero
    rw [hzero, Nat.add_zero, Nat.mul_comm] at hdiv
    rw [UInt64.toNat_div, ← Nat.mul_le_mul_right_iff hb, hdiv]
  · rename_i hzero
    rw [hrest] at hzero
    have hle : a.toNat / b.toNat ≤ b.toNat * (a.toNat / b.toNat) := Nat.le_mul_of_pos_left _ hb
    have hsum : Word.add? (a / b) 1 = some (a / b + 1) := by
      refine if_pos ?_
      rw [UInt64.toNat_div]
      show _ + 1 < _
      omega
    rw [← Word.add?_eq_some_iff.1 hsum, UInt64.toNat_div]
    show _ + 1 ≤ _ ↔ _
    rw [Nat.succ_le_iff, Nat.div_lt_iff_lt_mul hb, Nat.le_iff_lt_or_eq]
    refine (or_iff_left fun heq => hzero ?_).symm
    rw [heq, Nat.mul_mod_left]

/-- The rounded up quotient, times the divisor, is the lowest multiple that is enough. -/
theorem isLeast_divCeil_mul (hb : 0 < b.toNat) :
    IsLeast {k | b.toNat ∣ k ∧ a.toNat ≤ k} ((divCeil a b).toNat * b.toNat) := by
  refine ⟨⟨Nat.dvd_mul_left _ _, (divCeil_le_iff hb).1 (Nat.le_refl _)⟩, ?_⟩
  rintro k ⟨⟨q, rfl⟩, hle⟩
  rw [Nat.mul_comm] at hle ⊢
  exact Nat.mul_le_mul_left _ ((divCeil_le_iff hb).2 hle)

end Word

namespace Checked

variable {a b : Word} {n : Nat}

/-- A sum in exact arithmetic as a word, or the fault that it is none. -/
def sum (n : Nat) : Except Fault Word :=
  if n < UInt64.size then .ok (UInt64.ofNat n) else .error .addOverflow

/-- A sum that is a word. -/
theorem sum_eq_ok_iff : sum n = .ok a ↔ n = a.toNat := by
  unfold sum
  split
  · rename_i hlt
    rw [Except.ok.injEq, ← UInt64.toNat_inj, UInt64.toNat_ofNat_of_lt' hlt]
  · rename_i hge
    have hlt := Word.toNat_lt a
    constructor
    · intro h
      cases h
    · omega

/-- There is a word for every number below `UInt64.size`. -/
theorem exists_sum (h : n < UInt64.size) : ∃ a : Word, n = a.toNat :=
  ⟨_, sum_eq_ok_iff.1 (if_pos h)⟩

/-- A sum that is none. -/
theorem sum_eq_error (h : UInt64.size ≤ n) : sum n = .error .addOverflow := if_neg (Nat.not_lt.2 h)

/-- A checked sum is the exact one. -/
theorem add_eq_sum : add a b = sum (a.toNat + b.toNat) := by
  rcases Nat.lt_or_ge (a.toNat + b.toNat) UInt64.size with hlt | hge
  · obtain ⟨c, hc⟩ := exists_sum hlt
    rw [add_eq_ok_iff.2 hc, sum_eq_ok_iff.2 hc]
  · rw [sum_eq_error hge, add, Word.add?_eq_none_iff.2 hge]
    rfl

/-- Sums can be taken one after the other: if the first is no word, neither is the second. -/
theorem sum_bind_add : (sum n >>= fun a => add a b) = sum (n + b.toNat) := by
  rcases Nat.lt_or_ge n UInt64.size with hlt | hge
  · obtain ⟨a, rfl⟩ := exists_sum hlt
    rw [sum_eq_ok_iff.2 rfl]
    exact add_eq_sum
  · rw [sum_eq_error hge, sum_eq_error (Nat.le_trans hge (Nat.le_add_right _ _))]
    rfl

/-- A checked product finishes, or there is none. -/
theorem mul_cases (a b : Word) : (∃ c, mul a b = .ok c) ∨ mul a b = .error .mulOverflow := by
  unfold mul
  cases Word.mul? a b with
  | none => exact .inr rfl
  | some c => exact .inl ⟨c, rfl⟩

end Checked

namespace Config

variable {c : Config} {granularity n : Word}

/-- How many bytes hold a block wherever they start, given that they start at a multiple of the
granularity. -/
def wanted (c : Config) (granularity : Word) : Nat :=
  c.blockSize.toNat + (c.align.toNat - granularity.toNat) +
    if c.boundary ≠ 0 then c.blockSize.toNat else 0

/-- What a request is: the least multiple of the granularity that is enough. -/
def RoundsUpTo (granularity : Word) (want : Nat) (n : Word) : Prop :=
  0 < granularity.toNat ∧ IsLeast {k | granularity.toNat ∣ k ∧ want ≤ k} n.toNat

/-- The last step of a request rounds up. -/
private theorem roundedUp_eq_ok_iff {want : Word} :
    (Checked.divCeil want granularity >>= fun count => Checked.mul count granularity) = .ok n ↔
      RoundsUpTo granularity want.toNat n := by
  rw [bind_eq_ok_iff]
  unfold Checked.divCeil
  split
  · rename_i hzero
    simp [RoundsUpTo, hzero]
  · rename_i hzero
    have hpos : 0 < granularity.toNat := by
      rw [← UInt64.toNat_inj] at hzero
      exact Nat.pos_of_ne_zero hzero
    have hleast := Word.isLeast_divCeil_mul (a := want) hpos
    simp only [Except.ok.injEq, exists_eq_left', Checked.mul_eq_ok_iff]
    exact ⟨fun h => ⟨hpos, h ▸ hleast⟩, fun h => hleast.unique h.2⟩

/-- **A request in two steps**: the exact sum of what is wanted, rounded up. -/
theorem growthRequest_eq : c.growthRequest granularity =
    (Checked.sum (c.wanted granularity) >>= fun want =>
      Checked.divCeil want granularity >>= fun count => Checked.mul count granularity) := by
  have haligned : (if c.align > granularity then Checked.add c.blockSize (c.align - granularity)
      else pure c.blockSize) =
      Checked.sum (c.blockSize.toNat + (c.align.toNat - granularity.toNat)) := by
    split
    · rename_i hlarge
      rw [Checked.add_eq_sum, UInt64.toNat_sub_of_le _ _ (UInt64.le_of_lt hlarge)]
    · rename_i hsmall
      have hle := UInt64.le_iff_toNat_le.1 (UInt64.not_lt.1 hsmall)
      rw [Nat.sub_eq_zero_of_le hle, Nat.add_zero]
      exact (Checked.sum_eq_ok_iff.2 rfl).symm
  have hwant : (Checked.sum (c.blockSize.toNat + (c.align.toNat - granularity.toNat)) >>=
      fun aligned => if c.boundary ≠ 0 then Checked.add aligned c.blockSize else pure aligned) =
      Checked.sum (c.wanted granularity) := by
    unfold wanted
    split
    · exact Checked.sum_bind_add
    · exact bind_pure _
  rw [← hwant, ← haligned, bind_assoc]
  unfold growthRequest
  by_cases hlarge : c.align > granularity <;> by_cases hb : c.boundary = 0 <;>
    simp only [hlarge, hb, ne_eq, not_true, not_false_eq_true, if_true, if_false]

/-- **A request is the least multiple of the granularity that is wanted**, if that is a word. -/
theorem growthRequest_eq_ok_iff :
    c.growthRequest granularity = .ok n ↔ RoundsUpTo granularity (c.wanted granularity) n := by
  rw [growthRequest_eq, bind_eq_ok_iff]
  simp only [Checked.sum_eq_ok_iff, roundedUp_eq_ok_iff]
  constructor
  · rintro ⟨want, hwant, h⟩
    rwa [hwant]
  · intro h
    have hlt : c.wanted granularity < UInt64.size := Nat.lt_of_le_of_lt h.2.1.2 (Word.toNat_lt n)
    obtain ⟨want, hwant⟩ := Checked.exists_sum hlt
    exact ⟨want, hwant, hwant ▸ h⟩

/-- A request has bytes. -/
theorem Valid.growthRequest_pos (hc : c.Valid) (h : c.growthRequest granularity = .ok n) :
    0 < n.toNat := by
  have hpos := hc.blockSize_pos
  have hwanted := (growthRequest_eq_ok_iff.1 h).2.1.2
  unfold wanted at hwanted
  omega

end Config

end BusPool
