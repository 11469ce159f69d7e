import BusPool.Address
import Mathlib.Data.Nat.Bitwise
import Mathlib.Order.Bounds.Basic

/-!
# Masks of a power of two

What the masks used for alignments and boundaries compute, in `Nat`. For a power of two `p` the
bits of `p - 1` select the remainder modulo `p`, so that keeping the other bits rounds down
(**`Word.toNat_and_not_pred`**), setting them gives the last word before the next multiple
(**`Word.toNat_or_pred`**), and two words have the same quotient exactly when their exclusive or
vanishes above them (**`Word.toNat_xor_div_eq_zero_iff`**). Where the next multiple lies is said
once, for numbers of any size (**`Word.isLeast_nextMultiple`**).

Rounding an address up is exact where there is a multiple above it
(**`Address.toNat_roundUp`**), and falls below the address where there is none
(**`Address.roundUp_lt`**).
-/

namespace BusPool

namespace Word

variable {p : Word}

/-! ### Powers of two as words -/

/-- A power of two is positive. -/
theorem pos_of_isPowerOfTwo (hp : isPowerOfTwo p = true) : 0 < p.toNat :=
  Nat.pos_of_isPowerOfTwo (isPowerOfTwo_iff.1 hp)

/-- The predecessor of a power of two does not wrap. -/
theorem toNat_pred (hp : isPowerOfTwo p = true) : (p - 1).toNat = p.toNat - 1 := by
  have hpos : 1 ≤ p.toNat := pos_of_isPowerOfTwo hp
  have hle : (1 : Word) ≤ p := UInt64.le_iff_toNat_le.2 hpos
  rw [UInt64.toNat_sub_of_le _ _ hle]
  rfl

/-- The top of the bus is a multiple of every power of two. -/
theorem dvd_size (hp : isPowerOfTwo p = true) : p.toNat ∣ UInt64.size := by
  obtain ⟨k, hk⟩ := isPowerOfTwo_iff.1 hp
  have hlt : 2 ^ k < 2 ^ 64 := hk ▸ toNat_lt p
  have hk64 : k ≤ 64 := Nat.le_of_lt ((Nat.pow_lt_pow_iff_right (by omega)).1 hlt)
  rw [hk, show UInt64.size = 2 ^ 64 from rfl]
  exact Nat.pow_dvd_pow 2 hk64

/-- Of two powers of two the larger is a multiple of the smaller. -/
theorem dvd_of_le {q : Word} (hp : isPowerOfTwo p = true) (hq : isPowerOfTwo q = true)
    (h : p.toNat ≤ q.toNat) : p.toNat ∣ q.toNat := by
  obtain ⟨k, hk⟩ := isPowerOfTwo_iff.1 hp
  obtain ⟨l, hl⟩ := isPowerOfTwo_iff.1 hq
  rw [hk, hl] at h ⊢
  exact Nat.pow_dvd_pow 2 ((Nat.pow_le_pow_iff_right (by omega)).1 h)

/-- Adding the largest remainder and rounding down gives the least multiple from a number on. -/
theorem isLeast_nextMultiple (hp : isPowerOfTwo p = true) (n : Nat) :
    IsLeast {m | p.toNat ∣ m ∧ n ≤ m} ((n + (p.toNat - 1)) / p.toNat * p.toNat) := by
  have hpos := pos_of_isPowerOfTwo hp
  refine ⟨⟨Nat.dvd_mul_left _ _, ?_⟩, ?_⟩
  · have hdiv := Nat.div_add_mod (n + (p.toNat - 1)) p.toNat
    have hmod := Nat.mod_lt (n + (p.toNat - 1)) hpos
    rw [Nat.mul_comm] at hdiv
    omega
  · rintro m ⟨⟨q, rfl⟩, hle⟩
    have hquot : (n + (p.toNat - 1)) / p.toNat ≤ q := by
      rw [← Nat.lt_succ_iff, Nat.div_lt_iff_lt_mul hpos, Nat.succ_mul, Nat.mul_comm q]
      omega
    rw [Nat.mul_comm p.toNat q]
    exact Nat.mul_le_mul_right _ hquot

/-- The multiple is an address exactly when the sum is: the top of the bus is a multiple itself. -/
theorem nextMultiple_lt_size_iff (hp : isPowerOfTwo p = true) {n : Nat} :
    (n + (p.toNat - 1)) / p.toNat * p.toNat < UInt64.size ↔
      n + (p.toNat - 1) < UInt64.size := by
  refine ⟨fun hlt => ?_, Nat.lt_of_le_of_lt (Nat.div_mul_le_self _ _)⟩
  obtain ⟨q, hq⟩ := dvd_size hp
  rw [hq, Nat.mul_comm] at hlt ⊢
  exact (Nat.div_lt_iff_lt_mul (pos_of_isPowerOfTwo hp)).1 (Nat.lt_of_mul_lt_mul_left hlt)

/-! ### Masks -/

/-- The bits below a power of two are the remainder. -/
theorem toNat_and_pred (hp : isPowerOfTwo p = true) (a : Word) :
    (a &&& (p - 1)).toNat = a.toNat % p.toNat := by
  obtain ⟨k, hk⟩ := isPowerOfTwo_iff.1 hp
  rw [UInt64.toNat_and, toNat_pred hp, hk, Nat.and_two_pow_sub_one_eq_mod]

/-- Clearing the bits below a power of two rounds down. -/
theorem toNat_and_not_pred (hp : isPowerOfTwo p = true) (a : Word) :
    (a &&& ~~~(p - 1)).toNat = a.toNat / p.toNat * p.toNat := by
  obtain ⟨k, hk⟩ := isPowerOfTwo_iff.1 hp
  have ha : a.toNat < 2 ^ 64 := toNat_lt a
  have hlt : 2 ^ k < 2 ^ 64 := hk ▸ toNat_lt p
  have hmask : (~~~(p - 1)).toNat = 2 ^ 64 - ((2 ^ k - 1) + 1) := by
    rw [UInt64.toNat_not, toNat_pred hp, hk, size_eq]
    omega
  rw [UInt64.toNat_and, hmask, hk]
  apply Nat.eq_of_testBit_eq
  intro i
  rw [Nat.testBit_and, Nat.testBit_two_pow_sub_succ (by omega), Nat.testBit_mul_two_pow,
    Nat.testBit_div_two_pow, Nat.testBit_two_pow_sub_one]
  by_cases hi : k ≤ i
  · by_cases h64 : i < 64
    · simp [hi, h64]
    · have : a.toNat.testBit i = false :=
        Nat.testBit_lt_two_pow
          (Nat.lt_of_lt_of_le ha (Nat.pow_le_pow_right (by omega) (Nat.not_lt.1 h64)))
      simp [hi, this]
  · simp only [hi, decide_false, Bool.false_and]
    simp
    omega

/-- Setting the bits below a power of two gives the last word before the next multiple. -/
theorem toNat_or_pred (hp : isPowerOfTwo p = true) (a : Word) :
    (a ||| (p - 1)).toNat = a.toNat / p.toNat * p.toNat + (p.toNat - 1) := by
  obtain ⟨k, hk⟩ := isPowerOfTwo_iff.1 hp
  have hpow := Nat.one_le_two_pow (n := k)
  rw [UInt64.toNat_or, toNat_pred hp, hk, Nat.mul_comm,
    Nat.two_pow_add_eq_or_of_lt (by omega)]
  apply Nat.eq_of_testBit_eq
  intro i
  simp only [Nat.testBit_or, Nat.testBit_two_pow_mul, Nat.testBit_div_two_pow,
    Nat.testBit_two_pow_sub_one]
  by_cases hi : k ≤ i
  · simp [hi]
  · simp [hi]
    omega

/-- Two words differ above a power of two exactly when they have different quotients. -/
theorem toNat_xor_div_eq_zero_iff (hp : isPowerOfTwo p = true) (a b : Word) :
    (a ^^^ b).toNat / p.toNat = 0 ↔ a.toNat / p.toNat = b.toNat / p.toNat := by
  obtain ⟨k, hk⟩ := isPowerOfTwo_iff.1 hp
  rw [UInt64.toNat_xor, hk, Nat.xor_div_two_pow]
  exact Nat.xor_eq_zero_iff

end Word

namespace Address

variable {p : Word} {a : Address}

/-! ### Rounding up -/

/-- Being a multiple is having no remainder. -/
theorem isMultipleOf_iff (hp : Word.isPowerOfTwo p = true) :
    a.isMultipleOf p = true ↔ p.toNat ∣ a.toNat := by
  rw [isMultipleOf, beq_iff_eq, ← UInt64.toNat_inj, Word.toNat_and_pred hp,
    Nat.dvd_iff_mod_eq_zero]
  rfl

/-- What rounding up gives is a multiple, also where there is none above the address. -/
theorem dvd_toNat_roundUp (hp : Word.isPowerOfTwo p = true) (a : Address) :
    p.toNat ∣ (a.roundUp p).toNat := by
  cases hsum : Word.add? a.word (p - 1) <;>
    simp only [roundUp, hsum, toNat, Word.toNat_and_not_pred hp, Nat.dvd_mul_left]

/-- Rounding up is exact where the address and the largest remainder have a sum. -/
theorem toNat_roundUp (hp : Word.isPowerOfTwo p = true)
    (h : a.toNat + (p.toNat - 1) < UInt64.size) :
    (a.roundUp p).toNat = (a.toNat + (p.toNat - 1)) / p.toNat * p.toNat := by
  have hsum : Word.add? a.word (p - 1) = some (a.word + (p - 1)) := by
    rw [Word.add?, if_pos (by rw [Word.toNat_pred hp]; exact h)]
  have hexact := Word.add?_eq_some_iff.1 hsum
  rw [Word.toNat_pred hp] at hexact
  simp only [roundUp, hsum, toNat]
  rw [Word.toNat_and_not_pred hp, ← hexact]

/-- Rounding up falls below an address above which there is no multiple. -/
theorem roundUp_lt (hp : Word.isPowerOfTwo p = true)
    (h : UInt64.size ≤ a.toNat + (p.toNat - 1)) : (a.roundUp p).toNat < a.toNat := by
  by_contra hle
  -- what it gives is a multiple and an address, so that the least multiple would be one as well
  have hleast := (Word.isLeast_nextMultiple hp a.toNat).2 ⟨dvd_toNat_roundUp hp a, Nat.not_lt.1 hle⟩
  have hlt := Nat.lt_of_le_of_lt hleast (toNat_lt _)
  exact Nat.not_lt.2 h ((Word.nextMultiple_lt_size_iff hp).1 hlt)

end Address

end BusPool
