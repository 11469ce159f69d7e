import BusPool.Attempt
import BusPool.Proofs.Masks

/-!
# Rounding to a power of two

What the masks give, said without them (**`rounding_exact`**). Rounding down gives the greatest
multiple at or below an address (**`Address.isGreatest_roundDown`**). Rounding up gives the least
one at or above it, as long as that is an address (**`Address.toNat_roundUp_of_isLeast`**).

Above the highest multiple of all there is none to round up to. Rounding up stays at the highest one
there (**`Address.roundUp_eq_highest`**). It falls below the address there and nowhere else
(**`Address.roundUp_lt_iff`**), so that the comparison of the two tells whether there is room above.
The order of addresses is kept all the same, and what is rounded stays as it is when rounded again.
-/

namespace BusPool

namespace Address

variable {p : Word} {a b : Address} {n : Nat}

/-! ### Rounding down -/

/-- **Rounding down gives the greatest multiple** at or below the address. -/
theorem isGreatest_roundDown (hp : Word.isPowerOfTwo p = true) (a : Address) :
    IsGreatest {n | p.toNat ∣ n ∧ n ≤ a.toNat} (a.roundDown p).toNat := by
  have hdown : (a.roundDown p).toNat = a.toNat / p.toNat * p.toNat := Word.toNat_and_not_pred hp _
  rw [hdown]
  refine ⟨⟨Nat.dvd_mul_left _ _, Nat.div_mul_le_self _ _⟩, ?_⟩
  rintro n ⟨⟨q, rfl⟩, hle⟩
  rw [Nat.mul_comm] at hle ⊢
  exact Nat.mul_le_mul_right _ ((Nat.le_div_iff_mul_le (Word.pos_of_isPowerOfTwo hp)).2 hle)

/-- A multiple is not moved down. -/
theorem roundDown_of_dvd (hp : Word.isPowerOfTwo p = true) (ha : p.toNat ∣ a.toNat) :
    a.roundDown p = a := by
  obtain ⟨⟨-, hle⟩, hgreatest⟩ := isGreatest_roundDown hp a
  exact toNat_inj.1 (Nat.le_antisymm hle (hgreatest ⟨ha, Nat.le_refl _⟩))

/-- Rounding down keeps the order. -/
theorem roundDown_mono (hp : Word.isPowerOfTwo p = true) (hab : a ≤ b) :
    a.roundDown p ≤ b.roundDown p := by
  obtain ⟨⟨hdvd, hle⟩, -⟩ := isGreatest_roundDown hp a
  exact (isGreatest_roundDown hp b).2 ⟨hdvd, Nat.le_trans hle hab⟩

/-! ### Rounding up -/

/-- **Rounding up gives the least multiple** at or above the address, where that is an address. -/
theorem toNat_roundUp_of_isLeast (hp : Word.isPowerOfTwo p = true)
    (hn : IsLeast {n | p.toNat ∣ n ∧ a.toNat ≤ n} n) (hlt : n < UInt64.size) :
    (a.roundUp p).toNat = n := by
  rw [hn.unique (Word.isLeast_nextMultiple hp a.toNat)] at hlt ⊢
  exact toNat_roundUp hp ((Word.nextMultiple_lt_size_iff hp).1 hlt)

/-- **Where that is none, rounding up gives the highest multiple of all**, which lies below. -/
theorem roundUp_eq_highest (hp : Word.isPowerOfTwo p = true)
    (hn : IsLeast {n | p.toNat ∣ n ∧ a.toNat ≤ n} n) (hge : UInt64.size ≤ n) :
    a.roundUp p = roundDown ⟨Word.top⟩ p ∧ a.roundUp p < a := by
  rw [hn.unique (Word.isLeast_nextMultiple hp a.toNat), ← Nat.not_lt,
    Word.nextMultiple_lt_size_iff hp, Nat.not_lt] at hge
  have hsum : Word.add? a.word (p - 1) = none := by
    rw [Word.add?_eq_none_iff, Word.toNat_pred hp]
    exact hge
  refine ⟨?_, roundUp_lt hp hge⟩
  simp only [roundUp, hsum, roundDown]

/-- What rounding up gives is at most the highest multiple of all. -/
theorem roundUp_le_highest (hp : Word.isPowerOfTwo p = true) (a : Address) :
    a.roundUp p ≤ roundDown ⟨Word.top⟩ p :=
  (isGreatest_roundDown hp _).2 ⟨dvd_toNat_roundUp hp a, Word.le_top _⟩

/-- With a multiple at or above the address, rounding up stays between the two. -/
theorem roundUp_le (hp : Word.isPowerOfTwo p = true) (hb : p.toNat ∣ b.toNat) (hab : a ≤ b) :
    a ≤ a.roundUp p ∧ a.roundUp p ≤ b := by
  have hleast := Word.isLeast_nextMultiple hp a.toNat
  have hle := hleast.2 ⟨hb, hab⟩
  have hround := toNat_roundUp_of_isLeast hp hleast (Nat.lt_of_le_of_lt hle b.toNat_lt)
  rw [le_iff, le_iff, hround]
  exact ⟨hleast.1.2, hle⟩

/-- **Rounding up falls below an address exactly where no multiple lies above it.** -/
theorem roundUp_lt_iff (hp : Word.isPowerOfTwo p = true) :
    a.roundUp p < a ↔ ¬∃ b : Address, p.toNat ∣ b.toNat ∧ a ≤ b := by
  constructor
  · rintro hlt ⟨b, hb, hab⟩
    exact Nat.not_le.2 hlt (roundUp_le hp hb hab).1
  · intro hnone
    by_contra hle
    exact hnone ⟨a.roundUp p, dvd_toNat_roundUp hp a, Nat.not_lt.1 hle⟩

/-- A multiple is not moved up. -/
theorem roundUp_of_dvd (hp : Word.isPowerOfTwo p = true) (ha : p.toNat ∣ a.toNat) :
    a.roundUp p = a := by
  obtain ⟨hle, hge⟩ := roundUp_le hp ha (Nat.le_refl _)
  exact toNat_inj.1 (Nat.le_antisymm hge hle)

/-- Rounding up keeps the order, also where it stays at the highest multiple of all. -/
theorem roundUp_mono (hp : Word.isPowerOfTwo p = true) (hab : a ≤ b) :
    a.roundUp p ≤ b.roundUp p := by
  have hleast := Word.isLeast_nextMultiple hp b.toNat
  rcases Nat.lt_or_ge ((b.toNat + (p.toNat - 1)) / p.toNat * p.toNat) UInt64.size with hlt | hge
  · have hround := toNat_roundUp_of_isLeast hp hleast hlt
    have hb : b ≤ b.roundUp p := by
      rw [le_iff, hround]
      exact hleast.1.2
    exact (roundUp_le hp (dvd_toNat_roundUp hp b) (Nat.le_trans hab hb)).2
  · rw [(roundUp_eq_highest hp hleast hge).1]
    exact roundUp_le_highest hp a

end Address

/-! ### The roundings of addresses -/

/-- What rounding to multiples of `align` is, in the arithmetic of numbers. -/
structure RoundsExactly (align : Word) : Prop where
  /-- Rounding down gives the greatest multiple not above the address. -/
  down : ∀ a : Address, ∃ d, a.alignDown align = .ok d ∧
    IsGreatest {n | align.toNat ∣ n ∧ n ≤ a.toNat} d.toNat
  /-- Rounding up gives the least multiple not below the address, if that is an address, and
  otherwise the greatest multiple of all addresses, which is then below the address. -/
  up : ∀ a : Address, ∃ u n, a.alignUp align = .ok u ∧
    IsLeast {n | align.toNat ∣ n ∧ a.toNat ≤ n} n ∧ (n < UInt64.size → u.toNat = n) ∧
    (UInt64.size ≤ n → IsGreatest {n | align.toNat ∣ n ∧ n < UInt64.size} u.toNat ∧ u < a)
  /-- What is rounded up is below the address exactly if no multiple among the addresses is at or
  above it. -/
  up_lt_iff : ∀ a u : Address, a.alignUp align = .ok u →
    (u < a ↔ ¬∃ b : Address, align.toNat ∣ b.toNat ∧ a ≤ b)
  /-- The test of an address tells whether it is a multiple. -/
  aligned : ∀ a : Address, a.isAligned align = .ok (decide (align.toNat ∣ a.toNat))
  /-- Rounding down a second time changes nothing. -/
  down_down : ∀ a d : Address, a.alignDown align = .ok d → d.alignDown align = .ok d
  /-- Rounding up a second time changes nothing. -/
  up_up : ∀ a u : Address, a.alignUp align = .ok u → u.alignUp align = .ok u
  /-- Rounding down keeps the order. -/
  down_mono : ∀ a b d e : Address, a ≤ b → a.alignDown align = .ok d →
    b.alignDown align = .ok e → d ≤ e
  /-- Rounding up keeps the order. -/
  up_mono : ∀ a b u v : Address, a ≤ b → a.alignUp align = .ok u → b.alignUp align = .ok v → u ≤ v

section

open Address

variable {align : Word}

/-- A power of two is a permitted alignment. -/
private theorem alignDown_eq (hp : Word.isPowerOfTwo align = true) (a : Address) :
    a.alignDown align = .ok (a.roundDown align) := by
  rw [alignDown, hp]
  rfl

/-- Rounding up with it is not refused. -/
private theorem alignUp_eq (hp : Word.isPowerOfTwo align = true) (a : Address) :
    a.alignUp align = .ok (a.roundUp align) := by
  rw [alignUp, hp]
  rfl

/-- Nor is the test. -/
private theorem isAligned_eq (hp : Word.isPowerOfTwo align = true) (a : Address) :
    a.isAligned align = .ok (a.isMultipleOf align) := by
  rw [isAligned, hp]
  rfl

/-- **Masks round to multiples.** For every power of two that is a word, and all addresses up to
the top of the bus. -/
theorem rounding_exact (hpow : align.toNat.isPowerOfTwo) : RoundsExactly align := by
  have hp : Word.isPowerOfTwo align = true := Word.isPowerOfTwo_iff.2 hpow
  refine ⟨?_, ?_, ?_, ?_, ?_, ?_, ?_, ?_⟩
  · intro a
    exact ⟨_, alignDown_eq hp a, isGreatest_roundDown hp a⟩
  · intro a
    have hleast := Word.isLeast_nextMultiple hp a.toNat
    refine ⟨_, _, alignUp_eq hp a, hleast, toNat_roundUp_of_isLeast hp hleast, fun hge => ?_⟩
    obtain ⟨htop, hlt⟩ := roundUp_eq_highest hp hleast hge
    have hgreatest := isGreatest_roundDown hp ⟨Word.top⟩
    rw [← htop] at hgreatest
    refine ⟨⟨⟨hgreatest.1.1, Address.toNat_lt _⟩, fun n hn => ?_⟩, hlt⟩
    exact hgreatest.2 ⟨hn.1, Nat.le_sub_one_of_lt hn.2⟩
  · intro a u hu
    cases (alignUp_eq hp a).symm.trans hu
    exact roundUp_lt_iff hp
  · intro a
    rw [isAligned_eq hp, Except.ok.injEq, Bool.eq_iff_iff, isMultipleOf_iff hp, decide_eq_true_iff]
  · intro a d hd
    cases (alignDown_eq hp a).symm.trans hd
    rw [alignDown_eq hp, roundDown_of_dvd hp (isGreatest_roundDown hp a).1.1]
  · intro a u hu
    cases (alignUp_eq hp a).symm.trans hu
    rw [alignUp_eq hp, roundUp_of_dvd hp (dvd_toNat_roundUp hp a)]
  · intro a b d e hab hd he
    cases (alignDown_eq hp a).symm.trans hd
    cases (alignDown_eq hp b).symm.trans he
    exact roundDown_mono hp hab
  · intro a b u v hab hu hv
    cases (alignUp_eq hp a).symm.trans hu
    cases (alignUp_eq hp b).symm.trans hv
    exact roundUp_mono hp hab

/-- Sixteen is a power of two, and no multiple of it lies above the last few addresses. -/
theorem rounding_exact_at_top :
    (16 : Word).toNat.isPowerOfTwo ∧
      alignUp ⟨18446744073709551612⟩ 16 = .ok ⟨18446744073709551600⟩ ∧
      ¬∃ b : Address, (16 : Word).toNat ∣ b.toNat ∧ (⟨18446744073709551612⟩ : Address) ≤ b := by
  have hpow : (16 : Word).toNat.isPowerOfTwo := ⟨4, rfl⟩
  have hup : alignUp ⟨18446744073709551612⟩ 16 = .ok ⟨18446744073709551600⟩ := rfl
  exact ⟨hpow, hup, ((rounding_exact hpow).up_lt_iff _ _ hup).1 (by decide)⟩

end

end BusPool
