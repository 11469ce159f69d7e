import BusPool.Proofs.Growth
import BusPool.Proofs.Placement

/-!
# Room for a block

A grant as long as was asked for has room for a block wherever it starts, given that it starts at a
multiple of the granularity (**`Config.Valid.exists_room`**). The request pays for both ways in
which the first place can lie further on: the distance to an aligned address
(**`Config.Valid.nextAligned_le_add`**), and the distance to a multiple of the boundary, which is
less than one block.
-/

namespace BusPool.Config

variable {c : Config} {granularity : Word} {start : Nat}

/-- From a multiple of the granularity it is no further to an aligned address than the difference
of the two, because one of them divides the other. -/
theorem Valid.nextAligned_le_add (hc : c.Valid) (hpow : Word.isPowerOfTwo granularity = true)
    (hstart : granularity.toNat ∣ start) :
    c.nextAligned start ≤ start + (c.align.toNat - granularity.toNat) := by
  rcases Nat.le_total c.align.toNat granularity.toNat with hle | hle
  · have haligned : c.align.toNat ∣ start :=
      Nat.dvd_trans (Word.dvd_of_le hc.align_pow hpow hle) hstart
    exact Nat.le_trans (hc.nextAligned_le (Nat.le_refl start) haligned) (Nat.le_add_right _ _)
  · have hdvd : granularity.toNat ∣ c.align.toNat := Word.dvd_of_le hpow hc.align_pow hle
    have hsplit := Nat.div_add_mod start c.align.toNat
    have hlt := Nat.mod_lt start hc.align_pos
    rcases Nat.eq_zero_or_pos (start % c.align.toNat) with hrest | hrest
    · have haligned : c.align.toNat ∣ start := Nat.dvd_of_mod_eq_zero hrest
      exact Nat.le_trans (hc.nextAligned_le (Nat.le_refl start) haligned) (Nat.le_add_right _ _)
    · -- what lies above the aligned address below is a multiple of the granularity as well
      have hgap : granularity.toNat ≤ start % c.align.toNat :=
        Nat.le_of_dvd hrest ((Nat.dvd_mod_iff hdvd).2 hstart)
      have hnext : c.nextAligned start ≤ c.align.toNat * (start / c.align.toNat + 1) := by
        apply hc.nextAligned_le
        · rw [Nat.mul_succ]
          omega
        · exact Nat.dvd_mul_right _ _
      rw [Nat.mul_succ] at hnext
      omega

/-- **A grant has room for a block.** The next admitted address from its start leaves enough of
what is wanted for the block. -/
theorem Valid.exists_room (hc : c.Valid) (hpow : Word.isPowerOfTwo granularity = true)
    (hstart : granularity.toNat ∣ start) :
    ∃ a, c.IsNext start a ∧ a + c.blockSize.toNat ≤ start + c.wanted granularity := by
  have haligned := hc.nextAligned_le_add hpow hstart
  by_cases huncrossed : c.boundary ≠ 0 → c.nextAligned start / c.boundary.toNat =
      (c.nextAligned start + c.blockSize.toNat - 1) / c.boundary.toNat
  · refine ⟨_, hc.isNext_nextAligned huncrossed, ?_⟩
    unfold wanted
    omega
  · obtain ⟨hb, hcross⟩ := not_forall.1 huncrossed
    refine ⟨_, hc.isNext_nextBoundary hb hcross, ?_⟩
    have hbpos := Word.pos_of_isPowerOfTwo (hc.boundary_pow hb)
    have hpos := hc.blockSize_pos
    generalize c.nextAligned start = u at haligned hcross
    -- the multiple that is moved up to lies inside the block that would cross it
    have hquot : u / c.boundary.toNat + 1 ≤ (u + c.blockSize.toNat - 1) / c.boundary.toNat := by
      apply Nat.lt_of_le_of_ne _ hcross
      apply Nat.div_le_div_right
      omega
    have hreach : c.nextBoundary u ≤ u + c.blockSize.toNat - 1 :=
      Nat.le_trans (Nat.mul_le_mul_right _ hquot) (Nat.div_mul_le_self _ _)
    rw [wanted, if_pos hb]
    omega

end BusPool.Config
