import BusPool.Arena.Placement
import BusPool.Config
import BusPool.Proofs.Masks
import Mathlib.Data.Nat.Find
import Mathlib.Data.Option.Basic
import Mathlib.Order.Bounds.Basic

/-!
# Where blocks may start

A configuration *admits* an address when a block of its size may start there. The addresses it
admits are never too far apart: the next one from any point on is either the next aligned address
or, where a block there would cross a multiple of the boundary, that multiple
(**`Config.isNext_nextAligned`**, **`Config.isNext_nextBoundary`**).

**`Placement.lowest?_eq_some_iff`**: the search for a place in a stretch of addresses finds the
next admitted address, exactly when the block there ends within the stretch. None of the checked
sums on the way can fail in such a case, and where one fails, no block would have fitted. An
alignment above the boundary is no exception, although an accepted configuration has none
(**`Placement.lowest?_eq_some_iff_of_coarse`**).
-/

namespace BusPool

namespace Config

/-- A block may start here: the address is aligned, and the first and the last byte of the block
lie between the same two multiples of the boundary. -/
structure Admits (c : Config) (a : Nat) : Prop where
  /-- The address is a multiple of the alignment. -/
  aligned : c.align.toNat ∣ a
  /-- No multiple of the boundary lies inside the block. -/
  uncrossed : c.boundary ≠ 0 →
    a / c.boundary.toNat = (a + c.blockSize.toNat - 1) / c.boundary.toNat

/-- The lowest admitted address from `x` on. -/
def IsNext (c : Config) (x a : Nat) : Prop := IsLeast {n | x ≤ n ∧ c.Admits n} a

variable {c : Config}

namespace IsNext

variable {x y a b : Nat}

/-- The next admitted address is not below the point it is counted from. -/
theorem le (h : c.IsNext x a) : x ≤ a := h.1.1

/-- The next admitted address is admitted. -/
theorem admits (h : c.IsNext x a) : c.Admits a := h.1.2

/-- No admitted address lies before the next one. -/
theorem le_of_admits (h : c.IsNext x a) (hx : x ≤ b) (hb : c.Admits b) : a ≤ b := h.2 ⟨hx, hb⟩

/-- There is only one next admitted address. -/
theorem unique (ha : c.IsNext x a) (hb : c.IsNext x b) : a = b := IsLeast.unique ha hb

end IsNext

/-- At or below an admitted address from `x` on is the next one. -/
theorem exists_isNext_of_admits {x n : Nat} (hx : x ≤ n) (hn : c.Admits n) :
    ∃ m, c.IsNext x m ∧ m ≤ n := by
  classical
  have hex : ∃ m, x ≤ m ∧ c.Admits m := ⟨n, hx, hn⟩
  exact ⟨Nat.find hex, ⟨Nat.find_spec hex, fun m hm => Nat.find_min' hex hm⟩,
    Nat.find_min' hex ⟨hx, hn⟩⟩

/-! ### The next admitted address -/

/-- The lowest multiple of the alignment from `x` on. -/
def nextAligned (c : Config) (x : Nat) : Nat :=
  (x + (c.align.toNat - 1)) / c.align.toNat * c.align.toNat

/-- The lowest multiple of the boundary above `x`. -/
def nextBoundary (c : Config) (x : Nat) : Nat :=
  (x / c.boundary.toNat + 1) * c.boundary.toNat

/-- The alignment of an accepted configuration is positive. -/
theorem Valid.align_pos (hc : c.Valid) : 0 < c.align.toNat := Word.pos_of_isPowerOfTwo hc.align_pow

/-- A boundary that is set divides into aligned pieces. -/
theorem Valid.align_dvd_boundary (hc : c.Valid) (hb : c.boundary ≠ 0) :
    c.align.toNat ∣ c.boundary.toNat :=
  Word.dvd_of_le hc.align_pow (hc.boundary_pow hb) (hc.align_le hb)

/-- The next aligned address is aligned. -/
theorem align_dvd_nextAligned (c : Config) (x : Nat) : c.align.toNat ∣ c.nextAligned x :=
  Nat.dvd_mul_left _ _

/-- The next aligned address lies at or above the point it is counted from. -/
theorem Valid.le_nextAligned (hc : c.Valid) (x : Nat) : x ≤ c.nextAligned x :=
  (Word.isLeast_nextMultiple hc.align_pow x).1.2

/-- No aligned address lies between a point and the next aligned address. -/
theorem Valid.nextAligned_le (hc : c.Valid) {x n : Nat} (hx : x ≤ n) (hn : c.align.toNat ∣ n) :
    c.nextAligned x ≤ n :=
  (Word.isLeast_nextMultiple hc.align_pow x).2 ⟨hn, hx⟩

/-- Where a block at the next aligned address crosses nothing, that is the next admitted one. -/
theorem Valid.isNext_nextAligned (hc : c.Valid) {x : Nat}
    (h : c.boundary ≠ 0 → c.nextAligned x / c.boundary.toNat =
      (c.nextAligned x + c.blockSize.toNat - 1) / c.boundary.toNat) :
    c.IsNext x (c.nextAligned x) := by
  refine ⟨⟨hc.le_nextAligned x, align_dvd_nextAligned c x, h⟩, ?_⟩
  rintro n ⟨hx, hn⟩
  exact hc.nextAligned_le hx hn.aligned

/-- A block that starts at a multiple of the boundary and is no longer ends before the next one. -/
theorem lastByte_div_of_dvd {boundary size n : Nat} (hpos : 0 < size) (hle : size ≤ boundary)
    (hn : boundary ∣ n) : n / boundary = (n + size - 1) / boundary := by
  have hbpos : 0 < boundary := Nat.lt_of_lt_of_le hpos hle
  have hinside : (size - 1) / boundary = 0 := Nat.div_eq_of_lt (by omega)
  obtain ⟨q, rfl⟩ := hn
  rw [Nat.add_sub_assoc hpos, Nat.mul_add_div hbpos, hinside, Nat.add_zero,
    Nat.mul_div_cancel_left _ hbpos]

/-- Where a block at the next aligned address crosses a multiple of the boundary, that multiple
is the next admitted address: a block anywhere in between would cross it as well. -/
theorem Valid.isNext_nextBoundary (hc : c.Valid) {x : Nat} (hb : c.boundary ≠ 0)
    (h : c.nextAligned x / c.boundary.toNat ≠
      (c.nextAligned x + c.blockSize.toNat - 1) / c.boundary.toNat) :
    c.IsNext x (c.nextBoundary (c.nextAligned x)) := by
  have hbpos := Word.pos_of_isPowerOfTwo (hc.boundary_pow hb)
  have hpos : 1 ≤ c.blockSize.toNat := hc.blockSize_pos
  have hsize := hc.blockSize_le hb
  have hx := hc.le_nextAligned x
  generalize hu : c.nextAligned x = u at h hx
  have hlt : u < c.nextBoundary u := by
    rw [nextBoundary, ← Nat.div_lt_iff_lt_mul hbpos]
    exact Nat.lt_succ_self _
  refine ⟨⟨by omega, ?_, fun _ => ?_⟩, ?_⟩
  · exact Nat.dvd_trans (hc.align_dvd_boundary hb) (Nat.dvd_mul_left _ _)
  · exact lastByte_div_of_dvd hc.blockSize_pos hsize (Nat.dvd_mul_left _ _)
  · rintro n ⟨hxn, hn⟩
    have hun : u ≤ n := hu ▸ hc.nextAligned_le hxn hn.aligned
    by_contra hlow
    -- below the multiple the quotient is that of `u`, but the block reaches the next one
    have hquot : n / c.boundary.toNat ≤ u / c.boundary.toNat := by
      rw [← Nat.lt_succ_iff, Nat.div_lt_iff_lt_mul hbpos]
      exact Nat.not_le.1 hlow
    have hfirst := Nat.div_le_div_right (c := c.boundary.toNat) hun
    have hlast : (u + c.blockSize.toNat - 1) / c.boundary.toNat ≤
        (n + c.blockSize.toNat - 1) / c.boundary.toNat := Nat.div_le_div_right (by omega)
    have hcross : u / c.boundary.toNat ≤ (u + c.blockSize.toNat - 1) / c.boundary.toNat :=
      Nat.div_le_div_right (by omega)
    have := hn.uncrossed hb
    omega

end Config

namespace Placement

variable {first last boundary : Word}

/-! ### The steps of the search -/

/-- Crossing a multiple of the boundary shows in the quotients. -/
theorem crosses_eq_true_iff (hb : Word.isPowerOfTwo boundary = true) :
    crosses first last boundary = true ↔
      first.toNat / boundary.toNat ≠ last.toNat / boundary.toNat := by
  have hpos := Word.pos_of_isPowerOfTwo hb
  rw [crosses, bne_iff_ne, ne_eq, ne_eq, ← Word.toNat_xor_div_eq_zero_iff hb,
    ← UInt64.toNat_inj, Word.toNat_and_not_pred hb, UInt64.toNat_zero, Nat.mul_eq_zero]
  simp only [Nat.ne_of_gt hpos, or_false]

/-- The next multiple of the boundary, unless it is no word. -/
theorem nextBoundary?_eq_some_iff (hb : Word.isPowerOfTwo boundary = true) {w : Word} :
    nextBoundary? first boundary = some w ↔
      w.toNat = (first.toNat / boundary.toNat + 1) * boundary.toNat := by
  have hpos := Word.pos_of_isPowerOfTwo hb
  rw [nextBoundary?, Word.add?_eq_some_iff, Word.toNat_or_pred hb, Nat.succ_mul,
    show (1 : Word).toNat = 1 from rfl]
  omega

/-- Moving clear of a boundary only moves up. -/
theorem le_of_clearOfBoundary? {size w : Word}
    (hb : boundary ≠ 0 → Word.isPowerOfTwo boundary = true)
    (h : clearOfBoundary? first size boundary = some w) : first.toNat ≤ w.toNat := by
  unfold clearOfBoundary? at h
  split at h
  · exact Nat.le_of_eq (congrArg UInt64.toNat (Option.some.inj h))
  · rename_i hzero
    obtain ⟨last, -, h⟩ := Option.bind_eq_some_iff.1 h
    split at h
    · rw [nextBoundary?_eq_some_iff (hb hzero)] at h
      have := Nat.lt_div_mul_add (a := first.toNat) (Word.pos_of_isPowerOfTwo (hb hzero))
      rw [h, Nat.succ_mul]
      omega
    · exact Nat.le_of_eq (congrArg UInt64.toNat (Option.some.inj h))

/-- The search as a chain of conditions on its intermediate results. -/
theorem lowest?_eq_some_iff_steps {start a : Address} {limit size align : Word} :
    lowest? start limit size align boundary = some a ↔
      start.toNat ≤ (start.roundUp align).toNat ∧
      clearOfBoundary? (start.roundUp align).word size boundary = some a.word ∧
      a.toNat + size.toNat ≤ limit.toNat := by
  have hlimit := Word.toNat_lt limit
  simp only [lowest?, Option.bind_eq_bind, Option.bind_eq_some_iff, Option.guard_eq_some',
    Address.le_iff]
  constructor
  · rintro ⟨-, hle, first, hfirst, stop, hstop, -, hlim, h⟩
    cases Option.some.inj h
    rw [Word.add?_eq_some_iff] at hstop
    rw [UInt64.le_iff_toNat_le, ← hstop] at hlim
    exact ⟨hle, hfirst, hlim⟩
  · rintro ⟨hle, hfirst, hlim⟩
    refine ⟨(), hle, a.word, hfirst, a.word + size, ?_, (), ?_, rfl⟩
    · rw [Word.add?, if_pos]
      exact Nat.lt_of_le_of_lt hlim hlimit
    · rw [UInt64.le_iff_toNat_le, UInt64.toNat_add]
      exact Nat.le_trans (Nat.mod_le _ _) hlim

/-- Whatever is found lies in the stretch, with the whole block. -/
theorem lowest?_bounds {start a : Address} {limit size align : Word}
    (hb : boundary ≠ 0 → Word.isPowerOfTwo boundary = true)
    (h : lowest? start limit size align boundary = some a) :
    start.toNat ≤ a.toNat ∧ a.toNat + size.toNat ≤ limit.toNat := by
  obtain ⟨hle, hclear, hlim⟩ := lowest?_eq_some_iff_steps.1 h
  exact ⟨Nat.le_trans hle (le_of_clearOfBoundary? hb hclear), hlim⟩

/-! ### The search as a whole -/

variable {c : Config}

/-- The address of the last byte of a block, unless that is no address. -/
theorem add?_lastByte (hc : c.Valid) (first : Word) :
    (first.toNat + c.blockSize.toNat - 1 < UInt64.size → ∃ last : Word,
      Word.add? first (c.blockSize - 1) = some last ∧
        last.toNat = first.toNat + c.blockSize.toNat - 1) ∧
    (UInt64.size ≤ first.toNat + c.blockSize.toNat - 1 →
      Word.add? first (c.blockSize - 1) = none) := by
  have hpos : 1 ≤ c.blockSize.toNat := hc.blockSize_pos
  have hpred : (c.blockSize - 1).toNat = c.blockSize.toNat - 1 :=
    UInt64.toNat_sub_of_le _ _ (UInt64.le_iff_toNat_le.2 hpos)
  rw [Nat.add_sub_assoc hpos, ← hpred]
  refine ⟨fun hend => ?_, fun hend => if_neg (Nat.not_lt.2 hend)⟩
  have hadd : Word.add? first (c.blockSize - 1) = some (first + (c.blockSize - 1)) := if_pos hend
  exact ⟨_, hadd, (Word.add?_eq_some_iff.1 hadd).symm⟩

/-- A block that crosses no multiple of the boundary stays where it is. -/
theorem clearOfBoundary?_eq_self (hc : c.Valid) (hzero : c.boundary ≠ 0)
    (hend : first.toNat + c.blockSize.toNat - 1 < UInt64.size)
    (h : first.toNat / c.boundary.toNat =
      (first.toNat + c.blockSize.toNat - 1) / c.boundary.toNat) :
    clearOfBoundary? first c.blockSize c.boundary = some first := by
  obtain ⟨last, hadd, hlast⟩ := (add?_lastByte hc first).1 hend
  have hstays : ¬crosses first last c.boundary = true := by
    rw [crosses_eq_true_iff (hc.boundary_pow hzero), hlast, not_not]
    exact h
  simp only [clearOfBoundary?, if_neg hzero, hadd, Option.bind_eq_bind, Option.bind_some,
    if_neg hstays]

/-- A block that crosses a multiple of the boundary moves up to the next multiple. -/
theorem clearOfBoundary?_eq_nextBoundary? (hc : c.Valid) (hzero : c.boundary ≠ 0)
    (hend : first.toNat + c.blockSize.toNat - 1 < UInt64.size)
    (h : first.toNat / c.boundary.toNat ≠
      (first.toNat + c.blockSize.toNat - 1) / c.boundary.toNat) :
    clearOfBoundary? first c.blockSize c.boundary = nextBoundary? first c.boundary := by
  obtain ⟨last, hadd, hlast⟩ := (add?_lastByte hc first).1 hend
  have hmoves : crosses first last c.boundary = true := by
    rw [crosses_eq_true_iff (hc.boundary_pow hzero), hlast]
    exact h
  simp only [clearOfBoundary?, if_neg hzero, hadd, Option.bind_eq_bind, Option.bind_some,
    if_pos hmoves]

/-- Where there is a boundary, a block that reaches past the top of the bus finds no place. -/
theorem clearOfBoundary?_eq_none (hc : c.Valid) (hzero : c.boundary ≠ 0)
    (hend : UInt64.size ≤ first.toNat + c.blockSize.toNat - 1) :
    clearOfBoundary? first c.blockSize c.boundary = none := by
  have hadd := (add?_lastByte hc first).2 hend
  simp only [clearOfBoundary?, if_neg hzero, hadd, Option.bind_eq_bind, Option.bind_none]

/-- Moving clear of a boundary from the next aligned address on gives the next admitted address,
provided that a block there ends on the bus. -/
theorem clearOfBoundary?_eq_some_iff (hc : c.Valid) {x : Nat} {aligned w : Word}
    (hx : aligned.toNat = c.nextAligned x) (hw : w.toNat + c.blockSize.toNat < UInt64.size) :
    clearOfBoundary? aligned c.blockSize c.boundary = some w ↔ c.IsNext x w.toNat := by
  by_cases hzero : c.boundary = 0
  · have hnext := hc.isNext_nextAligned (x := x) fun h => absurd hzero h
    rw [clearOfBoundary?, if_pos hzero, Option.some.injEq, ← UInt64.toNat_inj, hx]
    exact ⟨fun h => h ▸ hnext, hnext.unique⟩
  rcases Nat.lt_or_ge (aligned.toNat + c.blockSize.toNat - 1) UInt64.size with hend | hend
  · by_cases hcross : aligned.toNat / c.boundary.toNat =
        (aligned.toNat + c.blockSize.toNat - 1) / c.boundary.toNat
    · rw [clearOfBoundary?_eq_self hc hzero hend hcross, Option.some.injEq, ← UInt64.toNat_inj, hx]
      rw [hx] at hcross
      have hnext := hc.isNext_nextAligned fun _ => hcross
      exact ⟨fun h => h ▸ hnext, hnext.unique⟩
    · rw [clearOfBoundary?_eq_nextBoundary? hc hzero hend hcross,
        nextBoundary?_eq_some_iff (hc.boundary_pow hzero), hx]
      rw [hx] at hcross
      have hnext := hc.isNext_nextBoundary hzero hcross
      exact ⟨fun h => h ▸ hnext, fun h => (hnext.unique h).symm⟩
  · -- every admitted address lies further up, where a block reaches past the top as well
    rw [clearOfBoundary?_eq_none hc hzero hend]
    refine ⟨nofun, fun h => ?_⟩
    have hup := hc.nextAligned_le h.le h.admits.aligned
    omega

/-- **The search finds the next admitted address**, exactly when a block there ends within the
stretch. -/
theorem lowest?_eq_some_iff (hc : c.Valid) {start a : Address} {limit : Word} :
    lowest? start limit c.blockSize c.align c.boundary = some a ↔
      c.IsNext start.toNat a.toNat ∧ a.toNat + c.blockSize.toNat ≤ limit.toNat := by
  have hlimit := Word.toNat_lt limit
  have hapos := hc.align_pos
  rw [lowest?_eq_some_iff_steps, ← and_assoc]
  refine and_congr_left fun hend => ?_
  by_cases hfits : start.toNat + (c.align.toNat - 1) < UInt64.size
  · have hround := Address.toNat_roundUp hc.align_pow hfits
    rw [clearOfBoundary?_eq_some_iff hc hround (Nat.lt_of_le_of_lt hend hlimit),
      and_iff_right (hround ▸ hc.le_nextAligned _)]
    rfl
  · have hbelow := Address.roundUp_lt hc.align_pow (Nat.not_lt.1 hfits)
    constructor
    · rintro ⟨hle, -⟩
      omega
    · intro h
      -- an admitted address on the bus leaves room for a whole step of the alignment above it
      obtain ⟨q, hq⟩ := Nat.dvd_sub (Word.dvd_size hc.align_pow) h.admits.aligned
      have hstart := h.le
      have hroom : 0 < q := by
        rcases Nat.eq_zero_or_pos q with rfl | hq'
        · omega
        · exact hq'
      have := Nat.le_mul_of_pos_right c.align.toNat hroom
      omega

end Placement

/-! ### Alignments above the boundary

A block that is aligned to a multiple of the boundary crosses nothing, because it is no longer than
the boundary. The boundary then makes no difference, neither to where blocks may start nor to the
search. -/

namespace Config

/-- Parameters for blocks that all start at a multiple of the boundary. -/
structure Coarse (c : Config) : Prop where
  /-- Blocks have bytes. -/
  blockSize_pos : 0 < c.blockSize.toNat
  /-- The alignment is a power of two. -/
  align_pow : Word.isPowerOfTwo c.align = true
  /-- So is the boundary. -/
  boundary_pow : Word.isPowerOfTwo c.boundary = true
  /-- A block is no larger than the boundary. -/
  blockSize_le : c.blockSize.toNat ≤ c.boundary.toNat
  /-- The boundary is no larger than the alignment. -/
  boundary_le : c.boundary.toNat ≤ c.align.toNat

/-- The same blocks without a boundary. -/
def unbounded (c : Config) : Config := { c with boundary := 0 }

namespace Coarse

variable {c : Config} {x n : Nat}

/-- Without the boundary the parameters can be met. -/
theorem valid_unbounded (h : c.Coarse) : c.unbounded.Valid :=
  ⟨h.blockSize_pos, h.align_pow, absurd rfl, absurd rfl, absurd rfl⟩

/-- A block at a multiple of the boundary crosses nothing. -/
theorem uncrossed (h : c.Coarse) (hn : c.boundary.toNat ∣ n) :
    n / c.boundary.toNat = (n + c.blockSize.toNat - 1) / c.boundary.toNat :=
  lastByte_div_of_dvd h.blockSize_pos h.blockSize_le hn

/-- What is aligned is a multiple of the boundary. -/
theorem boundary_dvd (h : c.Coarse) (hn : c.align.toNat ∣ n) : c.boundary.toNat ∣ n :=
  Nat.dvd_trans (Word.dvd_of_le h.boundary_pow h.align_pow h.boundary_le) hn

/-- The boundary makes no difference to which addresses are admitted. -/
theorem admits_iff (h : c.Coarse) : c.Admits n ↔ c.unbounded.Admits n :=
  ⟨fun hn => ⟨hn.aligned, absurd rfl⟩,
    fun hn => ⟨hn.aligned, fun _ => h.uncrossed (h.boundary_dvd hn.aligned)⟩⟩

/-- Nor does it to the next admitted address. -/
theorem isNext_iff (h : c.Coarse) : c.IsNext x n ↔ c.unbounded.IsNext x n := by
  simp only [IsNext, h.admits_iff]

end Coarse

end Config

namespace Placement

/-- A block at a multiple of the boundary stays there, provided that it ends on the bus. -/
theorem clearOfBoundary?_eq_some_iff_of_dvd {c : Config} (h : c.Coarse) {first w : Word}
    (hfirst : c.boundary.toNat ∣ first.toNat) (hw : w.toNat + c.blockSize.toNat < UInt64.size) :
    clearOfBoundary? first c.blockSize c.boundary = some w ↔ first = w := by
  have hpos := Word.pos_of_isPowerOfTwo h.boundary_pow
  have hzero : c.boundary ≠ 0 := by
    intro hzero
    simp [hzero] at hpos
  -- the lemmas on single steps do not depend on the alignment
  have hone : (⟨c.blockSize, 1, c.boundary⟩ : Config).Valid :=
    ⟨h.blockSize_pos, show Word.isPowerOfTwo 1 = true by decide, fun _ => h.boundary_pow,
      fun _ => h.blockSize_le, fun _ => hpos⟩
  rcases Nat.lt_or_ge (first.toNat + c.blockSize.toNat - 1) UInt64.size with hend | hend
  · rw [clearOfBoundary?_eq_self hone hzero hend (h.uncrossed hfirst), Option.some.injEq]
  · rw [clearOfBoundary?_eq_none hone hzero hend]
    refine ⟨nofun, ?_⟩
    rintro rfl
    omega

/-- Where the alignment is a multiple of the boundary, the search does not depend on the
boundary. -/
theorem lowest?_eq_unbounded {c : Config} (h : c.Coarse) {start : Address} {limit : Word} :
    lowest? start limit c.blockSize c.align c.boundary =
      lowest? start limit c.blockSize c.align 0 := by
  have hlimit := Word.toNat_lt limit
  have hfirst : c.boundary.toNat ∣ (start.roundUp c.align).word.toNat :=
    h.boundary_dvd (Address.dvd_toNat_roundUp h.align_pow start)
  apply Option.ext
  intro a
  rw [lowest?_eq_some_iff_steps, lowest?_eq_some_iff_steps]
  apply and_congr_right
  intro _
  apply and_congr_left
  intro hend
  rw [clearOfBoundary?_eq_some_iff_of_dvd h hfirst (Nat.lt_of_le_of_lt hend hlimit),
    clearOfBoundary?, if_pos rfl, Option.some.injEq]

/-- The search finds the next admitted address also where the alignment is a multiple of the
boundary. -/
theorem lowest?_eq_some_iff_of_coarse {c : Config} (h : c.Coarse) {start a : Address}
    {limit : Word} : lowest? start limit c.blockSize c.align c.boundary = some a ↔
      c.IsNext start.toNat a.toNat ∧ a.toNat + c.blockSize.toNat ≤ limit.toNat := by
  rw [lowest?_eq_unbounded h, h.isNext_iff]
  exact lowest?_eq_some_iff h.valid_unbounded

end Placement

end BusPool
