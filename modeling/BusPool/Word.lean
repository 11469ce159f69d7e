/-!
# Machine words

Bus addresses, lengths and offsets are 64-bit words. Arithmetic on them never wraps silently:
each operation here either gives the exact result or `none`. The lemmas say so in `Nat`
(**`add?_eq_some_iff`**, **`sub?_eq_some_iff`**, **`mul?_eq_some_iff`**), which is where every
later argument about words takes place. **`isPowerOfTwo_iff`** reads the one bit test used for
alignments and boundaries.
-/

namespace BusPool

/-- A 64-bit quantity on the bus: an address, a length, an offset or a granularity. -/
abbrev Word := UInt64

namespace Word

/-- The greatest word, one less than `UInt64.size`. -/
def top : Word := 0xFFFFFFFFFFFFFFFF

/-- The number of words, in digits. -/
theorem size_eq : UInt64.size = 18446744073709551616 := rfl

/-- Every word is below `UInt64.size`. -/
theorem toNat_lt (a : Word) : a.toNat < UInt64.size := UInt64.toNat_lt a

/-- The greatest word as a number. -/
@[simp] theorem toNat_top : top.toNat = UInt64.size - 1 := rfl

/-- No word exceeds the greatest. -/
theorem le_top (a : Word) : a.toNat ≤ top.toNat := by
  have := toNat_lt a
  simp only [toNat_top]
  omega

/-! ## Exact arithmetic -/

/-- The sum, unless it exceeds the greatest word. -/
def add? (a b : Word) : Option Word :=
  if a.toNat + b.toNat < UInt64.size then some (a + b) else none

/-- The difference, unless it is negative. -/
def sub? (a b : Word) : Option Word :=
  if b.toNat ≤ a.toNat then some (a - b) else none

/-- The product, unless it exceeds the greatest word. -/
def mul? (a b : Word) : Option Word :=
  if a.toNat * b.toNat < UInt64.size then some (a * b) else none

/-- The sum, or the greatest word where the sum exceeds it. -/
def addSat (a b : Word) : Word := (add? a b).getD top

/-- The quotient rounded up. The divisor is positive wherever this is used. -/
def divCeil (a b : Word) : Word :=
  if a % b = 0 then a / b else a / b + 1

/-- The sum is exact where there is one. -/
theorem add?_eq_some_iff {a b c : Word} : add? a b = some c ↔ a.toNat + b.toNat = c.toNat := by
  have hc := toNat_lt c
  have hsize := size_eq
  unfold add?
  split
  · rename_i h
    rw [Option.some.injEq, ← UInt64.toNat_inj, UInt64.toNat_add]
    omega
  · constructor
    · intro h
      cases h
    · omega

/-- There is no sum exactly where it exceeds the greatest word. -/
theorem add?_eq_none_iff {a b : Word} : add? a b = none ↔ UInt64.size ≤ a.toNat + b.toNat := by
  unfold add?
  split <;> simp <;> omega

/-- The difference is exact where there is one. -/
theorem sub?_eq_some_iff {a b c : Word} : sub? a b = some c ↔ a.toNat = b.toNat + c.toNat := by
  unfold sub?
  split
  · rename_i h
    rw [Option.some.injEq, ← UInt64.toNat_inj,
      UInt64.toNat_sub_of_le _ _ (UInt64.le_iff_toNat_le.2 h)]
    omega
  · constructor
    · intro h
      cases h
    · omega

/-- The product is exact where there is one. -/
theorem mul?_eq_some_iff {a b c : Word} : mul? a b = some c ↔ a.toNat * b.toNat = c.toNat := by
  have hc := toNat_lt c
  unfold mul?
  split
  · rename_i h
    rw [Option.some.injEq, ← UInt64.toNat_inj, UInt64.toNat_mul, Nat.mod_eq_of_lt h]
  · constructor
    · intro h
      cases h
    · omega

/-- A saturated sum is the sum cut off at the greatest word. -/
theorem toNat_addSat (a b : Word) :
    (addSat a b).toNat = min (a.toNat + b.toNat) (UInt64.size - 1) := by
  have hsize := size_eq
  unfold addSat
  cases h : add? a b with
  | none =>
    have := add?_eq_none_iff.1 h
    simp
    omega
  | some c =>
    have := add?_eq_some_iff.1 h
    have := toNat_lt c
    simp
    omega

/-! ## Powers of two -/

/-- A word is a power of two exactly when it is positive and shares no bit with its
predecessor. -/
def isPowerOfTwo (a : Word) : Bool := a != 0 && a &&& (a - 1) == 0

/-- The bit test holds of the powers of two and of nothing else; zero fails it. -/
theorem isPowerOfTwo_iff {a : Word} : isPowerOfTwo a = true ↔ a.toNat.isPowerOfTwo := by
  rw [← Nat.ne_zero_and_sub_one_eq_zero_iff_isPowerOfTwo]
  simp only [isPowerOfTwo, Bool.and_eq_true, bne_iff_ne, beq_iff_eq, ne_eq, ← UInt64.toNat_inj,
    UInt64.toNat_and, UInt64.toNat_zero]
  by_cases h : a.toNat = 0
  · simp [h]
  · have hle : (1 : Word) ≤ a := UInt64.le_iff_toNat_le.2 (by simp; omega)
    rw [UInt64.toNat_sub_of_le _ _ hle]
    simp

end Word

end BusPool
