import BusPool.Text.Hex
import BusPool.Word

/-!
# Bus addresses

An address is what a device uses to name a byte. It is a word in a type of its own, so that it
is never mistaken for a length or for a local pointer. Addresses are ordered as numbers
(**`Address.lt_iff`**), and rounding to a power of two is a matter of masking bits: the mask
`align - 1` selects the part of an address below the alignment.

Rounding up has no exact answer above the highest multiple of the alignment. There it gives that
highest multiple, which is then below the address it started from; a caller recognises the case
by this.
-/

namespace BusPool

/-- A bus address. -/
@[ext]
structure Address where
  /-- The address as a word. -/
  word : Word
deriving DecidableEq, Inhabited, Repr

namespace Address

/-- The address as a number. -/
def toNat (a : Address) : Nat := a.word.toNat

/-- Every address is below `UInt64.size`. -/
theorem toNat_lt (a : Address) : a.toNat < UInt64.size := Word.toNat_lt a.word

/-- Addresses are equal exactly when they are equal as numbers. -/
theorem toNat_inj {a b : Address} : a.toNat = b.toNat ↔ a = b := by
  rw [toNat, toNat, UInt64.toNat_inj, Address.ext_iff]

/-! ## Order -/

/-- One address is below another as a number. -/
instance : LT Address := ⟨fun a b => a.toNat < b.toNat⟩

/-- One address is at or below another as a number. -/
instance : LE Address := ⟨fun a b => a.toNat ≤ b.toNat⟩

/-- The strict order, read in `Nat`. -/
theorem lt_iff {a b : Address} : a < b ↔ a.toNat < b.toNat := Iff.rfl

/-- The order, read in `Nat`. -/
theorem le_iff {a b : Address} : a ≤ b ↔ a.toNat ≤ b.toNat := Iff.rfl

/-- The strict order is decided in `Nat`. -/
instance (a b : Address) : Decidable (a < b) := inferInstanceAs (Decidable (a.toNat < b.toNat))

/-- The order is decided in `Nat`. -/
instance (a b : Address) : Decidable (a ≤ b) := inferInstanceAs (Decidable (a.toNat ≤ b.toNat))

/-- How two addresses compare as numbers. -/
instance : Ord Address := ⟨fun a b => compare a.toNat b.toNat⟩

/-! ## Rounding by masks

The alignment is a power of two wherever these are used. -/

/-- The highest multiple of `align` at or below the address. -/
def roundDown (a : Address) (align : Word) : Address := ⟨a.word &&& ~~~(align - 1)⟩

/-- The lowest multiple of `align` at or above the address, or the highest one of all where
there is none above. -/
def roundUp (a : Address) (align : Word) : Address :=
  match Word.add? a.word (align - 1) with
  | some w => ⟨w &&& ~~~(align - 1)⟩
  | none => ⟨Word.top &&& ~~~(align - 1)⟩

/-- Whether the address is a multiple of `align`. -/
def isMultipleOf (a : Address) (align : Word) : Bool := a.word &&& (align - 1) == 0

/-- The distance from `base` up to the address, unless `base` lies above it. -/
def offsetFrom? (a base : Address) : Option Word := Word.sub? a.word base.word

/-- The address `n` bytes further on, counted around the top of the bus. -/
def wrappingAdd (a : Address) (n : Word) : Address := ⟨a.word + n⟩

/-! ## Text -/

/-- The sixteen digits of the address. -/
def display (a : Address) : String := Text.Hex.padded a.toNat

/-- The address in the form used inside structured values. -/
def inspect (a : Address) : String := "BA(" ++ a.display ++ ")"

end Address

end BusPool
