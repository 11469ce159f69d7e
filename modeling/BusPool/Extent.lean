import BusPool.Address

/-!
# Extents

An extent is a half-open stretch of bus addresses, given by its first address and its length. It
may be empty, and it may reach past the top of the bus: its end is then cut off at the greatest
word. Everything said about extents is in terms of that end.
-/

namespace BusPool

/-- The addresses from `start` up to, but not including, `start + len`. -/
@[ext]
structure Extent where
  /-- The first address. -/
  start : Address
  /-- The number of bytes. -/
  len : Word
deriving DecidableEq, Inhabited, Repr

namespace Extent

/-- One past the last byte, cut off at the greatest word. -/
def endWord (e : Extent) : Word := Word.addSat e.start.word e.len

/-- The end is the sum of start and length, cut off at the greatest word. -/
theorem toNat_endWord (e : Extent) :
    e.endWord.toNat = min (e.start.toNat + e.len.toNat) (UInt64.size - 1) :=
  Word.toNat_addSat _ _

/-- Whether the address lies in the extent. -/
def contains (e : Extent) (a : Address) : Bool :=
  decide (e.start ≤ a) && decide (a.word < e.endWord)

/-- Whether each extent starts before the other ends. -/
def overlaps (e f : Extent) : Bool :=
  decide (e.start.word < f.endWord) && decide (f.start.word < e.endWord)

/-- An extent contains the addresses from its start up to, but not including, its end. -/
theorem contains_iff {e : Extent} {a : Address} :
    e.contains a = true ↔ e.start.toNat ≤ a.toNat ∧ a.toNat < e.endWord.toNat := by
  simp [contains, Address.le_iff, Address.toNat, UInt64.lt_iff_toNat_lt]

/-- Two extents overlap when each starts before the other ends. An empty extent therefore
overlaps one whose inside holds its start. -/
theorem overlaps_iff {e f : Extent} :
    e.overlaps f = true ↔
      e.start.toNat < f.endWord.toNat ∧ f.start.toNat < e.endWord.toNat := by
  simp [overlaps, Address.toNat, UInt64.lt_iff_toNat_lt]

/-! ## Text -/

/-- Both ends, as in `[0x0000000000001000..0x0000000000002000)`. -/
def display (e : Extent) : String :=
  "[" ++ e.start.display ++ ".." ++ Text.Hex.padded e.endWord.toNat ++ ")"

/-- The two fields by name. -/
def inspect (e : Extent) : String :=
  "BusRange \x7b start: " ++ e.start.inspect ++ ", len: " ++ toString e.len.toNat ++ " \x7d"

end Extent

end BusPool
