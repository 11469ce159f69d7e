import BusPool.Flags.Basic

/-!
# Flags of an allocation

Two of the 32 bits mean something here: the block is to be filled with zeroes, and the backing
store must not wait. All others belong to the store, so every bit counts as known.
-/

namespace BusPool

/-- Two named bits among 32 known ones. -/
def AllocFlags.scheme : FlagScheme 32 where
  title := "AllocFlags"
  named := [("ZERO", 1), ("NOWAIT", 2)]
  known := ~~~0

/-- How an allocation is to be carried out. -/
abbrev AllocFlags := Flags AllocFlags.scheme

namespace AllocFlags

/-- Fill the block with zeroes. -/
def zero : AllocFlags := ⟨1⟩

/-- Do not wait for backing memory. -/
def noWait : AllocFlags := ⟨2⟩

/-- Whether the caller is willing to wait for backing memory. -/
def mayWait (flags : AllocFlags) : Bool := !flags.contains noWait

example : Flags.inspect (s := AllocFlags.scheme) ⟨0x9⟩ = "AllocFlags(ZERO | 0x8)" := by decide

end AllocFlags

end BusPool
