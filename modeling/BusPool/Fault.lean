import BusPool.Extent
import BusPool.Flags.Sync

/-!
# Faults

A fault is a broken rule: a misuse by the caller, a broken promise of the backing store, or
arithmetic whose exact result is no word. It ends the operation in progress and nothing else, so
it is an ordinary value here. Each constructor is one cause and carries what its text needs;
**`Fault.message`** is the only place where texts are written.
-/

namespace BusPool

/-- Why an operation was stopped. -/
inductive Fault where
  /-- A sum exceeds the greatest word. -/
  | addOverflow
  /-- A difference is negative. -/
  | subOverflow
  /-- A product exceeds the greatest word. -/
  | mulOverflow
  /-- A divisor is zero. -/
  | zeroDivisor
  /-- An alignment is not a power of two. -/
  | alignNotPowerOfTwo
  /-- A reservation or release of no bytes. -/
  | zeroSize
  /-- A boundary that is neither zero nor a power of two at least as large as the block. -/
  | badBoundary
  /-- A span without bytes. -/
  | emptySpan (start : Address)
  /-- A span that reaches past the greatest word. -/
  | spanWraps (span : Extent)
  /-- A span that meets one added before. -/
  | spanOverlaps (span other : Extent)
  /-- A release that reaches past the greatest word. -/
  | releaseWraps (start : Address) (size : Word)
  /-- A release that is not inside one span. -/
  | releaseOutside (start : Address) (size : Word)
  /-- A release of another length than was reserved there. -/
  | lengthMismatch (released : Extent) (reserved : Word)
  /-- A release that meets free bytes. -/
  | doubleFree (released free : Extent)
  /-- A release inside a block. -/
  | notBlockStart (released : Extent)
  /-- A segment that meets one already in the index. -/
  | segmentOverlaps (segment other : Extent)
  /-- An address that no segment contains. -/
  | noOwner (addr : Address)
  /-- A local pointer wanted for an address outside the segment. -/
  | outsideSegment
  /-- A granted segment smaller than was asked for. -/
  | shortGrant
  /-- A handle that is no multiple of the pool's alignment. -/
  | misalignedFree (pool : String) (handle : Address)
  /-- Operations of both phases at once. -/
  | mixedPhases (pool : String) (handle : Address) (ops : SyncOps)
  /-- A block that would reach past the end of its segment. -/
  | blockPastSegment
  /-- The holder of a lock stopped at this value. -/
  | holderStopped (value : Word)
deriving DecidableEq

namespace Fault

/-- The text of a failed check, given by its condition. -/
private def check (condition : String) : String := "assertion failed: " ++ condition

/-- How the texts about a release name its extent before it is known to be one. -/
private def stretch (start : Address) (size : Word) : String :=
  start.display ++ " (+" ++ Text.Hex.plain size.toNat ++ ")"

/-- The text of a fault. -/
def message : Fault → String
  | addOverflow => "attempt to add with overflow"
  | subOverflow => "attempt to subtract with overflow"
  | mulOverflow => "attempt to multiply with overflow"
  | zeroDivisor => "attempt to divide by zero"
  | alignNotPowerOfTwo => check "align.is_power_of_two()"
  | zeroSize => check "size > 0"
  | badBoundary => check "boundary == 0 || (boundary.is_power_of_two() && boundary >= size)"
  | emptySpan start => "empty span at " ++ start.display
  | spanWraps span => "span " ++ span.display ++ " wraps around the bus address space"
  | spanOverlaps span other => "span " ++ span.display ++ " overlaps span " ++ other.display
  | releaseWraps start size =>
    "release of " ++ stretch start size ++ " wraps around the bus address space"
  | releaseOutside start size =>
    "release of " ++ stretch start size ++ " outside of any imported span"
  | lengthMismatch released reserved =>
    "assertion `left == right` failed: release of " ++ released.display
      ++ ": block was reserved with " ++ Text.Hex.plain reserved.toNat ++ " bytes\n  left: "
      ++ toString reserved.toNat ++ "\n right: " ++ toString released.len.toNat
  | doubleFree released free =>
    "double free of " ++ released.display ++ ": overlaps free range " ++ free.display
  | notBlockStart released =>
    "release of " ++ released.display ++ ": not the start of a reserved block"
  | segmentOverlaps segment other =>
    "segment " ++ segment.display ++ " overlaps existing segment " ++ other.display
  | noOwner addr => "pool segment not found: " ++ addr.display
  | outsideSegment => check "self.range.contains(addr)"
  | shortGrant => check "grant.len >= min_size"
  | misalignedFree pool handle =>
    "dma pool " ++ pool ++ ": free of misaligned handle " ++ handle.display
  | mixedPhases pool handle ops =>
    "dma pool " ++ pool ++ ": sync of " ++ handle.display
      ++ " mixes PRE and POST operations (" ++ ops.inspect ++ ")"
  | blockPastSegment => check "offset + self.config.block_size <= segment.len()"
  | holderStopped value => "holder panicked at " ++ toString value.toNat

end Fault

end BusPool
