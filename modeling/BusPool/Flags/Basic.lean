import BusPool.Text.Hex

/-!
# Flag words

A flag word is a fixed number of bits, some of which have names. A *scheme* fixes the width, the
names and which bits are known; a flag word of a scheme may carry any bits at all, known or not,
so that bits this library does not interpret pass through it unchanged.

The operations are those of sets of bits. Only the complement and the two checked constructors
look at which bits are known.
-/

namespace BusPool

/-- What the bits of a family of flag words mean. -/
structure FlagScheme (w : Nat) where
  /-- The name shown in front of a flag word. -/
  title : String
  /-- The single bits that have a name, in the order in which names are shown. -/
  named : List (String × BitVec w)
  /-- All bits that have a meaning. -/
  known : BitVec w

/-- A flag word of a scheme. -/
@[ext]
structure Flags {w : Nat} (s : FlagScheme w) where
  /-- The bits as they are. -/
  bits : BitVec w
deriving DecidableEq

namespace Flags

variable {w : Nat} {s : FlagScheme w}

/-! ## Making flag words -/

/-- The flag word with these bits, unless one of them is unknown. -/
def ofBits? (bits : BitVec w) : Option (Flags s) :=
  if bits &&& ~~~s.known = 0 then some ⟨bits⟩ else none

/-- The flag word with the known ones among these bits. -/
def truncate (bits : BitVec w) : Flags s := ⟨bits &&& s.known⟩

/-! ## Tests -/

/-- Whether no bit is set. -/
def isEmpty (a : Flags s) : Bool := a.bits == 0

/-- Whether every known bit is set. -/
def isAll (a : Flags s) : Bool := a.bits &&& s.known == s.known

/-- Whether every bit of `b` is set in `a`. -/
def contains (a b : Flags s) : Bool := a.bits &&& b.bits == b.bits

/-- Whether some bit is set in both. -/
def intersects (a b : Flags s) : Bool := a.bits &&& b.bits != 0

/-! ## Set operations -/

/-- The bits of either. -/
def union (a b : Flags s) : Flags s := ⟨a.bits ||| b.bits⟩

/-- The bits of both. -/
def inter (a b : Flags s) : Flags s := ⟨a.bits &&& b.bits⟩

/-- The bits of exactly one. -/
def symmDiff (a b : Flags s) : Flags s := ⟨a.bits ^^^ b.bits⟩

/-- The bits of `a` that are not in `b`, unknown ones included. -/
def diff (a b : Flags s) : Flags s := ⟨a.bits &&& ~~~b.bits⟩

/-- The known bits that are not set. -/
def complement (a : Flags s) : Flags s := ⟨~~~a.bits &&& s.known⟩

/-! ## Text -/

/-- The names of the bits that are set. -/
def names (a : Flags s) : List String :=
  (s.named.filter fun entry => a.bits &&& entry.2 == entry.2).map Prod.fst

/-- The bits that are set and have no name. -/
def unnamed (a : Flags s) : BitVec w :=
  a.bits &&& ~~~(s.named.foldl (fun acc entry => acc ||| entry.2) 0)

/-- The names, then what is left as a number; `0x0` where no bit is set. -/
def inspect (a : Flags s) : String :=
  let rest := if a.unnamed = 0 && !a.isEmpty then [] else [Text.Hex.plain a.unnamed.toNat]
  s.title ++ "(" ++ String.intercalate " | " (a.names ++ rest) ++ ")"

end Flags

end BusPool
