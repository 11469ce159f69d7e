import BusPool.Segment.Basic

/-!
# Local memory

Local memory is a sequence of regions, each a row of bytes of its own. A store maps a new region
for the memory it grants, and bytes are written and read through pointers. Writing touches the
bytes in range and no others (**`getElem?_fillBytes`**).
-/

namespace BusPool

/-- The regions mapped so far, in the order in which they were mapped. -/
structure Memory where
  /-- The bytes of each region. -/
  regions : Array (Array UInt8)
deriving DecidableEq, Inhabited

namespace Memory

/-- No region at all. -/
def empty : Memory := ⟨#[]⟩

/-- Map a new region with these bytes. -/
def map (m : Memory) (bytes : Array UInt8) : Memory := ⟨m.regions.push bytes⟩

/-- Set `n` bytes of a row from `start` on, as far as they exist. -/
def fillBytes (bytes : Array UInt8) (start n : Nat) (byte : UInt8) : Array UInt8 :=
  n.fold (fun i _ row => row.setIfInBounds (start + i) byte) bytes

/-- Set `n` bytes from a pointer on. -/
def fill (m : Memory) (p : Pointer) (n : Nat) (byte : UInt8) : Memory :=
  ⟨m.regions.modify p.region fun bytes => fillBytes bytes p.offset n byte⟩

/-- The `n` bytes from a pointer on. -/
def read (m : Memory) (p : Pointer) (n : Nat) : Array UInt8 :=
  ((m.regions[p.region]?).getD #[]).extract p.offset (p.offset + n)

/-- The byte at a pointer. -/
def byteAt? (m : Memory) (p : Pointer) : Option UInt8 :=
  (m.regions[p.region]?).bind fun bytes => bytes[p.offset]?

/-- Filling keeps the number of bytes. -/
@[simp] theorem size_fillBytes (bytes : Array UInt8) (start n : Nat) (byte : UInt8) :
    (fillBytes bytes start n byte).size = bytes.size := by
  induction n with
  | zero => rfl
  | succ n ih =>
    simp only [fillBytes, Nat.fold_succ, Array.size_setIfInBounds]
    exact ih

/-- After filling, a byte in range is the new one and any other is what it was. -/
theorem getElem?_fillBytes (bytes : Array UInt8) (start n : Nat) (byte : UInt8) (i : Nat) :
    (fillBytes bytes start n byte)[i]? =
      if start ≤ i ∧ i < start + n then (bytes[i]?).map fun _ => byte else bytes[i]? := by
  induction n with
  | zero =>
    rw [if_neg (by omega)]
    rfl
  | succ n ih =>
    have unfolded : fillBytes bytes start (n + 1) byte =
        (fillBytes bytes start n byte).setIfInBounds (start + n) byte := by
      simp only [fillBytes, Nat.fold_succ]
    rw [unfolded, Array.getElem?_setIfInBounds, ih, size_fillBytes]
    grind

/-- A row of bytes as stretches of one value each: the value and how often it occurs. -/
def runs (bytes : Array UInt8) : List (UInt8 × Nat) :=
  bytes.foldr
    (fun byte later =>
      match later with
      | (value, count) :: rest =>
        if byte = value then (value, count + 1) :: rest else (byte, 1) :: later
      | [] => [(byte, 1)])
    []

example : runs #[7, 7, 0, 7] = [(7, 2), (0, 1), (7, 1)] := by decide

end Memory

end BusPool
