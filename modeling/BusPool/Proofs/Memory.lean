import BusPool.Memory

/-!
# What filling changes

Filling sets the bytes in range that exist and leaves all others as they are
(**`Memory.byteAt?_fill_of_within`**, **`Memory.byteAt?_fill_of_not_within`**). No byte that exists
ever ceases to: regions are only added, and none changes its length (**`Memory.Holds.fill`**,
**`Memory.Holds.map`**).
-/

namespace BusPool

/-- A pointer to one of the `n` bytes from another one on. -/
structure Pointer.Within (q p : Pointer) (n : Nat) : Prop where
  /-- It points into the same region. -/
  region_eq : q.region = p.region
  /-- It does not point before the first byte. -/
  low : p.offset ≤ q.offset
  /-- It points before the end. -/
  high : q.offset < p.offset + n

namespace Memory

variable {m : Memory} {p q : Pointer} {n : Nat}

/-- There are `n` bytes from a pointer on. -/
def Holds (m : Memory) (p : Pointer) (n : Nat) : Prop :=
  ∃ bytes, m.regions[p.region]? = some bytes ∧ p.offset + n ≤ bytes.size

/-- The byte at a pointer after filling. -/
private theorem byteAt?_fill (m : Memory) (p q : Pointer) (n : Nat) (byte : UInt8) :
    (m.fill p n byte).byteAt? q = if p.region = q.region then
      (m.regions[q.region]?).bind fun bytes => (fillBytes bytes p.offset n byte)[q.offset]?
      else m.byteAt? q := by
  unfold byteAt? fill
  rw [Array.getElem?_modify]
  split
  · cases m.regions[q.region]? <;> rfl
  · rfl

/-- **A byte in range is the new one**, if it exists. -/
theorem byteAt?_fill_of_within (h : q.Within p n) (byte : UInt8) :
    (m.fill p n byte).byteAt? q = (m.byteAt? q).map fun _ => byte := by
  rw [byteAt?_fill, if_pos h.region_eq.symm, byteAt?]
  cases m.regions[q.region]? with
  | none => rfl
  | some bytes =>
    rw [Option.bind_some, Option.bind_some, getElem?_fillBytes, if_pos ⟨h.low, h.high⟩]

/-- **A byte out of range is what it was.** -/
theorem byteAt?_fill_of_not_within (h : ¬q.Within p n) (byte : UInt8) :
    (m.fill p n byte).byteAt? q = m.byteAt? q := by
  rw [byteAt?_fill]
  split
  · rename_i hregion
    rw [byteAt?]
    cases m.regions[q.region]? with
    | none => rfl
    | some bytes =>
      rw [Option.bind_some, Option.bind_some, getElem?_fillBytes, if_neg]
      exact fun hrange => h ⟨hregion.symm, hrange.1, hrange.2⟩
  · rfl

/-- There is a byte at every pointer in range. -/
theorem Holds.exists_byte (h : m.Holds p n) (hq : q.Within p n) :
    ∃ byte, m.byteAt? q = some byte := by
  obtain ⟨bytes, hregion, hsize⟩ := h
  have hlt : q.offset < bytes.size := Nat.lt_of_lt_of_le hq.high hsize
  refine ⟨bytes[q.offset], ?_⟩
  rw [byteAt?, hq.region_eq, hregion, Option.bind_some]
  exact Array.getElem?_eq_getElem hlt

/-- Bytes that exist still do after filling. -/
theorem Holds.fill (h : m.Holds q n) (p : Pointer) (len : Nat) (byte : UInt8) :
    (m.fill p len byte).Holds q n := by
  obtain ⟨bytes, hregion, hsize⟩ := h
  unfold Holds Memory.fill
  rw [Array.getElem?_modify, hregion]
  split
  · refine ⟨_, rfl, ?_⟩
    rw [size_fillBytes]
    exact hsize
  · exact ⟨bytes, rfl, hsize⟩

/-- A region that exists is not touched when another one is mapped. -/
private theorem getElem?_map {i : Nat} {bytes : Array UInt8} (h : m.regions[i]? = some bytes)
    (more : Array UInt8) : (m.map more).regions[i]? = some bytes := by
  have hlt := (Array.getElem?_eq_some_iff.1 h).1
  rw [Memory.map, Array.getElem?_push_lt hlt, ← h]
  exact (Array.getElem?_eq_getElem hlt).symm

/-- Bytes that exist still do after a region is mapped. -/
theorem Holds.map (h : m.Holds q n) (more : Array UInt8) : (m.map more).Holds q n := by
  obtain ⟨bytes, hregion, hsize⟩ := h
  exact ⟨bytes, getElem?_map hregion more, hsize⟩

/-- A byte that exists is what it was after a region is mapped. -/
theorem Holds.byteAt?_map (h : m.Holds p n) (hq : q.Within p n) (more : Array UInt8) :
    (m.map more).byteAt? q = m.byteAt? q := by
  obtain ⟨bytes, hregion, -⟩ := h
  rw [← hq.region_eq] at hregion
  rw [byteAt?, byteAt?, getElem?_map hregion more, hregion]

end Memory

end BusPool
