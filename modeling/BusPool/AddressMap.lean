import BusPool.Address

/-!
# Maps ordered by address

A map from addresses keeps its entries in one list, in strictly ascending order of their keys.
The order is part of the type, so a map has one representation only: two maps with the same
entries are equal (**`AddressMap.ext_mem`**). Besides looking up a key, a map answers which entry
is the highest at or below an address (**`floor?_eq_some_iff`**) and which the lowest at or above
(**`ceil?_eq_some_iff`**). Membership in `entries` is the view in which every operation is
described.
-/

namespace BusPool

/-- Values keyed by address, in ascending order. -/
@[ext]
structure AddressMap (α : Type) where
  /-- The entries from the lowest key to the highest. -/
  entries : List (Address × α)
  /-- Keys ascend strictly. -/
  ordered : entries.Pairwise fun x y => x.1 < y.1

namespace AddressMap

variable {α : Type}

/-! ## Operations -/

/-- The map without entries. -/
def empty : AddressMap α := ⟨[], .nil⟩

/-- The empty map is the default one. -/
instance : Inhabited (AddressMap α) := ⟨empty⟩

/-- How many entries there are. -/
def size (m : AddressMap α) : Nat := m.entries.length

/-- The values in ascending order of their keys. -/
def values (m : AddressMap α) : List α := m.entries.map Prod.snd

/-- The value at a key. -/
def get? (m : AddressMap α) (k : Address) : Option α :=
  (m.entries.find? fun x => x.1 = k).map Prod.snd

/-- The highest entry at or below an address. -/
def floor? (m : AddressMap α) (k : Address) : Option (Address × α) :=
  (m.entries.filter fun x => x.1 ≤ k).getLast?

/-- The lowest entry at or above an address. -/
def ceil? (m : AddressMap α) (k : Address) : Option (Address × α) :=
  m.entries.find? fun x => k ≤ x.1

/-- The entries next to an address, the lower one first. An entry at the address itself is both
of them. -/
def neighbours (m : AddressMap α) (k : Address) : List (Address × α) :=
  (m.floor? k).toList ++ (m.ceil? k).toList

/-- The map with this value at this key, in place of what was there. -/
def insert (m : AddressMap α) (k : Address) (v : α) : AddressMap α where
  entries :=
    (m.entries.filter fun x => x.1 < k) ++ (k, v) :: m.entries.filter fun x => k < x.1
  ordered := by
    simp only [List.pairwise_append, List.pairwise_cons, List.mem_cons, List.mem_filter,
      decide_eq_true_eq]
    refine ⟨m.ordered.filter _, ⟨fun y hy => hy.2, m.ordered.filter _⟩, ?_⟩
    rintro x ⟨-, hx⟩ y (rfl | ⟨-, hy⟩)
    · exact hx
    · exact Nat.lt_trans hx hy

/-- The map without this key. -/
def erase (m : AddressMap α) (k : Address) : AddressMap α where
  entries := m.entries.filter fun x => x.1 ≠ k
  ordered := m.ordered.filter _

/-! ## Membership -/

/-- The empty map has no entries. -/
@[simp] theorem entries_empty : (empty : AddressMap α).entries = [] := rfl

/-- Of two different addresses one is below the other. -/
theorem ne_iff_lt_or_lt {a b : Address} : a ≠ b ↔ a < b ∨ b < a := by
  rw [ne_eq, ← Address.toNat_inj, Address.lt_iff, Address.lt_iff]
  omega

/-- The entries after an insertion: the new one, and those under other keys. -/
theorem mem_insert {m : AddressMap α} {k : Address} {v : α} {x : Address × α} :
    x ∈ (m.insert k v).entries ↔ x = (k, v) ∨ x ∈ m.entries ∧ x.1 ≠ k := by
  simp only [insert, List.mem_append, List.mem_cons, List.mem_filter, decide_eq_true_eq,
    ne_iff_lt_or_lt]
  grind

/-- The entries after an erasure: those under other keys. -/
theorem mem_erase {m : AddressMap α} {k : Address} {x : Address × α} :
    x ∈ (m.erase k).entries ↔ x ∈ m.entries ∧ x.1 ≠ k := by
  simp [erase]

/-- Keys are distinct: an entry is determined by its key. -/
theorem eq_of_mem {m : AddressMap α} {k : Address} {v w : α} (hv : (k, v) ∈ m.entries)
    (hw : (k, w) ∈ m.entries) : v = w := by
  obtain ⟨i, hi, ei⟩ := List.getElem_of_mem hv
  obtain ⟨j, hj, ej⟩ := List.getElem_of_mem hw
  have ordered := List.pairwise_iff_getElem.1 m.ordered
  rcases Nat.lt_trichotomy i j with h | h | h
  · have := ordered i j hi hj h
    simp [ei, ej, Address.lt_iff] at this
  · subst h
    simpa using ei.symm.trans ej
  · have := ordered j i hj hi h
    simp [ei, ej, Address.lt_iff] at this

/-- What is looked up is an entry, and every entry can be looked up. -/
theorem get?_eq_some_iff {m : AddressMap α} {k : Address} {v : α} :
    m.get? k = some v ↔ (k, v) ∈ m.entries := by
  constructor
  · intro h
    obtain ⟨⟨l, w⟩, hf, rfl⟩ := Option.map_eq_some_iff.1 h
    have hl := List.find?_some hf
    simp only [decide_eq_true_eq] at hl
    subst hl
    exact List.mem_of_find?_eq_some hf
  · intro h
    cases hf : m.entries.find? fun x => x.1 = k with
    | none =>
      have := List.find?_eq_none.1 hf _ h
      simp at this
    | some x =>
      obtain ⟨l, w⟩ := x
      have hl := List.find?_some hf
      simp only [decide_eq_true_eq] at hl
      subst hl
      simp [get?, hf, eq_of_mem (List.mem_of_find?_eq_some hf) h]

/-- A lookup finds nothing exactly when no entry has the key. -/
theorem get?_eq_none_iff {m : AddressMap α} {k : Address} :
    m.get? k = none ↔ ∀ v, (k, v) ∉ m.entries := by
  rw [Option.eq_none_iff_forall_ne_some]
  simp only [ne_eq, get?_eq_some_iff]

/-! ## Neighbours -/

/-- The floor of a key is the entry with the greatest key at or below it. -/
theorem floor?_eq_some_iff {m : AddressMap α} {k : Address} {x : Address × α} :
    m.floor? k = some x ↔
      x ∈ m.entries ∧ x.1 ≤ k ∧ ∀ y ∈ m.entries, y.1 ≤ k → y.1 ≤ x.1 := by
  have below := m.ordered.filter fun x => decide (x.1 ≤ k)
  constructor
  · intro h
    obtain ⟨front, hfront⟩ := List.getLast?_eq_some_iff.1 h
    have hx : x ∈ m.entries.filter fun x => x.1 ≤ k := by simp [hfront]
    simp only [List.mem_filter, decide_eq_true_eq] at hx
    refine ⟨hx.1, hx.2, fun y hy hyk => ?_⟩
    have hy' : y ∈ m.entries.filter fun x => x.1 ≤ k := by simp [hy, hyk]
    rw [hfront] at below hy'
    rcases List.mem_append.1 hy' with hy' | hy'
    · exact Nat.le_of_lt ((List.pairwise_append.1 below).2.2 y hy' x (by simp))
    · rw [List.mem_singleton.1 hy']
      exact Nat.le_refl _
  · rintro ⟨hx, hxk, hmax⟩
    have hx' : x ∈ m.entries.filter fun x => x.1 ≤ k := by simp [hx, hxk]
    cases h : m.floor? k with
    | none =>
      have := List.getLast?_eq_none_iff.1 h
      simp [this] at hx'
    | some z =>
      obtain ⟨front, hfront⟩ := List.getLast?_eq_some_iff.1 h
      rw [hfront] at below hx'
      rcases List.mem_append.1 hx' with hx' | hx'
      · have hlt := (List.pairwise_append.1 below).2.2 x hx' z (by simp)
        have hz : z ∈ m.entries.filter fun x => x.1 ≤ k := by simp [hfront]
        simp only [List.mem_filter, decide_eq_true_eq] at hz
        exact absurd hlt (Nat.not_lt.2 (hmax z hz.1 hz.2))
      · rw [List.mem_singleton.1 hx']

/-- A key has no floor exactly when every entry lies above it. -/
theorem floor?_eq_none_iff {m : AddressMap α} {k : Address} :
    m.floor? k = none ↔ ∀ y ∈ m.entries, k < y.1 := by
  simp [floor?, Address.le_iff, Address.lt_iff]

/-- The ceiling of a key is the entry with the least key at or above it. -/
theorem ceil?_eq_some_iff {m : AddressMap α} {k : Address} {x : Address × α} :
    m.ceil? k = some x ↔
      x ∈ m.entries ∧ k ≤ x.1 ∧ ∀ y ∈ m.entries, k ≤ y.1 → x.1 ≤ y.1 := by
  constructor
  · intro h
    obtain ⟨hk, front, back, hsplit, hfront⟩ := List.find?_eq_some_iff_append.1 h
    simp only [decide_eq_true_eq] at hk
    refine ⟨by simp [hsplit], hk, fun y hy hyk => ?_⟩
    have ordered := m.ordered
    rw [hsplit] at hy ordered
    rcases List.mem_append.1 hy with hy | hy
    · simpa [hyk] using hfront y hy
    · rcases List.mem_cons.1 hy with rfl | hy
      · exact Nat.le_refl _
      · exact Nat.le_of_lt ((List.pairwise_cons.1 (List.pairwise_append.1 ordered).2.1).1 y hy)
  · rintro ⟨hx, hxk, hmin⟩
    cases h : m.ceil? k with
    | none =>
      have := List.find?_eq_none.1 h x hx
      simp [hxk] at this
    | some z =>
      obtain ⟨hk, front, back, hsplit, hfront⟩ := List.find?_eq_some_iff_append.1 h
      simp only [decide_eq_true_eq] at hk
      have ordered := m.ordered
      rw [hsplit] at hx ordered
      rcases List.mem_append.1 hx with hx | hx
      · have := hfront x hx
        simp [hxk] at this
      · rcases List.mem_cons.1 hx with rfl | hx
        · rfl
        · have hlt := (List.pairwise_cons.1 (List.pairwise_append.1 ordered).2.1).1 x hx
          exact absurd hlt (Nat.not_lt.2 (hmin z (by simp [hsplit]) hk))

/-- A key has no ceiling exactly when every entry lies below it. -/
theorem ceil?_eq_none_iff {m : AddressMap α} {k : Address} :
    m.ceil? k = none ↔ ∀ y ∈ m.entries, y.1 < k := by
  simp [ceil?, Address.le_iff, Address.lt_iff]

/-! ## Equality -/

/-- Two ascending lists with the same members are the same list: the least member of one is the
least of the other. -/
private theorem eq_of_same_members : {xs ys : List (Address × α)} →
    xs.Pairwise (fun x y => x.1 < y.1) → ys.Pairwise (fun x y => x.1 < y.1) →
    (∀ z, z ∈ xs ↔ z ∈ ys) → xs = ys
  | [], [], _, _, _ => rfl
  | [], y :: _, _, _, h => absurd ((h y).2 (by simp)) (by simp)
  | x :: _, [], _, _, h => absurd ((h x).1 (by simp)) (by simp)
  | x :: xs, y :: ys, hx, hy, h => by
    obtain ⟨hx₁, hx₂⟩ := List.pairwise_cons.1 hx
    obtain ⟨hy₁, hy₂⟩ := List.pairwise_cons.1 hy
    have first : x = y := by
      rcases List.mem_cons.1 ((h x).1 (by simp)) with hxy | hxy
      · exact hxy
      · rcases List.mem_cons.1 ((h y).2 (by simp)) with hyx | hyx
        · exact hyx.symm
        · exact absurd (hx₁ y hyx) (Nat.lt_asymm (hy₁ x hxy))
    subst first
    have rest : xs = ys := by
      apply eq_of_same_members hx₂ hy₂
      intro z
      constructor
      · intro hz
        rcases List.mem_cons.1 ((h z).1 (by simp [hz])) with rfl | hz'
        · exact absurd (hx₁ z hz) (Nat.lt_irrefl _)
        · exact hz'
      · intro hz
        rcases List.mem_cons.1 ((h z).2 (by simp [hz])) with rfl | hz'
        · exact absurd (hy₁ z hz) (Nat.lt_irrefl _)
        · exact hz'
    rw [rest]

/-- Maps with the same entries are equal. -/
theorem ext_mem {m n : AddressMap α} (h : ∀ x, x ∈ m.entries ↔ x ∈ n.entries) : m = n :=
  AddressMap.ext (eq_of_same_members m.ordered n.ordered h)

end AddressMap

end BusPool
