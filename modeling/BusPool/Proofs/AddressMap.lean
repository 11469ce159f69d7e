import BusPool.AddressMap
import BusPool.Extent
import Mathlib.Algebra.GroupWithZero.Nat
import Mathlib.Data.List.Perm.Basic

/-!
# Address maps whose entries are stretches of the bus

Two things are counted on when the entries of a map stand for stretches of addresses: how many
bytes there are in all (**`AddressMap.total_insert`**, **`AddressMap.total_erase`**), and that the
stretches are *spaced*, each ending before the next one starts.

Keeping a map spaced is what the neighbours of a key are looked at for. An entry that meets any
entry at all meets the one at or below its start or the one at or above it
(**`AddressMap.Spaced.insert`**), so that two tests do for a map of any size.
-/

namespace BusPool

/-- One past the last address of an entry, not cut off anywhere. -/
def stopOf (entry : Address × Word) : Nat := entry.1.toNat + entry.2.toNat

/-- The end of an entry given by its two parts. -/
@[simp] theorem stopOf_mk (k : Address) (len : Word) : stopOf (k, len) = k.toNat + len.toNat := rfl

/-- The end of an entry that stays on the bus is the end of its extent. -/
theorem toNat_endWord_extentOf {x : Address × Word} (h : stopOf x < UInt64.size) :
    (⟨x.1, x.2⟩ : Extent).endWord.toNat = stopOf x := by
  rw [Extent.toNat_endWord]
  exact Nat.min_eq_left (Nat.le_sub_one_of_lt h)

namespace AddressMap

variable {α : Type} {m : AddressMap α} {k : Address}

/-! ### Entries as a permutation -/

/-- No entry occurs twice. -/
theorem nodup_entries (m : AddressMap α) : m.entries.Nodup := by
  refine m.ordered.imp fun {x y} hlt heq => ?_
  rw [heq] at hlt
  exact Nat.lt_irrefl _ hlt

/-- Entries under one key are the same. -/
theorem entry_eq_of_mem {x y : Address × α} (hx : x ∈ m.entries) (hy : y ∈ m.entries)
    (hkey : x.1 = y.1) : x = y :=
  Prod.ext hkey (eq_of_mem (show (y.1, x.2) ∈ m.entries from hkey ▸ hx) hy)

/-- An insertion puts the new entry to those under other keys. -/
theorem perm_insert (m : AddressMap α) (k : Address) (v : α) :
    (m.insert k v).entries.Perm ((k, v) :: (m.erase k).entries) := by
  rw [List.perm_ext_iff_of_nodup (nodup_entries _)]
  · intro x
    rw [mem_insert, List.mem_cons, mem_erase]
  · refine List.nodup_cons.2 ⟨fun h => ?_, nodup_entries _⟩
    exact (mem_erase.1 h).2 rfl

/-- A map is one of its entries put to those under other keys. -/
theorem perm_of_mem {v : α} (h : (k, v) ∈ m.entries) :
    m.entries.Perm ((k, v) :: (m.erase k).entries) := by
  have hsame : m.insert k v = m := by
    apply ext_mem
    intro x
    rw [mem_insert]
    constructor
    · rintro (rfl | ⟨hx, -⟩)
      · exact h
      · exact hx
    · intro hx
      by_cases hk : x.1 = k
      · exact .inl (entry_eq_of_mem hx h hk)
      · exact .inr ⟨hx, hk⟩
  have := perm_insert m k v
  rwa [hsame] at this

/-- Erasing a key that is not there changes nothing. -/
theorem erase_of_not_mem (h : ∀ v, (k, v) ∉ m.entries) : m.erase k = m := by
  apply ext_mem
  intro x
  rw [mem_erase, and_iff_left_iff_imp]
  rintro hx rfl
  exact h x.2 hx

/-- The neighbours of an address are entries. -/
theorem mem_of_mem_neighbours {x : Address × α} (h : x ∈ m.neighbours k) : x ∈ m.entries := by
  rcases List.mem_append.1 h with h | h
  · exact (floor?_eq_some_iff.1 (Option.mem_toList.1 h)).1
  · exact (ceil?_eq_some_iff.1 (Option.mem_toList.1 h)).1

/-- An entry at an address is a neighbour of it. -/
theorem mem_neighbours_self {v : α} (h : (k, v) ∈ m.entries) : (k, v) ∈ m.neighbours k := by
  have hfloor : m.floor? k = some (k, v) :=
    floor?_eq_some_iff.2 ⟨h, Nat.le_refl _, fun _ _ hy => hy⟩
  exact List.mem_append_left _ (Option.mem_toList.2 hfloor)

/-! ### How many bytes there are -/

/-- The sum of the lengths. -/
def total (m : AddressMap Word) : Nat := (m.entries.map fun x => x.2.toNat).sum

/-- An insertion under a new key adds the length. -/
theorem total_insert {m : AddressMap Word} {len : Word} (h : ∀ v, (k, v) ∉ m.entries) :
    (m.insert k len).total = len.toNat + m.total := by
  have hperm := (perm_insert m k len).map fun x => x.2.toNat
  rw [total, hperm.sum_nat, erase_of_not_mem h]
  rfl

/-- An erasure takes the length away. -/
theorem total_erase {m : AddressMap Word} {len : Word} (h : (k, len) ∈ m.entries) :
    m.total = len.toNat + (m.erase k).total := by
  have hperm := (perm_of_mem h).map fun x => x.2.toNat
  rw [total, hperm.sum_nat]
  rfl

/-! ### Spaced entries -/

/-- Each entry ends, at `stop`, no later than any later entry starts. -/
def Spaced (m : AddressMap α) (stop : Address × α → Nat) : Prop :=
  ∀ x ∈ m.entries, ∀ y ∈ m.entries, x.1 < y.1 → stop x ≤ y.1.toNat

/-- Nothing is out of place in the empty map. -/
theorem spaced_empty (stop : Address × α → Nat) : (empty : AddressMap α).Spaced stop := by
  intro x hx
  cases hx

namespace Spaced

variable {stop : Address × α → Nat}

/-- Erasing leaves the other entries in place. -/
theorem erase (h : m.Spaced stop) (k : Address) : (m.erase k).Spaced stop := by
  intro x hx y hy
  exact h x (mem_erase.1 hx).1 y (mem_erase.1 hy).1

/-- Different entries of a spaced map lie apart. -/
theorem apart (h : m.Spaced stop) {x y : Address × α} (hx : x ∈ m.entries) (hy : y ∈ m.entries)
    (hne : x.1 ≠ y.1) : stop x ≤ y.1.toNat ∨ stop y ≤ x.1.toNat := by
  rcases ne_iff_lt_or_lt.1 hne with hlt | hlt
  · exact .inl (h x hx y hy hlt)
  · exact .inr (h y hy x hx hlt)

/-- Two entries of a spaced map that share an address are the same. -/
theorem eq_of_shared (h : m.Spaced stop) {x y : Address × α} (hx : x ∈ m.entries)
    (hy : y ∈ m.entries) {n : Nat} (hxn : x.1.toNat ≤ n ∧ n < stop x)
    (hyn : y.1.toNat ≤ n ∧ n < stop y) : x = y := by
  have hkey : x.1 = y.1 := by
    by_contra hne
    rcases h.apart hx hy hne with hap | hap <;> omega
  exact entry_eq_of_mem hx hy hkey

/-- The entry that holds an address is the floor of that address. -/
theorem floor?_of_holds (h : m.Spaced stop) {x : Address × α} (hx : x ∈ m.entries)
    (hlow : x.1.toNat ≤ k.toNat) (hhigh : k.toNat < stop x) : m.floor? k = some x := by
  refine floor?_eq_some_iff.2 ⟨hx, hlow, fun y hy hyk => ?_⟩
  by_contra hlt
  have := h x hx y hy (Nat.not_le.1 hlt)
  rw [Address.le_iff] at hyk
  omega

/-- **Looking at the neighbours is enough.** A new entry that meets neither the entry at or below
its start nor the one at or above it meets no entry at all. Entries without bytes are harmless
where nothing can start behind them. -/
theorem insert (h : m.Spaced stop) {v : α}
    (hfull : ∀ x ∈ m.entries, x.1.toNat < stop x ∨ UInt64.size ≤ stop x + 1)
    (hstop : k.toNat ≤ stop (k, v))
    (hnear : ∀ x ∈ m.neighbours k, ¬(x.1.toNat < stop (k, v) ∧ k.toNat < stop x)) :
    (m.insert k v).Spaced stop := by
  intro x hx y hy hlt
  rcases mem_insert.1 hx with rfl | ⟨hx, -⟩ <;> rcases mem_insert.1 hy with rfl | ⟨hy, -⟩
  · exact absurd hlt (Nat.lt_irrefl _)
  · -- a later entry: the ceiling of the key is the first that could be met
    cases hceil : m.ceil? k with
    | none => exact absurd (ceil?_eq_none_iff.1 hceil y hy) (Nat.lt_asymm hlt)
    | some z =>
      have hz := hnear z (by simp [neighbours, hceil])
      obtain ⟨hzm, hkz, hmin⟩ := ceil?_eq_some_iff.1 hceil
      have hzy := hmin y hy (Nat.le_of_lt hlt)
      have hfullz := hfull z hzm
      have hbus := y.1.toNat_lt
      simp only [Address.lt_iff, Address.le_iff] at hlt hkz hzy
      omega
  · -- an earlier entry: it ends before the floor of the key or is the floor itself
    cases hfloor : m.floor? k with
    | none => exact absurd (floor?_eq_none_iff.1 hfloor x hx) (Nat.lt_asymm hlt)
    | some z =>
      have hz := hnear z (by simp [neighbours, hfloor])
      obtain ⟨hzm, hzk, hmax⟩ := floor?_eq_some_iff.1 hfloor
      have hxz := hmax x hx (Nat.le_of_lt hlt)
      by_cases hkey : x.1 = z.1
      · have := entry_eq_of_mem hx hzm hkey
        subst this
        simp only [Address.lt_iff] at hlt ⊢
        omega
      · have hxz' := h x hx z hzm
        have hne := Address.toNat_inj.not.2 hkey
        simp only [Address.lt_iff, Address.le_iff] at hxz hxz' hzk ⊢
        omega
  · exact h x hx y hy hlt

/-- The same test in terms of the old entries: none of them is met. -/
theorem not_meet (h : m.Spaced stop) {v : α}
    (hfull : ∀ x ∈ m.entries, x.1.toNat < stop x ∨ UInt64.size ≤ stop x + 1)
    (hstop : k.toNat ≤ stop (k, v))
    (hnear : ∀ x ∈ m.neighbours k, ¬(x.1.toNat < stop (k, v) ∧ k.toNat < stop x)) :
    ∀ x ∈ m.entries, ¬(x.1.toNat < stop (k, v) ∧ k.toNat < stop x) := by
  intro x hx
  by_cases hkey : x.1 = k
  · subst hkey
    exact hnear x (mem_neighbours_self hx)
  · have hspaced := h.insert hfull hstop hnear
    have hnew : (k, v) ∈ (m.insert k v).entries := mem_insert.2 (.inl rfl)
    rintro ⟨hlow, hhigh⟩
    rcases hspaced.apart (mem_insert.2 (.inr ⟨hx, hkey⟩)) hnew hkey with hap | hap
    · exact Nat.not_le.2 hhigh hap
    · exact Nat.not_le.2 hlow hap

end Spaced

/-! ### Covered addresses -/

/-- An entry holds the addresses from its key up to its end. -/
def Holds (entry : Address × Word) (n : Nat) : Prop := entry.1.toNat ≤ n ∧ n < stopOf entry

/-- Whether an entry holds an address is decided in `Nat`. -/
instance (entry : Address × Word) (n : Nat) : Decidable (Holds entry n) :=
  inferInstanceAs (Decidable (_ ∧ _))

/-- The same with the length instead of the end. -/
theorem holds_iff {len : Word} {n : Nat} :
    Holds (k, len) n ↔ k.toNat ≤ n ∧ n < k.toNat + len.toNat := Iff.rfl

/-- Two stretches share an address. -/
def Meet (x y : Address × Word) : Prop := ∃ n, Holds x n ∧ Holds y n

/-- Stretches with bytes share an address exactly when each starts before the other ends. -/
theorem meet_iff {x y : Address × Word} (hx : 0 < x.2.toNat) (hy : 0 < y.2.toNat) :
    Meet x y ↔ x.1.toNat < stopOf y ∧ y.1.toNat < stopOf x := by
  constructor
  · rintro ⟨n, hxn, hyn⟩
    exact ⟨Nat.lt_of_le_of_lt hxn.1 hyn.2, Nat.lt_of_le_of_lt hyn.1 hxn.2⟩
  · rintro ⟨hxy, hyx⟩
    have hxstop : x.1.toNat < stopOf x := Nat.lt_add_of_pos_right hx
    have hystop : y.1.toNat < stopOf y := Nat.lt_add_of_pos_right hy
    -- the later one of the two first addresses
    exact ⟨max x.1.toNat y.1.toNat, ⟨Nat.le_max_left _ _, Nat.max_lt.2 ⟨hxstop, hyx⟩⟩,
      ⟨Nat.le_max_right _ _, Nat.max_lt.2 ⟨hxy, hystop⟩⟩⟩

/-- The lowest entry that a stretch meets. -/
structure FirstMet (m : AddressMap Word) (e x : Address × Word) : Prop where
  /-- It is an entry. -/
  mem : x ∈ m.entries
  /-- The stretch meets it. -/
  meets : Meet x e
  /-- No lower entry is met. -/
  least : ∀ y ∈ m.entries, Meet y e → x.1 ≤ y.1

section FirstMet

variable {m : AddressMap Word} {e x y : Address × Word}

/-- An entry that is met and does not start after the stretch is the floor of its start. -/
theorem Spaced.floor?_of_meet (h : m.Spaced stopOf) (hy : y ∈ m.entries) (hmeet : Meet y e)
    (hle : y.1 ≤ e.1) : m.floor? e.1 = some y := by
  obtain ⟨n, hyn, hen⟩ := hmeet
  exact h.floor?_of_holds hy hle (Nat.lt_of_le_of_lt hen.1 hyn.2)

/-- If the floor of its start is met by a stretch, it is the first entry met. -/
theorem Spaced.firstMet_floor (h : m.Spaced stopOf) (hfloor : m.floor? e.1 = some x)
    (hmeet : Meet x e) : FirstMet m e x := by
  obtain ⟨hx, hxe, -⟩ := floor?_eq_some_iff.1 hfloor
  refine ⟨hx, hmeet, fun y hy hymeet => ?_⟩
  rcases Nat.le_total y.1.toNat e.1.toNat with hle | hle
  · rw [h.floor?_of_meet hy hymeet hle, Option.some.injEq] at hfloor
    exact Nat.le_of_eq (congrArg (fun z => z.1.toNat) hfloor.symm)
  · exact Nat.le_trans hxe hle

/-- If it is not, but the ceiling is, then that is the first entry met. -/
theorem Spaced.firstMet_ceil (h : m.Spaced stopOf)
    (hfloor : ∀ z, m.floor? e.1 = some z → ¬Meet z e) (hceil : m.ceil? e.1 = some x)
    (hmeet : Meet x e) : FirstMet m e x := by
  obtain ⟨hx, -, hmin⟩ := ceil?_eq_some_iff.1 hceil
  refine ⟨hx, hmeet, fun y hy hymeet => ?_⟩
  rcases Nat.le_total y.1.toNat e.1.toNat with hle | hle
  · exact absurd hymeet (hfloor y (h.floor?_of_meet hy hymeet hle))
  · exact hmin y hy hle

/-- There is one first entry at most. -/
theorem FirstMet.unique (hx : FirstMet m e x) (hy : FirstMet m e y) : x = y := by
  apply entry_eq_of_mem hx.mem hy.mem
  rw [← Address.toNat_inj]
  exact Nat.le_antisymm (hx.least y hy.mem hy.meets) (hy.least x hx.mem hx.meets)

end FirstMet

/-- Some entry holds the address. -/
def Covers (m : AddressMap Word) (n : Nat) : Prop := ∃ x ∈ m.entries, Holds x n

/-- After an insertion under a new key, the addresses of the new entry are covered as well. -/
theorem covers_insert {m : AddressMap Word} {len : Word} (h : ∀ v, (k, v) ∉ m.entries)
    {n : Nat} : (m.insert k len).Covers n ↔ Holds (k, len) n ∨ m.Covers n := by
  constructor
  · rintro ⟨x, hx, hn⟩
    rcases mem_insert.1 hx with rfl | ⟨hx, -⟩
    · exact .inl hn
    · exact .inr ⟨x, hx, hn⟩
  · rintro (hn | ⟨x, hx, hn⟩)
    · exact ⟨(k, len), mem_insert.2 (.inl rfl), hn⟩
    · refine ⟨x, mem_insert.2 (.inr ⟨hx, ?_⟩), hn⟩
      rintro rfl
      exact h x.2 hx

/-- After an erasure from a spaced map, exactly the addresses of the erased entry are no longer
covered. -/
theorem covers_erase {m : AddressMap Word} {len : Word} (hm : m.Spaced stopOf)
    (h : (k, len) ∈ m.entries) {n : Nat} :
    (m.erase k).Covers n ↔ m.Covers n ∧ ¬Holds (k, len) n := by
  constructor
  · rintro ⟨x, hx, hn⟩
    obtain ⟨hx, hk⟩ := mem_erase.1 hx
    refine ⟨⟨x, hx, hn⟩, fun hn' => hk ?_⟩
    rw [hm.eq_of_shared hx h hn hn']
  · rintro ⟨⟨x, hx, hn⟩, hout⟩
    refine ⟨x, mem_erase.2 ⟨hx, ?_⟩, hn⟩
    rintro rfl
    exact hout (eq_of_mem hx h ▸ hn)

/-! ### Entries that may be missing -/

/-- The map with a new entry, unless it would have no bytes. -/
def insertPos (m : AddressMap Word) (k : Address) (len : Word) : AddressMap Word :=
  if 0 < len then m.insert k len else m

/-- The map without the entry of an extent, if there is one to leave out. -/
def eraseAt (m : AddressMap Word) (extent : Option Extent) : AddressMap Word :=
  (extent.map fun e => m.erase e.start).getD m

/-- The length of an extent, if there is one. -/
def lenOf (extent : Option Extent) : Nat := (extent.map fun e => e.len.toNat).getD 0

/-- A word is positive as a number. -/
theorem pos_iff {len : Word} : 0 < len ↔ 0 < len.toNat := UInt64.lt_iff_toNat_lt

/-- The entries after such an insertion, under a new key if there is anything to insert. -/
theorem mem_insertPos {m : AddressMap Word} {len : Word}
    (h : 0 < len.toNat → ∀ v, (k, v) ∉ m.entries) {x : Address × Word} :
    x ∈ (m.insertPos k len).entries ↔ (x = (k, len) ∧ 0 < len.toNat) ∨ x ∈ m.entries := by
  unfold insertPos
  split
  · rename_i hpos
    have hnew : x ∈ m.entries → x.1 ≠ k := by
      rintro hx rfl
      exact h (pos_iff.1 hpos) x.2 hx
    rw [mem_insert, and_iff_left (pos_iff.1 hpos), and_iff_left_of_imp hnew]
  · rename_i hpos
    rw [pos_iff] at hpos
    simp [hpos]

/-- Its length, which may be zero, is added. -/
theorem total_insertPos {m : AddressMap Word} {len : Word}
    (h : 0 < len.toNat → ∀ v, (k, v) ∉ m.entries) :
    (m.insertPos k len).total = len.toNat + m.total := by
  unfold insertPos
  split
  · rename_i hpos
    exact total_insert (h (pos_iff.1 hpos))
  · rename_i hpos
    rw [pos_iff] at hpos
    omega

/-- The entries after such an erasure. -/
theorem mem_eraseAt {m : AddressMap Word} {extent : Option Extent} {x : Address × Word} :
    x ∈ (m.eraseAt extent).entries ↔ x ∈ m.entries ∧ ∀ e ∈ extent, x.1 ≠ e.start := by
  cases extent with
  | none => simp [eraseAt]
  | some e => simp [eraseAt, mem_erase]

/-- The length of the extent is taken away. -/
theorem total_eraseAt {m : AddressMap Word} {extent : Option Extent}
    (h : ∀ e ∈ extent, (e.start, e.len) ∈ m.entries) :
    m.total = lenOf extent + (m.eraseAt extent).total := by
  cases extent with
  | none => simp [eraseAt, lenOf]
  | some e => exact total_erase (h e rfl)

/-- Spaced stretches between two addresses have no more bytes than lie between the two. -/
theorem Spaced.total_le {m : AddressMap Word} (h : m.Spaced stopOf) {limit : Nat}
    (hlimit : ∀ x ∈ m.entries, stopOf x ≤ limit) : m.total ≤ limit := by
  have key : ∀ (xs : List (Address × Word)) (low : Nat),
      xs.Pairwise (fun x y => stopOf x ≤ y.1.toNat) → low ≤ limit →
      (∀ x ∈ xs, low ≤ x.1.toNat ∧ stopOf x ≤ limit) →
      low + (xs.map fun x => x.2.toNat).sum ≤ limit := by
    -- the bytes of the entries from `low` on fit between `low` and the limit
    intro xs
    induction xs with
    | nil =>
      intro low _ hlow _
      simpa using hlow
    | cons x xs ih =>
      intro low hpair _ hall
      obtain ⟨hhead, htail⟩ := List.pairwise_cons.1 hpair
      have hx := hall x (by simp)
      have hrest := ih (stopOf x) htail hx.2 fun y hy => ⟨hhead y hy, (hall y (by simp [hy])).2⟩
      simp only [List.map_cons, List.sum_cons]
      unfold stopOf at hrest hx
      omega
  have hpair : m.entries.Pairwise fun x y => stopOf x ≤ y.1.toNat :=
    m.ordered.imp_of_mem fun hx hy hlt => h _ hx _ hy hlt
  have := key m.entries 0 hpair (Nat.zero_le _) fun x hx => ⟨Nat.zero_le _, hlimit x hx⟩
  rwa [Nat.zero_add] at this

end AddressMap

end BusPool
