import BusPool.Proofs.Arena.Canonical

/-!
# Exact first fit

A reservation in terms of spans and reserved blocks alone. An address *fits* if a block there is
aligned, lies inside one span, meets no reserved block and crosses no multiple of the boundary
(**`Fits`**). The search never looks at spans or blocks. It goes through the free extents and takes
one address at most from each, yet nothing is passed over:

* What fits lies in one free extent as a whole (**`Layout.fits_iff`**), because the free extents
  are the gaps between the blocks of a span.
* In each free extent the search finds the lowest address that is admitted there, for any alignment
  and any boundary (**`placeIn_eq_some_iff`**).
* Free extents ascend, so that the first place found is the lowest of all
  (**`Layout.isLeast_fits`**).

**`reserve_first_fit`**: after any history a reservation gives the least address that fits, and
none exactly where nothing fits.
-/

namespace BusPool.Arena

open AddressMap Attempt

variable {a a' : Arena} {size align boundary : Word} {x : Address × Word} {spot : Address}
  {n : Nat}

/-! ### What fits -/

/-- A block of this size may be reserved at this address: what a reservation promises, without a
word on free extents. -/
structure Fits (a : Arena) (size align boundary : Word) (n : Nat) : Prop where
  /-- The address is a multiple of the alignment. -/
  aligned : align.toNat ∣ n
  /-- The first and the last byte lie between the same two multiples of the boundary. -/
  uncrossed : boundary ≠ 0 → n / boundary.toNat = (n + size.toNat - 1) / boundary.toNat
  /-- All bytes lie in one span. -/
  inside : ∃ s ∈ a.spans.entries, s.1.toNat ≤ n ∧ n + size.toNat ≤ stopOf s
  /-- No byte belongs to a reserved block. -/
  clear : ∀ i, n ≤ i → i < n + size.toNat → ¬a.reserved.Covers i

/-- What fits is admitted by the parameters of the reservation. -/
theorem Fits.admits (h : a.Fits size align boundary n) :
    (⟨size, align, boundary⟩ : Config).Admits n :=
  ⟨h.aligned, h.uncrossed⟩

/-! ### The search in one free extent -/

/-- Reservations for the blocks of a configuration ask for what they may. -/
theorem reservable {c : Config} (hc : c.Valid) : Reservable c.blockSize c.align c.boundary :=
  ⟨hc.blockSize_pos, hc.align_pow, hc.boundary_pow, hc.blockSize_le⟩

/-- The parameters of a reservation can be those of a pool, unless the alignment exceeds the
boundary. -/
theorem Reservable.valid_or_coarse (hargs : Reservable size align boundary) :
    (⟨size, align, boundary⟩ : Config).Valid ∨ (⟨size, align, boundary⟩ : Config).Coarse := by
  by_cases hle : boundary ≠ 0 → align.toNat ≤ boundary.toNat
  · exact .inl ⟨hargs.pos, hargs.align_pow, hargs.boundary_pow, hargs.size_le, hle⟩
  · obtain ⟨hzero, hlt⟩ := not_forall.1 hle
    exact .inr ⟨hargs.pos, hargs.align_pow, hargs.boundary_pow hzero, hargs.size_le hzero,
      Nat.le_of_not_le hlt⟩

/-- A place in a free extent is the lowest admitted address there, if the block fits. -/
theorem placeIn_eq_some_iff (hargs : Reservable size align boundary)
    (hx : stopOf x < UInt64.size) : placeIn size align boundary x = some spot ↔
      (⟨size, align, boundary⟩ : Config).IsNext x.1.toNat spot.toNat ∧
        spot.toNat + size.toNat ≤ stopOf x := by
  rw [placeIn, ← toNat_limit hx]
  rcases hargs.valid_or_coarse with hc | hc
  · exact Placement.lowest?_eq_some_iff hc
  · exact Placement.lowest?_eq_some_iff_of_coarse hc

/-- Where an admitted block lies in a free extent, the search there ends at or below it. -/
theorem exists_placeIn (hargs : Reservable size align boundary) (hx : stopOf x < UInt64.size)
    (hadmits : (⟨size, align, boundary⟩ : Config).Admits n) (hlow : x.1.toNat ≤ n)
    (hhigh : n + size.toNat ≤ stopOf x) :
    ∃ spot : Address, spot.toNat ≤ n ∧ placeIn size align boundary x = some spot := by
  obtain ⟨m, hnext, hle⟩ := Config.exists_isNext_of_admits hlow hadmits
  have hword : (⟨UInt64.ofNat m⟩ : Address).toNat = m := UInt64.toNat_ofNat_of_lt' (by omega)
  refine ⟨⟨UInt64.ofNat m⟩, by rwa [hword], ?_⟩
  rw [placeIn_eq_some_iff hargs hx, hword]
  exact ⟨hnext, by omega⟩

/-! ### The search through all free extents -/

namespace Layout

/-- **What fits lies in a free extent**, and every admitted block in a free extent fits. -/
theorem fits_iff (h : a.Layout) (hargs : Reservable size align boundary) :
    a.Fits size align boundary n ↔ (⟨size, align, boundary⟩ : Config).Admits n ∧
      ∃ x ∈ a.free.entries, x.1.toNat ≤ n ∧ n + size.toNat ≤ stopOf x := by
  constructor
  · intro hfits
    obtain ⟨s, hs, hlow, hhigh⟩ := hfits.inside
    exact ⟨hfits.admits, h.exists_free_of_clear hs hargs.pos hlow hhigh hfits.clear⟩
  · rintro ⟨hadmits, x, hx, hlow, hhigh⟩
    obtain ⟨s, hs, hgap⟩ := h.free_gap x hx
    refine ⟨hadmits.aligned, hadmits.uncrossed, ⟨s, hs, ?_, ?_⟩, fun i hi hi' => ?_⟩
    · exact Nat.le_trans hgap.start_le hlow
    · exact Nat.le_trans hhigh hgap.stop_le
    · exact hgap.clear i ⟨Nat.le_trans hlow hi, Nat.lt_of_lt_of_le hi' hhigh⟩

/-- Every place that the search finds fits. -/
theorem fits_of_placeIn (h : a.Layout) (hargs : Reservable size align boundary)
    (hx : x ∈ a.free.entries) (hplace : placeIn size align boundary x = some spot) :
    a.Fits size align boundary spot.toNat := by
  obtain ⟨hnext, hhigh⟩ := (placeIn_eq_some_iff hargs (h.free_stop hx)).1 hplace
  exact (h.fits_iff hargs).2 ⟨hnext.admits, x, hx, hnext.le, hhigh⟩

/-- Below everything that fits the search finds a place, in the free extent of the block. -/
theorem exists_placeIn_of_fits (h : a.Layout) (hargs : Reservable size align boundary)
    (hfits : a.Fits size align boundary n) :
    ∃ x ∈ a.free.entries, x.1.toNat ≤ n ∧
      ∃ spot : Address, spot.toNat ≤ n ∧ placeIn size align boundary x = some spot := by
  obtain ⟨hadmits, x, hx, hlow, hhigh⟩ := (h.fits_iff hargs).1 hfits
  exact ⟨x, hx, hlow, exists_placeIn hargs (h.free_stop hx) hadmits hlow hhigh⟩

/-- **The first place is the least address that fits.** What lies in a lower free extent would
have been found there, and what lies in a higher one is higher. -/
theorem isLeast_fits (h : a.Layout) (hargs : Reservable size align boundary)
    (hx : x ∈ a.free.entries) (hplace : placeIn size align boundary x = some spot)
    (hlower : ∀ y ∈ a.free.entries, y.1 < x.1 → placeIn size align boundary y = none) :
    IsLeast {n | a.Fits size align boundary n} spot.toNat := by
  refine ⟨h.fits_of_placeIn hargs hx hplace, fun n hn => ?_⟩
  obtain ⟨-, hhigh⟩ := placeIn_bounds hargs (h.free_stop hx) hplace
  obtain ⟨y, hy, hyn, spot', hle, hplace'⟩ := h.exists_placeIn_of_fits hargs hn
  rcases Nat.lt_trichotomy x.1.toNat y.1.toNat with hlt | heq | hlt
  · have hapart := h.free_apart x hx y hy hlt
    omega
  · have hsame := entry_eq_of_mem hx hy (Address.toNat_inj.1 heq)
    rw [hsame, hplace', Option.some.injEq] at hplace
    rwa [← hplace]
  · rw [hlower y hy hlt] at hplace'
    cases hplace'

end Layout

/-! ### Reservations -/

/-- The answer to a reservation and the arena it leaves, in terms of what fitted before. -/
structure ExactFit (a : Arena) (size align boundary : Word) (answer : Option Address)
    (a' : Arena) : Prop where
  /-- The answer is an address exactly when that is the least that fits. -/
  some_iff : ∀ spot, answer = some spot ↔
    IsLeast {n | a.Fits size align boundary n} spot.toNat
  /-- The answer is that there is no room exactly when nothing fits. -/
  none_iff : answer = none ↔ ∀ n, ¬a.Fits size align boundary n
  /-- The spans are the same. -/
  spans_eq : a'.spans = a.spans
  /-- No block started at the address before. -/
  fresh : ∀ spot ∈ answer, ∀ len, (spot, len) ∉ a.reserved.entries
  /-- The block there is now reserved, besides those that were. -/
  reserved_eq : ∀ spot ∈ answer, a'.reserved = a.reserved.insert spot size
  /-- Without room nothing changes, in any part of the arena. -/
  unchanged : answer = none → a' = a

/-- Where nothing fits, there is no address to give. -/
theorem ExactFit.of_none (hnone : ∀ n, ¬a.Fits size align boundary n) :
    a.ExactFit size align boundary none a where
  some_iff spot := by
    simp only [reduceCtorEq, false_iff]
    intro hleast
    exact hnone _ hleast.1
  none_iff := by simpa using hnone
  spans_eq := rfl
  fresh := by simp
  reserved_eq := by simp
  unchanged _ := rfl

/-- Where something fits, the least is given and reserved. -/
theorem ExactFit.of_some (hleast : IsLeast {n | a.Fits size align boundary n} spot.toNat)
    (hspans : a'.spans = a.spans) (hfresh : ∀ len, (spot, len) ∉ a.reserved.entries)
    (hreserved : a'.reserved = a.reserved.insert spot size) :
    a.ExactFit size align boundary (some spot) a' where
  some_iff other := by
    rw [Option.some.injEq, ← Address.toNat_inj]
    exact ⟨fun heq => heq ▸ hleast, hleast.unique⟩
  none_iff := by
    simp only [reduceCtorEq, false_iff]
    intro hnone
    exact hnone _ hleast.1
  spans_eq := hspans
  fresh := by simpa using hfresh
  reserved_eq := by simpa using hreserved
  unchanged := nofun

namespace Layout

/-- A reservation is exact in every arena that is laid out. -/
theorem outcome_reserve_exact (h : a.Layout) (hargs : Reservable size align boundary) :
    ∃ answer a', (Arena.reserve size align boundary).outcome a = (.ok answer, a') ∧
      a.ExactFit size align boundary answer a' := by
  rcases h.outcome_reserve hargs with
    ⟨hrun, hnone⟩ | ⟨x, hx, spot, a', hrun, hplace, hlower, -, hspans, hreserved⟩
  · refine ⟨none, a, hrun, .of_none fun n hn => ?_⟩
    obtain ⟨x, hx, -, spot, -, hplace⟩ := h.exists_placeIn_of_fits hargs hn
    rw [hnone x hx] at hplace
    cases hplace
  · exact ⟨some spot, a', hrun, .of_some (h.isLeast_fits hargs hx hplace hlower) hspans
      (h.not_mem_of_placeIn hargs hx hplace) hreserved⟩

/-- Where something fits, a reservation gives an address no higher. -/
theorem outcome_reserve_of_fits (h : a.Layout) (hargs : Reservable size align boundary)
    (hfits : a.Fits size align boundary n) :
    ∃ spot a', (Arena.reserve size align boundary).outcome a = (.ok (some spot), a') ∧
      spot.toNat ≤ n := by
  obtain ⟨answer, a', hrun, hexact⟩ := h.outcome_reserve_exact hargs
  cases answer with
  | none => exact absurd hfits (hexact.none_iff.1 rfl n)
  | some spot => exact ⟨spot, a', hrun, ((hexact.some_iff spot).1 rfl).2 hfits⟩

end Layout

/-- **A reservation is exact first fit.** After any history and for all parameters that a
reservation may ask for, it gives the least address that fits, and says that there is no room
exactly when nothing fits. Then nothing changes; otherwise the block is put to those reserved. -/
theorem reserve_first_fit (history : List Op) (hargs : Reservable size align boundary) :
    ∃ answer a', (reserve size align boundary).outcome (after history) = (.ok answer, a') ∧
      (after history).ExactFit size align boundary answer a' :=
  (Layout.after history).outcome_reserve_exact hargs

/-- An alignment of eight times the boundary: in a span of 1024 bytes whose first 48 are taken, the
next block starts half way up, at the only other multiple of 512. -/
theorem reserve_first_fit_coarse :
    let history : List Op := [.addSpan ⟨⟨4096⟩, 1024⟩, .reserve 48 16 64]
    Reservable 48 512 64 ∧ ∃ a',
      (reserve 48 512 64).outcome (after history) = (.ok (some ⟨4608⟩), a') ∧
      IsLeast {n | (after history).Fits 48 512 64 n} 4608 ∧
      a'.reserved = (after history).reserved.insert ⟨4608⟩ 48 := by
  intro history
  have hargs : Reservable 48 512 64 := ⟨by decide, by decide, by decide, by decide⟩
  obtain ⟨answer, a', hrun, hexact⟩ := reserve_first_fit history hargs
  have hanswer : Except.ok answer = .ok (some ⟨4608⟩) := (congrArg Prod.fst hrun).symm.trans rfl
  obtain rfl := Except.ok.inj hanswer
  exact ⟨hargs, a', hrun, (hexact.some_iff ⟨4608⟩).1 rfl, hexact.reserved_eq _ rfl⟩

end BusPool.Arena
