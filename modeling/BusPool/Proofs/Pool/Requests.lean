import BusPool.Proofs.Growth
import BusPool.Proofs.Masks
import BusPool.Proofs.Pool.Runs
import Mathlib.Data.Nat.Find

/-!
# Which pools can ask for a segment

A request has to be a multiple of the granularity and a word, and parameters are accepted without
regard to whether there is such a number. The top of the bus is a multiple of every granularity but
no word, so the greatest request that can be made lies one granularity below it. Where no more than
this is wanted, the request is the least one that is enough; where more is wanted, the allocation
stops at an overflow before the store is asked for a segment (**`growth_request_exact`**).

Parameters of the second kind are accepted like any others (**`accepted_without_request`**).
-/

namespace BusPool

namespace Config

variable {c : Config} {granularity : Word}

/-- The highest multiple of a granularity on the bus lies one granularity below the top. -/
private theorem dvd_size_sub (hpow : Word.isPowerOfTwo granularity = true) :
    granularity.toNat ∣ UInt64.size - granularity.toNat :=
  Nat.dvd_sub (Word.dvd_size hpow) (Nat.dvd_refl _)

/-- **There is a request exactly when there is room for what is wanted** below the highest multiple
of the granularity. -/
theorem exists_growthRequest_iff (hpow : Word.isPowerOfTwo granularity = true) :
    (∃ n, c.growthRequest granularity = .ok n) ↔
      c.wanted granularity ≤ UInt64.size - granularity.toNat := by
  have hpos := Word.pos_of_isPowerOfTwo hpow
  simp only [growthRequest_eq_ok_iff]
  constructor
  · rintro ⟨n, -, ⟨hdvd, hwanted⟩, -⟩
    have hlt := Word.toNat_lt n
    have hgap := Nat.le_of_dvd (Nat.sub_pos_of_lt hlt) (Nat.dvd_sub (Word.dvd_size hpow) hdvd)
    omega
  · intro hle
    have hmultiple : ∃ k, granularity.toNat ∣ k ∧ c.wanted granularity ≤ k :=
      ⟨_, dvd_size_sub hpow, hle⟩
    have hleast : Nat.find hmultiple ≤ UInt64.size - granularity.toNat :=
      Nat.find_min' hmultiple ⟨dvd_size_sub hpow, hle⟩
    have hlt : Nat.find hmultiple < UInt64.size :=
      Nat.lt_of_le_of_lt hleast (Nat.sub_lt (by decide) hpos)
    obtain ⟨n, hn⟩ := Checked.exists_sum hlt
    refine ⟨n, hpos, hn ▸ Nat.find_spec hmultiple, ?_⟩
    intro k hk
    rw [← hn]
    exact Nat.find_min' hmultiple hk

/-- Where there is no request, either a sum on the way is no word or the product is none. -/
theorem growthRequest_eq_error (hpow : Word.isPowerOfTwo granularity = true)
    (hmore : UInt64.size - granularity.toNat < c.wanted granularity) :
    c.growthRequest granularity =
      .error (if UInt64.size ≤ c.wanted granularity then .addOverflow else .mulOverflow) := by
  have hnone : ∀ n, c.growthRequest granularity ≠ .ok n := by
    intro n hn
    exact absurd ((exists_growthRequest_iff hpow).1 ⟨n, hn⟩) (Nat.not_le.2 hmore)
  rw [growthRequest_eq] at hnone ⊢
  split
  · rename_i hge
    rw [Checked.sum_eq_error hge]
    rfl
  · rename_i hlt
    obtain ⟨want, hwant⟩ := Checked.exists_sum (Nat.not_le.1 hlt)
    have hne : granularity ≠ 0 := by
      rintro rfl
      cases hpow
    have hcount : Checked.divCeil want granularity = .ok (Word.divCeil want granularity) :=
      if_neg hne
    rw [Checked.sum_eq_ok_iff.2 hwant] at hnone ⊢
    change ∀ n, (Checked.divCeil want granularity >>= _) ≠ .ok n at hnone
    show (Checked.divCeil want granularity >>= _) = _
    rw [hcount] at hnone ⊢
    exact (Checked.mul_cases _ _).resolve_left fun ⟨n, hn⟩ => hnone n hn

end Config

namespace Pool

variable {τ : Type} {c : Config} {granularity : Word}

namespace Machine

variable {m : Machine τ} {id : Nat}

/-- A call that is told the granularity asks for a segment, or stops. -/
theorem step_granularity {flags : AllocFlags} (hstage : m.stage? id = some (.sizing flags))
    (granularity : Word) : (m.step (.granularity id granularity)).2 =
      some ⟨id, [], match m.config.growthRequest granularity with
        | .ok minSize => .goOn (.importing flags minSize)
        | .error f => .returned (.fault f)⟩ := by
  unfold step
  simp only [hstage, Option.bind_some, Stage.sized?]
  cases m.config.growthRequest granularity <;> rfl

end Machine

/-- **Exactly which requests can be made.** An allocation that found no room and is told the
granularity asks for the least multiple of it that is wanted, if that is a word, and stops at an
overflow otherwise. Accepted parameters are no guarantee of the former. -/
theorem growth_request_exact {name : String} {m : Machine τ}
    (created : Machine.create name c = .ok m)
    (hpow : Word.isPowerOfTwo granularity = true) (events : List (Event τ)) :
    ((∃ n, c.growthRequest granularity = .ok n) ↔
      c.wanted granularity ≤ UInt64.size - granularity.toNat) ∧
    (∀ n, c.growthRequest granularity = .ok n →
      IsLeast {k | granularity.toNat ∣ k ∧ c.wanted granularity ≤ k} n.toNat) ∧
    ∀ id flags, (m.run events).1.stage? id = some (.sizing flags) →
      ∃ r, ((m.run events).1.step (.granularity id granularity)).2 = some r ∧ r.call = id ∧
        (∀ n, c.growthRequest granularity = .ok n → r.next = .goOn (.importing flags n)) ∧
        (UInt64.size - granularity.toNat < c.wanted granularity → r.next = .returned (.fault
          (if UInt64.size ≤ c.wanted granularity then .addOverflow else .mulOverflow))) := by
  refine ⟨Config.exists_growthRequest_iff hpow, ?_, ?_⟩
  · intro n hn
    exact (Config.growthRequest_eq_ok_iff.1 hn).2
  · intro id flags hstage
    obtain ⟨-, hconfig⟩ := Machine.reachable_sound created events
    have hstep := Machine.step_granularity hstage granularity
    rw [hconfig] at hstep
    refine ⟨_, hstep, rfl, ?_, ?_⟩
    · intro n hn
      rw [hn]
    · intro hmore
      rw [Config.growthRequest_eq_error hpow hmore]

/-- A pool of blocks that are a byte short of the whole bus. -/
def vastPool : Machine Unit := ⟨"pool", ⟨18446744073709551615, 1, 0⟩, .empty, .empty, 0, []⟩

/-- Its parameters are accepted. -/
theorem vastPool_created : Machine.create "pool" ⟨18446744073709551615, 1, 0⟩ = .ok vastPool := rfl

/-- An allocation on it, which finds no room. -/
def vastRun : List (Event Unit) := [.call (.allocate AllocFlags.zero), .advance 0]

/-- The allocation stops at an overflow when it is told a granularity of 4096 bytes. -/
theorem vast_request_stops :
    Machine.create "pool" ⟨18446744073709551615, 1, 0⟩ = .ok vastPool ∧
      Word.isPowerOfTwo 4096 = true ∧
      (vastPool.run vastRun).1.stage? 0 = some (.sizing AllocFlags.zero) ∧
      ∃ r, ((vastPool.run vastRun).1.step (.granularity 0 4096)).2 = some r ∧
        r.next = .returned (.fault .mulOverflow) := by
  have hpow : Word.isPowerOfTwo 4096 = true := rfl
  have hstage : (vastPool.run vastRun).1.stage? 0 = some (.sizing AllocFlags.zero) := rfl
  obtain ⟨-, -, hexact⟩ := growth_request_exact vastPool_created hpow vastRun
  obtain ⟨r, hr, -, -, hstops⟩ := hexact 0 _ hstage
  exact ⟨vastPool_created, hpow, hstage, r, hr, hstops (by decide)⟩

/-- Accepted parameters need not lead to a request: the least multiple of 4096 that holds a block
of this size is the top of the bus, which is no word. -/
theorem accepted_without_request :
    Config.validate ⟨18446744073709551615, 1, 0⟩ = .ok () ∧ Word.isPowerOfTwo 4096 = true ∧
      IsLeast {k | (4096 : Word).toNat ∣ k ∧
        Config.wanted ⟨18446744073709551615, 1, 0⟩ 4096 ≤ k} UInt64.size ∧
      Config.growthRequest ⟨18446744073709551615, 1, 0⟩ 4096 = .error .mulOverflow := by
  refine ⟨rfl, rfl, ⟨⟨by decide, by decide⟩, ?_⟩, rfl⟩
  rintro k ⟨hdvd, hwanted⟩
  have hwant : Config.wanted ⟨18446744073709551615, 1, 0⟩ 4096 = 18446744073709551615 := rfl
  have hfour : (4096 : Word).toNat = 4096 := rfl
  rw [hfour] at hdvd
  rw [hwant] at hwanted
  rw [Word.size_eq]
  omega

end Pool

end BusPool
