import BusPool.Fault

/-!
# Operations that may fault

An operation on a state either finishes or stops at a fault. Whatever it changed before the
fault stays changed: an attempt yields the state in both cases, so that "nothing was changed" is
something to be proved of an operation and not a consequence of its type.

The checked operations on words come in the form that attempts need, each with the fault that
stands for the missing result.
-/

namespace BusPool

/-- An operation on a state `σ` that yields an `α` or stops at a fault, and the state it leaves
in either case. -/
abbrev Attempt (σ α : Type) := ExceptT Fault (StateM σ) α

namespace Attempt

variable {σ ρ α : Type}

/-- Run the operation: its outcome and the state it leaves. -/
def outcome (op : Attempt σ α) (s : σ) : Except Fault α × σ := op.run.run s

/-- Carry out an operation on one part of a state. -/
def onPart (view : σ → ρ) (set : ρ → σ → σ) (op : Attempt ρ α) : Attempt σ α :=
  ExceptT.mk fun s =>
    let (result, part) := op.outcome (view s)
    (result, set part s)

end Attempt

/-- Stop at the fault unless the condition holds. -/
def demand (condition : Bool) (fault : Fault) : Except Fault Unit :=
  if condition then .ok () else .error fault

/-- A demand is met exactly when its condition holds. -/
@[simp] theorem demand_eq_ok {c : Bool} {f : Fault} {u : Unit} :
    demand c f = .ok u ↔ c = true := by
  cases c <;> simp [demand]

/-- A demand stops at its own fault, exactly when its condition fails. -/
@[simp] theorem demand_eq_error {c : Bool} {f g : Fault} :
    demand c f = .error g ↔ c = false ∧ f = g := by
  cases c <;> simp [demand]

/-- Stop at the first extent of a list that meets the given one. -/
def demandApart (others : List Extent) (extent : Extent) (fault : Extent → Fault) :
    Except Fault Unit :=
  match others.find? fun other => other.overlaps extent with
  | some other => .error (fault other)
  | none => .ok ()

/-- The demand is met exactly when no extent of the list meets the given one. -/
theorem demandApart_eq_ok_iff {others : List Extent} {extent : Extent} {fault : Extent → Fault} :
    demandApart others extent fault = .ok () ↔
      ∀ other ∈ others, other.overlaps extent = false := by
  unfold demandApart
  cases h : others.find? fun other => other.overlaps extent with
  | none => simpa using h
  | some other =>
    have := List.find?_some h
    have := List.mem_of_find?_eq_some h
    simp only [reduceCtorEq, false_iff]
    intro hall
    simp_all

/-! ## Checked arithmetic -/

namespace Checked

/-- The sum, or the fault that there is none. -/
def add (a b : Word) : Except Fault Word := (Word.add? a b).elim (.error .addOverflow) .ok

/-- The difference, or the fault that there is none. -/
def sub (a b : Word) : Except Fault Word := (Word.sub? a b).elim (.error .subOverflow) .ok

/-- The product, or the fault that there is none. -/
def mul (a b : Word) : Except Fault Word := (Word.mul? a b).elim (.error .mulOverflow) .ok

/-- The quotient rounded up, or the fault that the divisor is zero. -/
def divCeil (a b : Word) : Except Fault Word :=
  if b = 0 then .error .zeroDivisor else .ok (Word.divCeil a b)

/-- A checked sum that finishes is exact. -/
theorem add_eq_ok_iff {a b c : Word} : add a b = .ok c ↔ a.toNat + b.toNat = c.toNat := by
  rw [← Word.add?_eq_some_iff, add]
  cases Word.add? a b <;> simp

/-- A checked difference that finishes is exact. -/
theorem sub_eq_ok_iff {a b c : Word} : sub a b = .ok c ↔ a.toNat = b.toNat + c.toNat := by
  rw [← Word.sub?_eq_some_iff, sub]
  cases Word.sub? a b <;> simp

/-- A checked product that finishes is exact. -/
theorem mul_eq_ok_iff {a b c : Word} : mul a b = .ok c ↔ a.toNat * b.toNat = c.toNat := by
  rw [← Word.mul?_eq_some_iff, mul]
  cases Word.mul? a b <;> simp

end Checked

/-! ## Checked address operations

These are the ones in `Address`, together with the demand that each makes of its arguments. -/

namespace Address

/-- The highest multiple of a power of two at or below the address. -/
def alignDown (a : Address) (align : Word) : Except Fault Address := do
  demand (Word.isPowerOfTwo align) .alignNotPowerOfTwo
  return a.roundDown align

/-- The lowest multiple of a power of two at or above the address, or the highest of all. -/
def alignUp (a : Address) (align : Word) : Except Fault Address := do
  demand (Word.isPowerOfTwo align) .alignNotPowerOfTwo
  return a.roundUp align

/-- Whether the address is a multiple of a power of two. -/
def isAligned (a : Address) (align : Word) : Except Fault Bool := do
  demand (Word.isPowerOfTwo align) .alignNotPowerOfTwo
  return a.isMultipleOf align

/-- The address `n` bytes further on. -/
def add (a : Address) (n : Word) : Except Fault Address := do
  return ⟨← Checked.add a.word n⟩

/-- The distance from one address up to another. -/
def sub (a base : Address) : Except Fault Word := Checked.sub a.word base.word

end Address

end BusPool
