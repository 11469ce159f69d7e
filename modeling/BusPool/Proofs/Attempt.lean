import BusPool.Attempt

/-!
# Running an attempt

What the pieces of an attempt do to its state. A chain of pieces goes on from the state that a
piece leaves (**`Attempt.outcome_bind_ok`**) and ends with the first piece that stops at a fault
(**`Attempt.outcome_bind_error`**), in the state that this piece leaves.

Checked sums and differences finish where their exact result is a word (**`Checked.exists_add`**,
**`Checked.exists_sub`**).
-/

namespace BusPool

namespace Attempt

variable {σ ρ α β : Type} {s t : σ} {op : Attempt σ α} {a : α} {f : Fault}

/-- Yielding a value leaves the state alone. -/
@[simp] theorem outcome_pure : (pure a : Attempt σ α).outcome s = (.ok a, s) := rfl

/-- Reading the state leaves it alone. -/
@[simp] theorem outcome_get : (get : Attempt σ σ).outcome s = (.ok s, s) := rfl

/-- A change of the state. -/
@[simp] theorem outcome_modify (change : σ → σ) :
    (modify change : Attempt σ PUnit).outcome s = (.ok ⟨⟩, change s) := rfl

/-- Stopping at a fault leaves the state alone. -/
@[simp] theorem outcome_throw : (throw f : Attempt σ α).outcome s = (.error f, s) := rfl

/-- A piece that does not know the state leaves it alone. -/
@[simp] theorem outcome_lift (result : Except Fault α) :
    (liftM result : Attempt σ α).outcome s = (result, s) := rfl

/-- A chain goes on from the state that its first piece leaves. -/
theorem outcome_bind_ok {next : α → Attempt σ β} (h : op.outcome s = (.ok a, t)) :
    (op >>= next).outcome s = (next a).outcome t := by
  have hrun : op s = (.ok a, t) := h
  show (fun r : Except Fault α × σ => ExceptT.bindCont next r.1 r.2) (op s) = _
  rw [hrun]
  rfl

/-- A chain ends where a piece of it stops. -/
theorem outcome_bind_error {next : α → Attempt σ β} (h : op.outcome s = (.error f, t)) :
    (op >>= next).outcome s = (.error f, t) := by
  have hrun : op s = (.error f, t) := h
  show (fun r : Except Fault α × σ => ExceptT.bindCont next r.1 r.2) (op s) = _
  rw [hrun]
  rfl

/-- A chain that begins with reading the state. -/
@[simp] theorem outcome_get_bind {next : σ → Attempt σ β} :
    ((get : Attempt σ σ) >>= next).outcome s = (next s).outcome s :=
  outcome_bind_ok outcome_get

/-- A chain that begins with a change of the state. -/
@[simp] theorem outcome_modify_bind {change : σ → σ} {next : PUnit → Attempt σ β} :
    ((modify change : Attempt σ PUnit) >>= next).outcome s = (next ⟨⟩).outcome (change s) :=
  outcome_bind_ok (outcome_modify change)

/-- A chain that begins with a result. -/
@[simp] theorem outcome_ok_bind {next : α → Attempt σ β} :
    ((liftM (Except.ok a : Except Fault α) : Attempt σ α) >>= next).outcome s =
      (next a).outcome s :=
  outcome_bind_ok (outcome_lift _)

/-- A chain that begins with a fault. -/
@[simp] theorem outcome_error_bind {next : α → Attempt σ β} :
    ((liftM (Except.error f : Except Fault α) : Attempt σ α) >>= next).outcome s =
      (.error f, s) :=
  outcome_bind_error (outcome_lift _)

/-- An operation on a part changes that part and nothing else. -/
theorem outcome_onPart {view : σ → ρ} {set : ρ → σ → σ} {op : Attempt ρ α} {r : ρ}
    {result : Except Fault α} (h : op.outcome (view s) = (result, r)) :
    (op.onPart view set).outcome s = (result, set r s) := by
  show (fun r : Except Fault α × ρ => (r.1, set r.2 s)) (op.outcome (view s)) = _
  rw [h]

end Attempt

/-- A chain that knows no state finishes when its parts do. -/
theorem bind_eq_ok_iff {ε α β : Type} {result : Except ε α} {next : α → Except ε β} {b : β} :
    result >>= next = .ok b ↔ ∃ a, result = .ok a ∧ next a = .ok b := by
  cases result with
  | ok a => simp [bind, Except.bind]
  | error f => simp [bind, Except.bind]

/-- A demand for a positive word is met by one. -/
theorem demand_pos {w : Word} (h : 0 < w.toNat) (f : Fault) : demand (0 < w) f = .ok () := by
  simpa [UInt64.lt_iff_toNat_lt] using h

/-- It stops at zero. -/
theorem demand_zero {w : Word} (h : w.toNat = 0) (f : Fault) : demand (0 < w) f = .error f := by
  simp [UInt64.lt_iff_toNat_lt, h]

/-- A demand to be apart stops at the first extent if that is met. -/
theorem demandApart_cons_of_overlaps {first extent : Extent} {others : List Extent}
    {fault : Extent → Fault} (h : first.overlaps extent = true) :
    demandApart (first :: others) extent fault = .error (fault first) := by
  simp [demandApart, h]

/-- It passes over an extent that is not met. -/
theorem demandApart_cons_of_apart {first extent : Extent} {others : List Extent}
    {fault : Extent → Fault} (h : first.overlaps extent = false) :
    demandApart (first :: others) extent fault = demandApart others extent fault := by
  simp [demandApart, h]

/-- A demand to be apart stops at the fault of an extent that is met. -/
theorem exists_of_demandApart_eq_error {others : List Extent} {extent : Extent}
    {fault : Extent → Fault} {f : Fault} (h : demandApart others extent fault = .error f) :
    ∃ other ∈ others, other.overlaps extent = true ∧ f = fault other := by
  unfold demandApart at h
  cases hfind : others.find? fun other => other.overlaps extent with
  | none =>
    rw [hfind] at h
    cases h
  | some other =>
    rw [hfind] at h
    cases h
    exact ⟨other, List.mem_of_find?_eq_some hfind, by simpa using List.find?_some hfind, rfl⟩

namespace Checked

variable {a b : Word}

/-- A sum that is a word is computed. -/
theorem exists_add (h : a.toNat + b.toNat < UInt64.size) :
    ∃ c, add a b = .ok c ∧ a.toNat + b.toNat = c.toNat := by
  have hsum : Word.add? a b = some (a + b) := if_pos h
  refine ⟨a + b, ?_, Word.add?_eq_some_iff.1 hsum⟩
  rw [add, hsum]
  rfl

/-- A difference that is a word is computed. -/
theorem exists_sub (h : b.toNat ≤ a.toNat) :
    ∃ c, sub a b = .ok c ∧ a.toNat = b.toNat + c.toNat := by
  have hdiff : Word.sub? a b = some (a - b) := if_pos h
  refine ⟨a - b, ?_, Word.sub?_eq_some_iff.1 hdiff⟩
  rw [sub, hdiff]
  rfl

end Checked

end BusPool
