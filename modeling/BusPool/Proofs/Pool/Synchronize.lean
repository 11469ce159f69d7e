import BusPool.Proofs.Pool.Runs

/-!
# Which handles can be synchronised

A synchronisation is forwarded to the store whenever the operations are of one phase, the handle
lies in a segment and a whole block from there on does, too; in every other case it stops at a
fault. Either way the state of the pool stays as it is (**`synchronize_rejects_iff`**).

Whether the handle was ever given out plays no part in this. A handle that was not is rejected
outside of all segments and at the very end of one, and is forwarded anywhere else
(**`unissued_handle_forwarded`**).
-/

namespace BusPool.Pool

open SegmentIndex

variable {τ : Type} {c : Config} {s : State τ}

/-- The handles that calls have returned with, in order. -/
def issued (reports : List (Report τ)) : List Address :=
  reports.filterMap fun r =>
    match r.next with
    | .returned (.block b) => some b.handle
    | _ => none

/-- A whole block from the handle on lies in a segment that contains the handle. -/
def State.HasRoomAt (c : Config) (s : State τ) (handle : Address) : Prop :=
  ∃ e ∈ s.index.extents, e.contains handle = true ∧
    handle.toNat + c.blockSize.toNat ≤ e.start.toNat + e.len.toNat

/-- A lookup finds a segment exactly when there is room for a block. -/
theorem State.Sound.exists_locate_iff (h : s.Sound c) (name : String) (handle : Address)
    (ops : SyncOps) : (∃ stage, Stage.locate name c s handle ops = .ok stage) ↔
      ops.hasBothPhases = false ∧ s.HasRoomAt c handle := by
  simp only [Stage.locate_eq_ok_iff, h.placed.segmentAt?_eq_some_iff]
  constructor
  · rintro ⟨stage, hphases, segment, ⟨x, hx, rfl, hlow, hhigh⟩, offset, hoffset, hfits, -⟩
    refine ⟨hphases, x.2.extent, mem_extents.2 ⟨x, hx, rfl⟩, ?_, by omega⟩
    exact (h.placed.contains_iff hx).2 ⟨hlow, hhigh⟩
  · rintro ⟨hphases, e, he, hin, hfits⟩
    obtain ⟨x, hx, rfl⟩ := mem_extents.1 he
    obtain ⟨hlow, hhigh⟩ := (h.placed.contains_iff hx).1 hin
    obtain ⟨offset, -, hoffset⟩ := Checked.exists_sub (a := handle.word) (b := x.1.word) hlow
    have hstart := h.placed.start_eq x hx
    rw [hstart] at hfits
    refine ⟨_, hphases, x.2, ⟨x, hx, rfl, hlow, hhigh⟩, offset, ?_, ?_, rfl⟩
    · rw [hstart]
      exact hoffset
    · have : handle.toNat = x.1.toNat + offset.toNat := hoffset
      omega

/-- **Which synchronisations are rejected.** In every reachable state, a synchronisation that looks
up its segment leaves the state alone. It stops at a fault if the operations are of both phases or
there is no room for a block at the handle, and turns to the store otherwise. -/
theorem synchronize_rejects_iff {name : String} {m : Machine τ}
    (created : Machine.create name c = .ok m) (events : List (Event τ)) :
    let reached := (m.run events).1
    ∀ id handle ops, reached.stage? id = some (.resolving handle ops) →
      ∃ r, (reached.step (.advance id)).2 = some r ∧
        (reached.step (.advance id)).1.state = reached.state ∧
        ((∃ f, r.next = .returned (.fault f)) ↔
          ops.hasBothPhases = true ∨ ¬reached.state.HasRoomAt c handle) ∧
        ((∃ token offset, r.next = .goOn (.syncing token offset c.blockSize ops)) ↔
          ops.hasBothPhases = false ∧ reached.state.HasRoomAt c handle) := by
  intro reached id handle ops hstage
  obtain ⟨hsound, hconfig⟩ := Machine.reachable_sound created events
  have hstate := hsound.tracks.sound
  rw [hconfig] at hstate
  have hturn :
      (Stage.resolving handle ops).advance? reached.name reached.config reached.state
        reached.memory =
      some (Stage.resolve reached.name c reached.state reached.memory handle ops) :=
    hconfig ▸ rfl
  rw [Machine.step_advance_state hstage hturn, Machine.step_advance hstage hturn]
  have hexact := hstate.exists_locate_iff reached.name handle ops
  unfold Stage.resolve
  cases hlocate : Stage.locate reached.name c reached.state handle ops with
  | ok stage =>
    obtain ⟨hphases, hroom⟩ := hexact.1 ⟨stage, hlocate⟩
    obtain ⟨-, segment, -, offset, -, -, rfl⟩ := Stage.locate_eq_ok_iff.1 hlocate
    refine ⟨_, rfl, rfl, ⟨?_, ?_⟩, ⟨fun _ => ⟨hphases, hroom⟩, fun _ => ⟨_, _, rfl⟩⟩⟩
    · rintro ⟨f, hf⟩
      cases hf
    · rintro (hboth | hnone)
      · rw [hphases] at hboth
        cases hboth
      · exact absurd hroom hnone
  | error f =>
    have hnot : ¬(ops.hasBothPhases = false ∧ reached.state.HasRoomAt c handle) := by
      rw [← hexact]
      rintro ⟨stage, hok⟩
      rw [hlocate] at hok
      cases hok
    refine ⟨_, rfl, rfl, ⟨fun _ => ?_, fun _ => ⟨f, rfl⟩⟩, ⟨?_, fun h => absurd h hnot⟩⟩
    · rw [← Bool.not_eq_false, ← not_and_or]
      exact hnot
    · rintro ⟨token, offset, hok⟩
      cases hok

/-- A first allocation that has returned with its block, and a synchronisation. -/
def synchronizeRun (handle : Address) : List (Event Unit) :=
  [.call (.allocate AllocFlags.zero), .advance 0, .granularity 0 4096, .reply 0 (.ok sampleGrant),
    .advance 0, .advance 0, .call (.synchronize handle SyncOps.pre)]

/-- A handle outside of the only segment is rejected. -/
theorem synchronize_rejects_outside :
    let reached := (samplePool.run (synchronizeRun ⟨4096⟩)).1
    Machine.create "pool" ⟨96, 32, 256⟩ = .ok samplePool ∧
      reached.stage? 1 = some (.resolving ⟨4096⟩ SyncOps.pre) ∧
      ∃ r, (reached.step (.advance 1)).2 = some r ∧ ∃ f, r.next = .returned (.fault f) := by
  intro reached
  have hstage : reached.stage? 1 = some (.resolving ⟨4096⟩ SyncOps.pre) := rfl
  obtain ⟨r, hr, -, hrejects, -⟩ :=
    synchronize_rejects_iff samplePool_created (synchronizeRun ⟨4096⟩) 1 _ _ hstage
  refine ⟨samplePool_created, hstage, r, hr, hrejects.2 (.inr ?_)⟩
  rintro ⟨e, he, hin, -⟩
  have hextents : reached.state.index.extents = [⟨⟨65536⟩, 4096⟩] := by decide +kernel
  rw [hextents, List.mem_singleton] at he
  rw [he] at hin
  revert hin
  decide

/-- A handle in the segment is forwarded to the store, although no call has returned with it. -/
theorem unissued_handle_forwarded :
    let reached := (samplePool.run (synchronizeRun ⟨65632⟩)).1
    Machine.create "pool" ⟨96, 32, 256⟩ = .ok samplePool ∧
      issued (samplePool.run (synchronizeRun ⟨65632⟩)).2 = [⟨65536⟩] ∧
      reached.stage? 1 = some (.resolving ⟨65632⟩ SyncOps.pre) ∧
      ∃ r, (reached.step (.advance 1)).2 = some r ∧
        r.next = .goOn (.syncing () 96 96 SyncOps.pre) :=
  ⟨samplePool_created, by decide +kernel, rfl, _, rfl, rfl⟩

end BusPool.Pool
