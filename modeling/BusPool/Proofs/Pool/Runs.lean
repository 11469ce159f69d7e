import BusPool.Proofs.Growth
import BusPool.Proofs.Pool.Moves
import BusPool.Proofs.Pool.Pieces

/-!
# Runs of a pool

Whatever calls are made, in whatever order their pieces take place and whatever the store answers,
the blocks that are out are the reserved blocks of a sound state (**`Machine.Sound`**). The only
thing that stages add to this is that a segment is never asked for without bytes: the request
holds a block, and a grant shorter than the request is turned away. One event keeps all of it
(**`Machine.Sound.step`**), and so do all events of a run (**`Machine.Sound.run`**).
-/

namespace BusPool.Pool

variable {τ : Type}

/-- What holds of a stage between pieces: segments that are asked for or granted have bytes. -/
def Stage.Ready : Stage τ → Prop
  | importing _ minSize => 0 < minSize.toNat
  | adopting _ grant => 0 < grant.len.toNat
  | _ => True

/-- The same for what follows a piece. -/
def Next.Ready : Next τ → Prop
  | goOn stage => stage.Ready
  | returned _ => True

/-- A machine in which the blocks that are out are those in `live`. -/
structure Machine.Sound (m : Machine τ) (live : List Block) : Prop where
  /-- The parameters were accepted. -/
  valid : m.config.Valid
  /-- The state keeps account of the blocks that are out. -/
  tracks : m.state.Tracks m.config live
  /-- Calls in progress ask for segments with bytes. -/
  ready : ∀ call ∈ m.calls, call.2.Ready

/-- A call starts without anything asked for. -/
theorem Request.start_ready (request : Request) : (request.start : Stage τ).Ready := by
  cases request <;> exact trivial

namespace Stage

variable {c : Config} {s : State τ} {m : Memory} {live : List Block} {name : String}

/-- **Every piece of a call keeps track of the blocks.** -/
theorem advance?_tracks (h : s.Tracks c live) (hc : c.Valid) {stage : Stage τ} {turn : Turn τ}
    (hready : stage.Ready) (hturn : stage.advance? name c s m = some turn) (id : Nat) :
    turn.state.Tracks c ((⟨id, turn.records, turn.next⟩ : Report τ).after live) ∧
      turn.next.Ready := by
  cases stage with
  | reserving flags =>
    cases hturn
    rcases h.reserve hc m flags with
      ⟨hrun, -⟩ | ⟨b, s', hrun, -, htracks, -, -⟩
    · rw [hrun, Report.after_eq_self (by simp) (by simp)]
      exact ⟨h, trivial⟩
    · rw [hrun, Report.after_of_not_freed (by simp)]
      exact ⟨htracks, trivial⟩
  | adopting flags g =>
    cases hturn
    rcases h.adopt hc m flags hready with
      ⟨f, hrun, -⟩ | ⟨-, -, hrun, htracks⟩ |
      ⟨-, -, t, ht, -, -, ⟨hrun, -⟩ | ⟨b, s', hrun, -, htracks, -, -⟩⟩
    · rw [hrun, Report.after_eq_self (by simp) (by simp)]
      exact ⟨h, trivial⟩
    · rw [hrun, Report.after_eq_self (by simp) (by simp)]
      exact ⟨htracks, trivial⟩
    · rw [hrun, Report.after_eq_self (by simp) (by simp)]
      exact ⟨ht, trivial⟩
    · rw [hrun, Report.after_of_not_freed (by simp)]
      exact ⟨htracks, trivial⟩
  | delivering flags block =>
    cases hturn
    rw [Report.after_eq_self (by simp [deliver]) (by simp [deliver])]
    exact ⟨h, trivial⟩
  | freeing handle =>
    cases hturn
    by_cases hout : ∃ b ∈ live, b.handle = handle
    · obtain ⟨s', hrun, htracks, -, -⟩ := h.free hc m name hout
      rw [hrun, Report.after_freed]
      exact ⟨htracks, trivial⟩
    · obtain ⟨f, hrun⟩ := h.free_fault m name hout
      rw [hrun, Report.after_eq_self (by simp) (by simp)]
      exact ⟨h, trivial⟩
  | resolving handle ops =>
    cases hturn
    unfold resolve
    cases hlocate : locate name c s handle ops with
    | ok stage =>
      obtain ⟨-, segment, -, offset, -, -, rfl⟩ := locate_eq_ok_iff.1 hlocate
      rw [Report.after_eq_self (by simp) (by simp)]
      exact ⟨h, trivial⟩
    | error f =>
      rw [Report.after_eq_self (by simp) (by simp)]
      exact ⟨h, trivial⟩
  | sizing => cases hturn
  | importing => cases hturn
  | syncing => cases hturn

/-- Asking for a segment asks for bytes. -/
theorem sized?_ready (hc : c.Valid) {stage : Stage τ} {granularity : Word} {next : Next τ}
    (h : stage.sized? c granularity = some next) :
    next.Ready ∧ ∀ flags b, next ≠ .goOn (.delivering flags b) := by
  obtain ⟨flags, -, ⟨minSize, hgrowth, rfl⟩ | ⟨f, -, rfl⟩⟩ := sized?_cases h
  · exact ⟨hc.growthRequest_pos hgrowth, by simp⟩
  · exact ⟨trivial, by simp⟩

/-- A grant that is about to be adopted has bytes. -/
theorem replied?_ready {stage : Stage τ} (hready : stage.Ready)
    {answer : Except StoreError (Grant τ)} {records : List Record} {next : Next τ}
    (h : stage.replied? answer = some (records, next)) :
    next.Ready ∧ (∀ flags b, next ≠ .goOn (.delivering flags b)) ∧
      ∀ handle, Record.freed handle ∉ records := by
  obtain ⟨flags, minSize, rfl, hcases⟩ := replied?_cases h
  rcases hcases with ⟨g, -, hlen, rfl, rfl⟩ | ⟨g, -, -, rfl, rfl⟩ | ⟨cause, -, rfl, rfl⟩
  · have hpos : 0 < minSize.toNat := hready
    exact ⟨Nat.lt_of_lt_of_le hpos (UInt64.le_iff_toNat_le.1 hlen), by simp, by simp⟩
  · exact ⟨trivial, by simp, by simp⟩
  · exact ⟨trivial, by simp, by simp⟩

end Stage

namespace Machine

variable {m : Machine τ} {live : List Block} {id : Nat}

/-- **Every move of a call keeps track of the blocks.** -/
theorem Moves.tracks {stage : Stage τ} {turn : Turn τ} (hmove : m.Moves stage turn)
    (h : m.Sound live) (hready : stage.Ready) (id : Nat) :
    turn.state.Tracks m.config ((⟨id, turn.records, turn.next⟩ : Report τ).after live) ∧
      turn.next.Ready := by
  cases hmove with
  | piece hturn => exact Stage.advance?_tracks h.tracks h.valid hready hturn id
  | sized hnext =>
    obtain ⟨hnext, hquiet⟩ := Stage.sized?_ready h.valid hnext
    rw [Report.after_eq_self hquiet (by simp)]
    exact ⟨h.tracks, hnext⟩
  | replied hnext =>
    obtain ⟨hnext, hquiet, hrecords⟩ := Stage.replied?_ready hready hnext
    rw [Report.after_eq_self hquiet hrecords]
    exact ⟨h.tracks, hnext⟩
  | acknowledged hnext =>
    rw [Stage.acknowledged?_eq hnext, Report.after_eq_self (by simp) (by simp)]
    exact ⟨h.tracks, trivial⟩

namespace Sound

/-- What a call does without touching the state keeps the machine sound. -/
theorem follow (h : m.Sound live) {next : Next τ} (hnext : next.Ready) :
    (m.follow id next).Sound live := by
  refine ⟨?_, ?_, fun call hcall => ?_⟩
  · rw [follow_config]
    exact h.valid
  · rw [follow_config, follow_state]
    exact h.tracks
  · rcases mem_follow_calls hcall with ⟨-, rfl⟩ | hcall
    · exact hnext
    · exact h.ready call hcall

/-- **One event keeps a machine sound**, with the blocks that are out after what it reports. -/
theorem step (h : m.Sound live) (e : Event τ) :
    (m.step e).1.Sound ((m.step e).2.toList.foldl (fun live r => r.after live) live) := by
  rcases m.step_cases e with ⟨memory, heq⟩ | ⟨request, -, heq⟩ |
    ⟨id, stage, turn, hstage, hmove, heq⟩
  · rw [heq]
    exact ⟨h.valid, h.tracks, h.ready⟩
  · have hnext : (Next.goOn request.start : Next τ).Ready := request.start_ready
    rw [heq]
    show Sound _ (Report.after ⟨m.begun, [], .goOn request.start⟩ live)
    rw [Report.after_eq_self (by cases request <;> simp [Request.start]) (by simp)]
    exact ⟨h.valid, h.tracks, (h.follow hnext).ready⟩
  · obtain ⟨htracks, hnext⟩ := hmove.tracks h (h.ready _ (mem_of_stage? hstage)) id
    have hmoved : Sound { m with state := turn.state, memory := turn.memory }
        ((⟨id, turn.records, turn.next⟩ : Report τ).after live) := ⟨h.valid, htracks, h.ready⟩
    rw [heq]
    exact hmoved.follow hnext

/-- **All events of a run keep a machine sound.** -/
theorem run (h : m.Sound live) (events : List (Event τ)) :
    (m.run events).1.Sound ((m.run events).2.foldl (fun live r => r.after live) live) := by
  induction events generalizing m live with
  | nil => exact h
  | cons e rest ih =>
    show ((m.step e).1.run rest).1.Sound
      (((m.step e).2.toList ++ ((m.step e).1.run rest).2).foldl (fun live r => r.after live) live)
    rw [List.foldl_append]
    exact ih (h.step e)

end Sound

/-- A new pool is sound, and nothing is out. -/
theorem create_sound {name : String} {c : Config} (created : create name c = .ok m) :
    m.Sound [] ∧ m.config = c := by
  unfold create at created
  obtain ⟨_, hvalid, hm⟩ := bind_eq_ok_iff.1 created
  cases hm
  refine ⟨⟨Config.validate_eq_ok_iff.1 hvalid, State.Tracks.empty c, ?_⟩, rfl⟩
  intro call hcall
  cases hcall

/-- **Every reachable state is sound.** -/
theorem reachable_sound {name : String} {c : Config} (created : create name c = .ok m)
    (events : List (Event τ)) :
    (m.run events).1.Sound (liveBlocks (m.run events).2) ∧ (m.run events).1.config = c := by
  obtain ⟨hsound, hconfig⟩ := create_sound created
  exact ⟨hsound.run events, (run_config m events).trans hconfig⟩

end Machine

/-! ### A small run -/

/-- A new pool of blocks with 96 bytes that cross no multiple of 256. -/
def samplePool : Machine Unit := ⟨"pool", ⟨96, 32, 256⟩, .empty, .empty, 0, []⟩

/-- Its parameters are accepted. -/
theorem samplePool_created : Machine.create "pool" ⟨96, 32, 256⟩ = .ok samplePool := rfl

/-- A segment of 4096 bytes. -/
def sampleGrant : Grant Unit := ⟨⟨65536⟩, 4096, ⟨0, 0⟩, ()⟩

/-- Three allocations. A segment is imported for the first one, and the third is about to try for a
block when the second block is taken back. -/
def sampleRun : List (Event Unit) :=
  [.call (.allocate AllocFlags.zero), .advance 0, .granularity 0 4096, .reply 0 (.ok sampleGrant),
    .advance 0, .call (.allocate AllocFlags.zero), .advance 1,
    .call (.allocate AllocFlags.zero), .call (.free ⟨65632⟩)]

end BusPool.Pool
