import BusPool.Proofs.Arena.Histories
import BusPool.Proofs.Pool.Grants

/-!
# Every segment is given back once

A pool keeps what it was granted until it is closed, and then gives all of it back. With a store
that keeps its promises, **`segments_released_once`** says that over the whole life of a pool the
store is asked to take segments back only at the end, once for each segment that it ever granted,
in ascending order, and for nothing else. This is so whatever the calls were, also where they found
no room, stopped at a fault or left blocks out, and also for a segment that ends at the very top of
the bus, whose import stops at a fault after the segment was indexed.

What the store granted is told by the events alone (**`Machine.supply`**). That a call adopts each
of these grants is a consequence of the store's promise that they are long enough
(**`Machine.granted_run`**).
-/

namespace BusPool.Pool

open AddressMap Arena SegmentIndex

variable {τ : Type}

/-! ### What the store is asked -/

/-- What a pool asks of its store. -/
inductive StoreCall (τ : Type) where
  /-- To name its granularity. -/
  | granularity
  /-- To grant a segment of at least this size. -/
  | grant (minSize : Word) (flags : AllocFlags)
  /-- To maintain a part of a segment. -/
  | maintain (token : τ) (offset len : Word) (ops : SyncOps)
  /-- To take a segment back. -/
  | release (token : τ)

/-- The segment that the store is to take back, if that is what it is asked. -/
def StoreCall.released? : StoreCall τ → Option τ
  | release token => some token
  | _ => none

/-- What the store is asked before a call can go on from a stage. -/
def Stage.storeCall? : Stage τ → Option (StoreCall τ)
  | sizing _ => some .granularity
  | importing flags minSize => some (.grant minSize flags)
  | syncing token offset len ops => some (.maintain token offset len ops)
  | _ => none

/-- What the store is asked by calls, in order. -/
def storeCalls (reports : List (Report τ)) : List (StoreCall τ) :=
  reports.filterMap fun r => r.next.stage?.bind Stage.storeCall?

/-- No call asks the store to take a segment back. -/
theorem released?_of_mem_storeCalls {reports : List (Report τ)} {call : StoreCall τ}
    (h : call ∈ storeCalls reports) : call.released? = none := by
  obtain ⟨r, -, hcall⟩ := List.mem_filterMap.1 h
  obtain ⟨stage, -, hstage⟩ := Option.bind_eq_some_iff.1 hcall
  cases stage with
  | sizing | importing | syncing =>
    cases hstage
    rfl
  | _ => cases hstage

namespace Machine

variable {m : Machine τ} {reports : List (Report τ)} {events : List (Event τ)} {g : Grant τ}
  {unit limit : Nat}

/-- What the store is asked over the whole life of a pool that is closed after these events. -/
def lifetime (m : Machine τ) (events : List (Event τ)) : List (StoreCall τ) :=
  storeCalls (m.run events).2 ++ (m.run events).1.close.released.map .release

/-! ### What the store granted -/

/-- The segment that the store grants at an event, to a call that asked for one. -/
def handed? (m : Machine τ) : Event τ → Option (Grant τ)
  | .reply id (.ok g) =>
    match m.stage? id with
    | some (.importing _ _) => some g
    | _ => none
  | _ => none

/-- All segments that the store grants, in order. -/
def supply (m : Machine τ) : List (Event τ) → List (Grant τ)
  | [] => []
  | e :: rest => (m.handed? e).toList ++ (m.step e).1.supply rest

/-- What the store grants at an event is its answer to a call that asked. -/
theorem handed?_eq_some_iff {e : Event τ} : m.handed? e = some g ↔
    ∃ id flags minSize, e = .reply id (.ok g) ∧ m.stage? id = some (.importing flags minSize) := by
  constructor
  · intro h
    unfold handed? at h
    split at h
    · split at h
      · rename_i hstage
        cases h
        exact ⟨_, _, _, rfl, hstage⟩
      · cases h
    · cases h
  · rintro ⟨id, flags, minSize, rfl, hstage⟩
    unfold handed?
    simp only [hstage]

/-- The segments that are granted with one more event. -/
theorem supply_concat (m : Machine τ) (events : List (Event τ)) (e : Event τ) :
    m.supply (events ++ [e]) = m.supply events ++ ((m.run events).1.handed? e).toList := by
  induction events generalizing m with
  | nil =>
    show (m.handed? e).toList ++ [] = [] ++ (m.handed? e).toList
    rw [List.append_nil, List.nil_append]
  | cons first rest ih =>
    show (m.handed? first).toList ++ (m.step first).1.supply (rest ++ [e]) = _
    rw [ih, ← List.append_assoc]
    rfl

/-- A call that is granted a segment as long as it asked for goes on to add it. -/
theorem Supplied.granted_step {e : Event τ} (h : Supplied unit limit m reports e) :
    granted (m.step e).2.toList = (m.handed? e).toList := by
  have hsame : (m.step e).2.bind (fun r => r.next.grant?) = m.handed? e := by
    apply Option.ext
    intro g
    rw [Option.bind_eq_some_iff, handed?_eq_some_iff]
    constructor
    · rintro ⟨r, hr, hgrant⟩
      obtain ⟨flags, minSize, he, hstage⟩ := reply_of_granted hr hgrant
      exact ⟨r.call, flags, minSize, he, hstage⟩
    · rintro ⟨id, flags, minSize, rfl, hstage⟩
      refine ⟨⟨id, [], .goOn (.adopting flags g)⟩, ?_, rfl⟩
      simp only [step, h.replied_eq hstage]
  rw [← hsame]
  cases (m.step e).2 with
  | none => rfl
  | some r => exact granted_singleton r.call r.records r.next

/-- **Calls adopt what the store grants**, if it keeps its promises. -/
theorem granted_run (supplied : m.Along (Supplied unit limit) events) :
    granted (m.run events).2 = m.supply events := by
  induction events using List.reverseRecOn with
  | nil => rfl
  | append_singleton events e ih =>
    obtain ⟨hinit, hlast⟩ := along_concat.1 supplied
    rw [run_concat, granted_append, supply_concat, ih hinit, hlast.granted_step]

end Machine

/-! ### Closing -/

/-- The grants of an index are in ascending order. -/
theorem ascending_grants {index : SegmentIndex τ} (h : index.Placed) :
    index.grants.Pairwise fun g g' => g.bus < g'.bus := by
  rw [grants, toList, values, List.map_map, List.pairwise_map]
  refine index.segments.ordered.imp_of_mem fun {x y} hx hy hlt => ?_
  show x.2.extent.start < y.2.extent.start
  rw [h.start_eq x hx, h.start_eq y hy]
  exact hlt

/-- Closing a sound pool gives back the segments of its index, and does not stop at a fault. -/
theorem Machine.Sound.close_eq {m : Machine τ} {live : List Block} (h : m.Sound live) :
    m.close.released = m.state.index.grants.map Grant.token ∧ m.close.outcome = .done := by
  obtain ⟨w, hw, -⟩ := h.tracks.sound.packed.layout.exists_inUseBytes
  unfold Machine.close
  rw [hw]
  refine ⟨?_, rfl⟩
  rw [grants, List.map_map]
  rfl

/-- **Every segment is given back once**, when the pool is closed and in ascending order. The store
has to keep its promises, up to the very top of the bus, and no grant may still be on its way. That
no call gives a segment back is so for any list of reports, as no stage of a call asks for it; the
weight is on the equation for what is given back in the whole life of the pool. -/
theorem segments_released_once {name : String} {c : Config} {m : Machine τ}
    (created : Machine.create name c = .ok m) {events : List (Event τ)}
    (supplied : m.Along (Machine.Supplied 1 UInt64.size) events)
    (settled : ∀ id flags g, (m.run events).1.stage? id ≠ some (.adopting flags g)) :
    let reached := (m.run events).1
    ∃ order : List (Grant τ), order.Perm (m.supply events) ∧
      (order.Pairwise fun g g' => g.bus < g'.bus) ∧
      (∀ call ∈ storeCalls (m.run events).2, call.released? = none) ∧
      (m.lifetime events).filterMap StoreCall.released? = order.map Grant.token ∧
      reached.close.outcome = .done ∧
      reached.destroy.released = reached.close.released ∧ reached.destroy.outcome = .done := by
  intro reached
  obtain ⟨hsound, -⟩ := Machine.reachable_sound created events
  obtain ⟨hreleased, hdone⟩ := hsound.close_eq
  have hnone := Machine.pending_eq_nil (Machine.numbered_run created events) settled
  have haccount := (Machine.ledger_run created supplied).account
  rw [hnone, List.nil_append, Machine.granted_run supplied] at haccount
  have hquiet : ∀ call ∈ storeCalls (m.run events).2, call.released? = none :=
    fun call hcall => released?_of_mem_storeCalls hcall
  refine ⟨reached.state.index.grants, haccount.symm, ascending_grants hsound.tracks.sound.placed,
    hquiet, ?_, hdone, rfl, hdone⟩
  rw [Machine.lifetime, List.filterMap_append, List.filterMap_eq_nil_iff.2 hquiet, List.nil_append,
    hreleased, List.filterMap_map]
  exact List.filterMap_some

/-- A pool whose store knows its segments by numbers. -/
def countedPool : Machine Nat := ⟨"pool", ⟨96, 32, 256⟩, .empty, .empty, 0, []⟩

/-- A segment in the middle of the bus. -/
def middleGrant : Grant Nat := ⟨⟨65536⟩, 4096, ⟨0, 0⟩, 1⟩

/-- A segment that ends at the very top of the bus. -/
def lastGrant : Grant Nat := ⟨⟨18446744073709547520⟩, 4096, ⟨1, 0⟩, 2⟩

/-- Two allocations ask for a segment at the same time. The one that is granted the segment at the
top stops at a fault, the other one returns with a block, which nobody takes back. -/
def closingRun : List (Event Nat) :=
  [.call (.allocate AllocFlags.zero), .advance 0, .call (.allocate AllocFlags.zero), .advance 1,
    .granularity 0 4096, .granularity 1 4096, .reply 1 (.ok lastGrant),
    .reply 0 (.ok middleGrant), .advance 1, .advance 0, .advance 0]

/-- The store keeps its promises in that run. -/
theorem closingRun_supplied :
    countedPool.Along (Machine.Supplied 1 UInt64.size) closingRun := by
  iterate 6
    refine Machine.along_cons.2 ⟨trivial, ?_⟩
  refine Machine.along_cons.2 ⟨?_, Machine.along_cons.2 ⟨?_, ?_⟩⟩
  · rintro flags minSize ⟨⟩
    refine ⟨Nat.one_dvd _, by decide +kernel, by decide +kernel, ?_⟩
    intro g hg
    cases hg
  · rintro flags minSize ⟨⟩
    refine ⟨Nat.one_dvd _, by decide +kernel, by decide +kernel, ?_⟩
    intro g hg
    cases List.mem_singleton.1 hg
    exact .inr (by decide +kernel)
  · iterate 3
      refine Machine.along_cons.2 ⟨trivial, ?_⟩
    exact Machine.along_nil

/-- Both segments of that run are given back, the lower one first, although one was never used and
a block is still out in the other. -/
theorem segments_released_of_two :
    Machine.create "pool" ⟨96, 32, 256⟩ = .ok countedPool ∧
      countedPool.Along (Machine.Supplied 1 UInt64.size) closingRun ∧
      (countedPool.run closingRun).1.calls = [] ∧
      (liveBlocks (countedPool.run closingRun).2).length = 1 ∧
      (countedPool.run closingRun).1.state.arena.spans.size = 1 ∧
      ∃ order : List (Grant Nat), order.Perm [lastGrant, middleGrant] ∧
        (order.Pairwise fun g g' => g.bus < g'.bus) ∧
        (countedPool.lifetime closingRun).filterMap StoreCall.released? =
          order.map Grant.token := by
  have created : Machine.create "pool" ⟨96, 32, 256⟩ = .ok countedPool := rfl
  have hover : (countedPool.run closingRun).1.calls = [] := rfl
  obtain ⟨order, hperm, hascending, -, hreleased, -⟩ :=
    segments_released_once created closingRun_supplied fun id flags g hstage => by
      have hmem := Machine.mem_of_stage? hstage
      rw [hover] at hmem
      cases hmem
  exact ⟨created, closingRun_supplied, hover, by decide +kernel, by decide +kernel, order, hperm,
    hascending, hreleased⟩

end BusPool.Pool
