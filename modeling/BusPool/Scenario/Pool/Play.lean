import BusPool.Scenario.Pool.Script

/-!
# Playing a pool scenario

The steps of a scenario are turned into events for a `Pool.Machine`. A call is carried on, piece
by piece, until it is over; when it waits for the store, the scripted store answers, after
carrying out the steps that are nested there. A nested step is a further call on the same machine
while the outer call is still in progress, so nesting is one way of interleaving calls.

Each step starts with an empty log and an empty list of notes and finds those of the step around
it again when it is done.
-/

namespace BusPool.Scenario.Pool

open BusPool.Pool (Block Event Machine Next Outcome Record Stage)

/-- What a scenario has come to. -/
structure World where
  /-- The pool and the calls in progress on it. -/
  machine : Machine Ticket
  /-- The store, with what is left of its script. -/
  store : Store
  /-- The blocks handed out, in order. -/
  blocks : Array Block
  /-- What the store was asked for during the current step. -/
  notes : Array Note
  /-- What was reported during the current step. -/
  records : Array Record

/-- Something that happens in a scenario. -/
abbrev Scene := StateM World

/-- How steps nested in the current one are carried out. -/
abbrev Nested := List Step → Scene (List Answer)

/-- Keep a note. -/
def note (n : Note) : Scene Unit := modify fun w => { w with notes := w.notes.push n }

/-- Let an event happen; what follows for the call it concerns. -/
def happen (e : Event Ticket) : Scene (Option (Next Ticket)) := do
  let w ← get
  let (machine, report) := w.machine.step e
  let records := (report.map fun r => r.records).getD []
  set { w with machine, records := w.records ++ records }
  return report.map fun r => r.next

/-- Carry out steps that are nested here, if any. -/
def meanwhile (nested : Nested) : Option (List Step) → Scene Unit
  | none => return
  | some steps => do
    let answers ← nested steps
    note (.during answers)

/-! ## The store -/

/-- The greatest length of a segment that can be mapped. -/
def Store.longest (s : Store) : Nat := if s.mapped then 0x100000 else 0x4000000000000000

/-- What fresh memory holds. -/
def freshByte : UInt8 := 0xA5

/-- Where segments lie that have no memory of their own. -/
def fixedMapping : Pointer := ⟨0, 0x1000⟩

/-- Grant a segment, mapped to fresh memory or to the fixed place. -/
def provide (bus : Address) (len : Word) : Scene (Except StoreError (Grant Ticket)) := do
  let w ← get
  if w.store.longest < len.toNat then
    return .error .unmappable
  if w.store.mapped then
    let region := w.machine.memory.regions.size
    let _ ← happen (.map (Array.replicate len.toNat freshByte))
    return .ok ⟨bus, len, ⟨region, 0⟩, ⟨bus, len⟩⟩
  return .ok ⟨bus, len, fixedMapping, ⟨bus, len⟩⟩

/-- The store is asked for a segment. -/
def askSegment (nested : Nested) (minSize : Word) (flags : AllocFlags) :
    Scene (Except StoreError (Grant Ticket)) := do
  note (.asked minSize flags)
  let store := (← get).store
  if store.needsWait && !AllocFlags.mayWait flags then
    return .error .wouldBlock
  match store.script with
  | reply :: rest =>
    modify fun w => { w with store := { store with script := rest } }
    meanwhile nested reply.during
    match reply.answer with
    | .error cause => return .error cause
    | .ok (bus, len) => provide bus (len.getD minSize)
  | [] =>
    match store.nextBus, store.allowance with
    | none, _ => return .error .outOfMemory
    | _, some 0 => return .error .outOfMemory
    | some bus, allowance =>
      let store := { store with
        nextBus := some (bus + minSize + store.gap)
        allowance := allowance.map (· - 1) }
      modify fun w => { w with store }
      provide ⟨bus⟩ minSize

/-! ## Calls -/

/-- Carry a call on until it is over, in at most `n` pieces. -/
def carryOn (nested : Nested) (during : Option (List Step)) (id : Nat) :
    Nat → Next Ticket → Scene Outcome
  | _, .returned outcome => return outcome
  | 0, .goOn _ => return .done
  | n + 1, .goOn stage => do
    let next ←
      match stage with
      | .sizing _ => do
        happen (.granularity id (← get).store.granularity)
      | .importing flags minSize => do
        happen (.reply id (← askSegment nested minSize flags))
      | .syncing ticket offset len ops => do
        note (.synced ticket offset len ops)
        meanwhile nested during
        happen (.acknowledge id)
      | _ => happen (.advance id)
    carryOn nested during id n (next.getD (.returned .done))

/-- Make a call and carry it on until it is over. -/
def call (nested : Nested) (during : Option (List Step)) (request : BusPool.Pool.Request) :
    Scene Outcome := do
  let id := (← get).machine.begun
  match ← happen (.call request) with
  | some next => carryOn nested during id next.remaining next
  | none => return .done

/-- How a call ended, where it hands out no block. -/
def Result.ofOutcome : Outcome → Result
  | .block _ | .done => .done
  | .failed e => .failed e
  | .fault f => .fault f

/-! ## Steps -/

/-- The handle that a step names. -/
def World.resolve? (w : World) : Target → Option Address
  | .handle a => some a
  | .block number plus => (w.blocks[number]?).map fun b => b.handle.wrappingAdd plus

/-- Give a block the next number. -/
def number (b : Block) : Scene Nat := do
  let w ← get
  set { w with blocks := w.blocks.push b }
  return w.blocks.size

/-- Show a block by the segment it lies in. -/
def World.locate (w : World) (number : Nat) (b : Block) : Result :=
  match w.machine.state.index.segmentAt? b.handle with
  | some segment =>
    .block number b.handle segment.extent.start (b.pointer.offset - segment.mapping.offset)
  | none => .block number b.handle b.handle 0

/-- Allocate a block and number it. -/
def allocate (nested : Nested) (flags : AllocFlags) : Scene Result := do
  match ← call nested none (.allocate flags) with
  | .block b =>
    let n ← number b
    return (← get).locate n b
  | outcome => return .ofOutcome outcome

/-- Carry out something without keeping what is reported meanwhile. -/
def unlogged {α : Type} (scene : Scene α) : Scene α := do
  let records := (← get).records
  let a ← scene
  modify fun w => { w with records }
  return a

/-- Threads allocate blocks. The order in which they do is not determined, so the blocks are
numbered in the order of their handles. -/
def allocateInThreads (nested : Nested) (count each : Nat) : Scene Result := do
  let outcomes ← unlogged <|
    (List.replicate (count * each) ()).mapM fun _ => call nested none (.allocate ⟨0⟩)
  let blocks := outcomes.filterMap fun outcome =>
    match outcome with
    | .block b => some b
    | _ => none
  let sorted := blocks.mergeSort fun a b => decide (a.handle ≤ b.handle)
  let _ ← sorted.mapM number
  return .handles (sorted.map Block.handle)

/-- Threads take blocks back. -/
def freeInThreads (nested : Nested) (numbers : List Nat) : Scene Result := do
  let w ← get
  match numbers.mapM fun n => w.blocks[n]? with
  | none => return .badStep
  | some blocks =>
    let _ ← unlogged (blocks.mapM fun b => call nested none (.free b.handle))
    return .done

/-- Carry out a step on the pool. -/
def perform (nested : Nested) (step : Step) : Scene Result := do
  let w ← get
  let blockSize := w.machine.config.blockSize.toNat
  match step with
  | .allocate zeroed flags =>
    let flags := if zeroed then flags.union AllocFlags.zero else flags
    if !w.store.mapped && flags.contains AllocFlags.zero then
      return .badStep
    allocate nested flags
  | .free target =>
    let some handle := w.resolve? target | return .badStep
    return .ofOutcome (← call nested none (.free handle))
  | .sync target ops during =>
    let some handle := w.resolve? target | return .badStep
    return .ofOutcome (← call nested during (.synchronize handle ops))
  | .fill block byte =>
    let some b := w.blocks[block]? | return .badStep
    if !w.store.mapped then
      return .badStep
    let _ ← happen (.write b.pointer blockSize byte)
    return .done
  | .read block =>
    let some b := w.blocks[block]? | return .badStep
    if !w.store.mapped then
      return .badStep
    return .bytes (Memory.runs (w.machine.memory.read b.pointer blockSize))
  | .dump grant =>
    let some bytes := w.machine.memory.regions[grant]? | return .badStep
    return .bytes (Memory.runs bytes)
  | .inspectBlock block =>
    let some b := w.blocks[block]? | return .badStep
    if w.store.mapped then
      return .badStep
    return .text b.inspect
  | .extents => return .extents w.machine.state.index.extents
  | .info => return .info w.machine.name w.machine.config w.store.granularity
  | .threads count each => allocateInThreads nested count each
  | .threadsFree blocks => freeInThreads nested blocks
  | .destroy | .unknown => return .badStep

/-- The counters of the pool. -/
def World.totals (w : World) : Totals where
  segments := w.machine.state.index.size
  capacity := w.machine.state.arena.spanBytes
  free := w.machine.state.arena.freeBytes
  inUse := w.machine.state.arena.inUseBytes

/-- Carry out a step with a log and notes of its own. -/
def answer (nested : Nested) (step : Step) : Scene Answer := do
  let outer ← get
  set { outer with notes := #[], records := #[] }
  let result ← perform nested step
  let w ← get
  set { w with notes := outer.notes, records := outer.records }
  return .step result w.notes.toList (w.records.toList.map (Record.render w.machine.name))
    w.totals

/-- Carry out nested steps, which are nested at most this deep. -/
def playNested : Nat → List Step → Scene (List Answer)
  | 0, _ => return []
  | depth + 1, steps => steps.mapM (answer (playNested depth))

/-! ## Scenarios -/

/-- The answer to closing a pool. -/
def closingAnswer (name : String) (c : Machine.Closing Ticket) : Answer :=
  .closing (.ofOutcome c.outcome) (c.released.map Note.released)
    (c.records.map (Record.render name))

/-- Carry out the steps of a scenario and close the pool. -/
def playSteps (depth : Nat) : List Step → Scene (List Answer × Option Answer)
  | [] => do
    let m := (← get).machine
    return ([], some (closingAnswer m.name m.close))
  | .destroy :: rest => do
    let m := (← get).machine
    return (closingAnswer m.name m.destroy :: rest.map fun _ => .tooLate, none)
  | step :: rest => do
    let first ← answer (playNested depth) step
    let (answers, ending) ← playSteps depth rest
    return (first :: answers, ending)

/-- Play a scenario. -/
def Script.play (s : Script) : Transcript :=
  match Machine.create s.name s.config with
  | .error e => .rejected e
  | .ok machine =>
    let ((answers, ending), _) := playSteps s.depth s.steps |>.run ⟨machine, s.store, #[], #[], #[]⟩
    .played [(Record.created s.config).render s.name] answers ending

end BusPool.Scenario.Pool
