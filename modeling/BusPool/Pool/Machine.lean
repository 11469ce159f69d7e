import BusPool.Pool.Call

/-!
# Interleaved calls

A machine is a pool together with all calls in progress on it and the local memory. Any number of
calls may be in progress, in any stage; which of them takes the next step is up to the *event*
that comes next. Threads that use the pool at the same time, and a backing store that calls back
into the pool while it is being asked for a segment, are both described by sequences of events.

The store is not part of the machine. Its answers are events, and nothing is assumed about them:
they may break every promise a store makes. The same holds for what callers ask for and for what
is written to local memory from outside.

Each call is known by a number. An event that does not fit, such as an answer to a call that asked
for nothing, changes nothing.
-/

namespace BusPool.Pool

variable {τ : Type}

/-- What happens next. -/
inductive Event (τ : Type) where
  /-- A new call begins. It is known by the number of calls that began before it. -/
  | call (request : Request)
  /-- A call carries out its next piece. -/
  | advance (id : Nat)
  /-- The store tells a call its granularity. -/
  | granularity (id : Nat) (g : Word)
  /-- The store answers a call's request for a segment. -/
  | reply (id : Nat) (answer : Except StoreError (Grant τ))
  /-- The store has done what a synchronisation asked for. -/
  | acknowledge (id : Nat)
  /-- A region of local memory is mapped. -/
  | map (bytes : Array UInt8)
  /-- Bytes of local memory are written from outside the pool. -/
  | write (p : Pointer) (n : Nat) (byte : UInt8)

/-- What an event made a call do. -/
structure Report (τ : Type) where
  /-- The call. -/
  call : Nat
  /-- What was reported, in order. -/
  records : List Record
  /-- What follows for the call. -/
  next : Next τ

/-- A pool, the calls in progress and the local memory. -/
structure Machine (τ : Type) where
  /-- The name of the pool. -/
  name : String
  /-- The parameters of the pool. -/
  config : Config
  /-- What the pool keeps. -/
  state : State τ
  /-- The local memory. -/
  memory : Memory
  /-- How many calls have begun. -/
  begun : Nat
  /-- The calls in progress and where they stand. -/
  calls : List (Nat × Stage τ)

namespace Machine

/-- A new pool, if the parameters are accepted. -/
def create (name : String) (config : Config) : Except ConfigError (Machine τ) := do
  config.validate
  return ⟨name, config, .empty, .empty, 0, []⟩

/-- Where a call in progress stands. -/
def stage? (m : Machine τ) (id : Nat) : Option (Stage τ) := m.calls.lookup id

/-- The machine after a call has been told what follows. -/
def follow (m : Machine τ) (id : Nat) (next : Next τ) : Machine τ :=
  let others := m.calls.filter fun entry => entry.1 != id
  match next with
  | .goOn stage => { m with calls := (id, stage) :: others }
  | .returned _ => { m with calls := others }

/-- The effect of an event, and what it made a call do. -/
def step (m : Machine τ) (e : Event τ) : Machine τ × Option (Report τ) :=
  match e with
  | .call request =>
    let next := .goOn request.start
    ({ m.follow m.begun next with begun := m.begun + 1 }, some ⟨m.begun, [], next⟩)
  | .advance id =>
    match (m.stage? id).bind (Stage.advance? m.name m.config m.state m.memory) with
    | some turn =>
      ({ m with state := turn.state, memory := turn.memory }.follow id turn.next,
        some ⟨id, turn.records, turn.next⟩)
    | none => (m, none)
  | .granularity id g =>
    match (m.stage? id).bind (Stage.sized? m.config g) with
    | some next => (m.follow id next, some ⟨id, [], next⟩)
    | none => (m, none)
  | .reply id answer =>
    match (m.stage? id).bind (Stage.replied? answer) with
    | some (records, next) => (m.follow id next, some ⟨id, records, next⟩)
    | none => (m, none)
  | .acknowledge id =>
    match (m.stage? id).bind Stage.acknowledged? with
    | some next => (m.follow id next, some ⟨id, [], next⟩)
    | none => (m, none)
  | .map bytes => ({ m with memory := m.memory.map bytes }, none)
  | .write p n byte => ({ m with memory := m.memory.fill p n byte }, none)

/-- The effect of a sequence of events, and what they made the calls do. -/
def run (m : Machine τ) : List (Event τ) → Machine τ × List (Report τ)
  | [] => (m, [])
  | e :: rest =>
    let (m, report) := m.step e
    let (m, reports) := m.run rest
    (m, report.toList ++ reports)

/-! ## The end of a pool -/

/-- What closing a pool leads to. -/
structure Closing (τ : Type) where
  /-- What was reported, in order. -/
  records : List Record
  /-- The segments given back to the store, in order. -/
  released : List τ
  /-- How it ended. -/
  outcome : Outcome

/-- Close a pool on which no call is in progress: every segment is given back to the store, in
ascending order. Blocks that are still out are worth a warning and nothing else. -/
def close (m : Machine τ) : Closing τ :=
  match m.state.arena.inUseBytes with
  | .error f => ⟨[], [], .fault f⟩
  | .ok inUse =>
    let warning := if inUse = 0 then [] else [Record.stillAllocated inUse]
    let segments := (SegmentIndex.drain.run m.state.index).1
    ⟨warning ++ [.released segments.length], segments.map Segment.token, .done⟩

/-- Close a pool on request, which is reported first. -/
def destroy (m : Machine τ) : Closing τ :=
  let closing := m.close
  { closing with records := .destroying :: closing.records }

end Machine

end BusPool.Pool
