import BusPool.SpinLock.Threads

/-!
# Lock scenarios

A spin lock guards a counter. Each step lets one or more threads loose on it, in an order of
their atomic steps that shows what the step is about, and is answered by an outcome and by the
counter.
-/

namespace BusPool.Scenario.Lock

open SpinLock

/-- One operation. -/
inductive Step where
  /-- Add to the counter. -/
  | add (amount : Word)
  /-- Add to the counter, then stop while holding the lock. -/
  | addThenStop (amount : Word)
  /-- One thread holds the lock and adds one; a second one waits for it, reads the counter and
  adds to it. Both additions wrap. -/
  | handover (amount : Word)
  /-- A number of threads, each of which adds to the counter a number of times. The additions
  wrap. -/
  | contend (threads rounds : Nat) (amount : Word)
  /-- Something that cannot be carried out. -/
  | unknown

/-- What a step led to. -/
inductive Result where
  /-- A value of the counter. -/
  | value (w : Word)
  /-- A critical section was stopped. -/
  | fault (f : Fault)
  /-- It could not be tried. -/
  | badStep

/-- A critical section that yields a value of the counter. -/
abbrev Body := Attempt Word Word

/-- Add, and yield the sum. -/
def addBody (amount : Word) : Body := do
  let sum ← Checked.add (← get) amount
  set sum
  return sum

/-- Add, then stop. -/
def addThenStopBody (amount : Word) : Body := do
  let sum ← Checked.add (← get) amount
  set sum
  throw (.holderStopped sum)

/-- Add around the top, and yield the value found. -/
def wrappingAddBody (amount : Word) : Body := do
  let found ← get
  set (found + amount)
  return found

/-- The latest outcome of a thread, as a result. -/
def latest (s : System Word Word) (thread : Nat) : Result :=
  match (s.threads[thread]?).bind fun t => t.outcomes.head? with
  | some (.ok w) => .value w
  | some (.error f) => .fault f
  | none => .badStep

/-- One thread carries out one critical section. -/
def alone (body : Body) (counter : Word) : Result × Word :=
  let s := (System.start counter [[body]]).run (List.replicate stepsAlone 0)
  (latest s 0, s.value)

/-- The second thread finds the flag set, watches it, and gets the lock once the first thread has
cleared the flag. -/
def handoverSchedule : List Nat := [0, 1, 1, 0, 1, 0, 1, 0, 1, 1, 1, 1, 1]

/-- Carry out one step. -/
def step (counter : Word) : Step → Result × Word
  | .add amount => alone (addBody amount) counter
  | .addThenStop amount => alone (addThenStopBody amount) counter
  | .handover amount =>
    let s := (System.start counter [[wrappingAddBody 1], [wrappingAddBody amount]]).run
      handoverSchedule
    (latest s 1, s.value)
  | .contend threads rounds amount =>
    let program := List.replicate rounds (wrappingAddBody amount)
    let schedule := (List.range threads).flatMap fun i =>
      List.replicate (stepsAlone * rounds) i
    let s := (System.start counter (List.replicate threads program)).run schedule
    (.value s.value, s.value)
  | .unknown => (.badStep, counter)

/-- Carry out steps from a counter on: the result of each and the counter after it. -/
def run (counter : Word) : List Step → List (Result × Word)
  | [] => []
  | s :: rest =>
    let (result, next) := step counter s
    (result, next) :: run next rest

end BusPool.Scenario.Lock
