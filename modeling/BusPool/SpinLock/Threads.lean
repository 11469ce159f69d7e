import BusPool.Attempt

/-!
# Threads behind a spin lock

A spin lock guards a value. A thread that wants it tries to set the lock's flag; where the flag
is already set, it watches the flag by plain reads until it sees it clear, and tries again. The
thread that has set the flag is the holder. It reads the value, computes, writes the value back,
and clears the flag. Each of these is one atomic step, and the steps of any number of threads are
taken in any order: a *schedule* names the thread that takes each step.

What a holder computes is an `Attempt`, so it may stop at a fault. The value it leaves is written
back and the flag is cleared all the same; the fault is the outcome of that critical section and
the thread goes on with its next one.

That no update gets lost is not built in. The value is read in one step and written in another,
so two holders at a time would overwrite each other's updates.
-/

namespace BusPool.SpinLock

variable {α β : Type}

/-- Where a thread stands. -/
inductive Phase (α β : Type) where
  /-- Not holding the lock. The next step tries to set the flag for the next critical section, if
  there is one. -/
  | outside
  /-- The flag was found set. The next step reads it. -/
  | watching
  /-- Holding the lock. The next step reads the value and computes. -/
  | entered (body : Attempt α β)
  /-- Holding the lock. The next step writes the value. -/
  | computed (outcome : Except Fault β) (value : α)
  /-- Holding the lock. The next step clears the flag. -/
  | leaving (outcome : Except Fault β)

/-- Whether a thread in this phase is the holder of the lock. -/
def Phase.holds : Phase α β → Bool
  | .outside | .watching => false
  | .entered _ | .computed _ _ | .leaving _ => true

/-- A thread: the critical sections it has still to carry out and the outcomes of those behind
it. -/
structure Thread (α β : Type) where
  /-- The critical sections that have not been entered, in order. -/
  program : List (Attempt α β)
  /-- Where the thread stands. -/
  phase : Phase α β
  /-- The outcomes of the finished critical sections, the latest first. -/
  outcomes : List (Except Fault β)

/-- A thread that is about to start. -/
def Thread.start (program : List (Attempt α β)) : Thread α β := ⟨program, .outside, []⟩

/-- A lock, the value it guards, and the threads. -/
structure System (α β : Type) where
  /-- The flag. -/
  locked : Bool
  /-- The guarded value. -/
  value : α
  /-- The threads. -/
  threads : List (Thread α β)
  /-- The critical sections for which the flag was set, the latest first. -/
  acquired : List (Attempt α β)

namespace System

/-- Threads about to start, and the lock free. -/
def start (value : α) (programs : List (List (Attempt α β))) : System α β :=
  ⟨false, value, programs.map Thread.start, []⟩

/-- The system with another state of one thread. -/
def setThread (s : System α β) (i : Nat) (t : Thread α β) : System α β :=
  { s with threads := s.threads.set i t }

/-- One atomic step of thread `i`. A thread that does not exist or has finished stays as it is. -/
def step (s : System α β) (i : Nat) : System α β :=
  match s.threads[i]? with
  | none => s
  | some t =>
    match t.phase, t.program with
    | .outside, [] => s
    | .outside, body :: rest =>
      if s.locked then s.setThread i { t with phase := .watching }
      else
        { s.setThread i { t with phase := .entered body, program := rest } with
          locked := true
          acquired := body :: s.acquired }
    | .watching, _ =>
      if s.locked then s else s.setThread i { t with phase := .outside }
    | .entered body, _ =>
      let (outcome, value) := body.outcome s.value
      s.setThread i { t with phase := .computed outcome value }
    | .computed outcome value, _ =>
      { s.setThread i { t with phase := .leaving outcome } with value }
    | .leaving outcome, _ =>
      { s.setThread i { t with phase := .outside, outcomes := outcome :: t.outcomes } with
        locked := false }

/-- The steps of a schedule, one after the other. -/
def run (s : System α β) (schedule : List Nat) : System α β := schedule.foldl step s

/-- Whether every thread has carried out all its critical sections. -/
def finished (s : System α β) : Bool :=
  s.threads.all fun t => t.program.isEmpty && !t.phase.holds

/-- The value after critical sections carried out one at a time, the latest of which comes
first. -/
def serial (value : α) : List (Attempt α β) → α
  | [] => value
  | body :: earlier => (body.outcome (serial value earlier)).2

end System

/-- The steps that one critical section takes when nobody else holds the lock: set the flag, read
and compute, write, clear the flag. -/
def stepsAlone : Nat := 4

end BusPool.SpinLock
