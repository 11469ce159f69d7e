import BusPool.Arena.History

/-!
# Arena scenarios

A scenario is a list of steps carried out one after the other on an arena that starts out empty.
A fault ends its step only; the next step finds the arena as the fault left it. Each step is
answered by its result and by the arena after it.
-/

namespace BusPool.Scenario.Arena

open BusPool.Arena (Op)

/-- One step. -/
inductive Step where
  /-- An operation. -/
  | op (o : Op)
  /-- Release what the `n`-th successful reservation gave, counted from zero. -/
  | releaseGiven (n : Nat) (size : Word)
  /-- Something that cannot be carried out. -/
  | unknown

/-- What a step led to. -/
inductive Result where
  /-- It was carried out. -/
  | done
  /-- The reservation gave this address, or found no room. -/
  | reserved (addr : Option Address)
  /-- It was stopped. -/
  | fault (f : Fault)
  /-- It could not be tried. -/
  | badStep

/-- An arena and the addresses it has given out, in order. -/
structure State where
  /-- The arena. -/
  arena : BusPool.Arena
  /-- The addresses that reservations gave. -/
  given : Array Address

/-- The operation that a step stands for. -/
def State.resolve? (s : State) : Step → Option Op
  | .op o => some o
  | .releaseGiven n size => (s.given[n]?).map fun start => .release start size
  | .unknown => none

/-- How the answer of an operation is told. -/
def Result.ofAnswer (o : Op) (answer : Option Address) : Result :=
  match o with
  | .reserve _ _ _ => .reserved answer
  | .addSpan _ | .release _ _ => .done

/-- Carry out one step. -/
def State.step (s : State) (step : Step) : Result × State :=
  match s.resolve? step with
  | none => (.badStep, s)
  | some o =>
    match o.perform.outcome s.arena with
    | (.ok answer, arena) => (.ofAnswer o answer, ⟨arena, s.given ++ answer.toArray⟩)
    | (.error f, arena) => (.fault f, { s with arena })

/-- Carry out steps from a state on: the result of each and the arena after it. -/
def State.run (s : State) : List Step → List (Result × BusPool.Arena)
  | [] => []
  | step :: rest =>
    let (result, next) := s.step step
    (result, next.arena) :: next.run rest

/-- Carry out steps on an arena that starts out empty. -/
def run (steps : List Step) : List (Result × BusPool.Arena) := State.run ⟨.empty, #[]⟩ steps

end BusPool.Scenario.Arena
