import BusPool.Flags.Alloc
import BusPool.Pool.Machine

/-!
# Pool scenarios: what is asked and what is answered

A scenario creates a pool over a scripted store and carries out steps on it. Steps may be nested:
while the store is being asked for a segment, or to maintain one, further steps may be carried out
on the same pool, as another thread would. A nested step is answered in the same way as any other,
at the place where it happened.
-/

namespace BusPool.Scenario.Pool

open BusPool.Pool (Block)

/-! ## What is asked -/

/-- Which handle a step names. -/
inductive Target where
  /-- This one. -/
  | handle (a : Address)
  /-- That of a block, moved on around the top of the bus. -/
  | block (number : Nat) (plus : Word)

/-- One operation. Blocks are known by the number of blocks handed out before them. -/
inductive Step where
  /-- Allocate a block, filled with zeroes if asked for. -/
  | allocate (zeroed : Bool) (flags : AllocFlags)
  /-- Take a block back. -/
  | free (target : Target)
  /-- Maintain the memory of a block; the steps are carried out while the store does so. -/
  | sync (target : Target) (ops : SyncOps) (during : Option (List Step))
  /-- Write the bytes of a block. -/
  | fill (block : Nat) (byte : UInt8)
  /-- Read the bytes of a block. -/
  | read (block : Nat)
  /-- Read all bytes of a granted segment, known by the number of grants before it. -/
  | dump (grant : Nat)
  /-- Show a block. -/
  | inspectBlock (block : Nat)
  /-- Which extents were imported? -/
  | extents
  /-- What are the name and the parameters of the pool? -/
  | info
  /-- A number of threads, each of which allocates a number of blocks. -/
  | threads (count each : Nat)
  /-- Threads take the blocks back. -/
  | threadsFree (blocks : List Nat)
  /-- Close the pool. -/
  | destroy
  /-- Something that cannot be carried out. -/
  | unknown

/-- What the store says when it is asked for a segment. -/
structure Reply where
  /-- Steps that are carried out first. -/
  during : Option (List Step)
  /-- A cause for refusal, or the address and the length of a segment. Without a length it is as
  large as was asked for. -/
  answer : Except StoreError (Address × Option Word)

/-- A store that answers as it was told to. -/
structure Store where
  /-- The granularity it names. -/
  granularity : Word
  /-- Whether it must wait for memory, and so refuses where waiting is ruled out. -/
  needsWait : Bool
  /-- Whether segments are mapped to local memory of their own. Without this they all are mapped
  at one fixed place, which is never touched. -/
  mapped : Bool
  /-- The answers it has not given yet. -/
  script : List Reply
  /-- Where the next segment lies once the script is used up, if there is to be one. -/
  nextBus : Option Word
  /-- How far segments lie apart that are granted without a script. -/
  gap : Word
  /-- How many segments may still be granted without a script, if there is a limit. -/
  allowance : Option Nat

/-- A scenario. -/
structure Script where
  /-- The name of the pool. -/
  name : String
  /-- The parameters of the pool. -/
  config : Config
  /-- The store. -/
  store : Store
  /-- The steps. -/
  steps : List Step

/-! ## What is answered -/

/-- What the store knows a segment by. -/
structure Ticket where
  /-- The first bus address. -/
  bus : Address
  /-- The number of bytes. -/
  len : Word
deriving DecidableEq, Inhabited

/-- What a step led to. -/
inductive Result where
  /-- It was carried out. -/
  | done
  /-- A block was handed out: its number, its handle, the segment it lies in and its offset
  there. -/
  | block (number : Nat) (handle segment : Address) (offset : Nat)
  /-- No block was handed out. -/
  | failed (e : AllocError)
  /-- It was stopped. -/
  | fault (f : Fault)
  /-- It could not be tried. -/
  | badStep
  /-- Bytes, as stretches of one value. -/
  | bytes (runs : List (UInt8 × Nat))
  /-- A text. -/
  | text (s : String)
  /-- Extents in ascending order. -/
  | extents (extents : List Extent)
  /-- The name and the parameters of the pool and the granularity of its store. -/
  | info (name : String) (config : Config) (granularity : Word)
  /-- Handles in ascending order. -/
  | handles (handles : List Address)

/-- The counters of a pool. -/
structure Totals where
  /-- How many segments were imported. -/
  segments : Nat
  /-- How many bytes they have. -/
  capacity : Word
  /-- How many of them are free. -/
  free : Word
  /-- How many of them are not. -/
  inUse : Except Fault Word

mutual

/-- The answer to a step. -/
inductive Answer where
  /-- To a step on the pool: the result, what the store was asked for, what was reported, and the
  counters afterwards. -/
  | step (result : Result) (notes : List Note) (log : List String) (totals : Totals)
  /-- To closing the pool. -/
  | closing (result : Result) (notes : List Note) (log : List String)
  /-- To a step on a pool that was closed before. -/
  | tooLate

/-- What the store was asked for, or what happened meanwhile. -/
inductive Note where
  /-- A segment. -/
  | asked (minSize : Word) (flags : AllocFlags)
  /-- These steps were carried out meanwhile. -/
  | during (answers : List Answer)
  /-- To take a segment back. -/
  | released (ticket : Ticket)
  /-- To maintain a part of a segment. -/
  | synced (ticket : Ticket) (offset len : Word) (ops : SyncOps)

end

/-- The answer to a scenario. -/
inductive Transcript where
  /-- The parameters were rejected. -/
  | rejected (e : ConfigError)
  /-- The pool was created: what was reported then, the answers to the steps, and the answer to
  closing the pool in the end unless a step did so. -/
  | played (log : List String) (answers : List Answer) (ending : Option Answer)

/-! ## How deep steps are nested -/

mutual

/-- How deep steps are nested in a step. -/
def Step.depth : Step → Nat
  | .sync _ _ (some during) => 1 + Step.depths during
  | _ => 0

/-- How deep steps are nested in some of these. -/
def Step.depths : List Step → Nat
  | [] => 0
  | step :: rest => max step.depth (Step.depths rest)

end

/-- How deep the steps of a reply are nested, themselves included. -/
def Reply.depth (r : Reply) : Nat := 1 + Step.depths (r.during.getD [])

/-- A bound for how deep steps can be nested in a scenario. Each level is either written inside
the step around it or taken from a reply, and each reply is used once. -/
def Script.depth (s : Script) : Nat :=
  1 + Step.depths s.steps + s.store.script.foldr (fun r n => r.depth + n) 0

end BusPool.Scenario.Pool
