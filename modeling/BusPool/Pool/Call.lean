import BusPool.Flags.Alloc
import BusPool.Memory
import BusPool.Pool.Record
import BusPool.Pool.State

/-!
# Calls on a pool

A call is not carried out at once. The pool's lock is let go whenever the backing store is asked
for something, so calls are cut into pieces, each of which is atomic: a critical section together
with the work around it that touches nothing shared. A *stage* is where a call stands between two
pieces.

* An allocation first tries to reserve a block. If there is room, all that is left is to deliver
  the block. If not, it asks the store for its granularity and then for a segment, adds the
  segment and tries once more under the same lock, so that nobody else can take the room that
  the segment was imported for.
* A release is one piece.
* A synchronisation looks up the segment in one piece and then waits for the store.

Delivering a block fills it with zeroes where that was asked for. By then the lock is no longer
held, so this is a piece of its own.
-/

namespace BusPool.Pool

/-- What callers ask of a pool. -/
inductive Request where
  /-- A block. -/
  | allocate (flags : AllocFlags)
  /-- Take a block back. -/
  | free (handle : Address)
  /-- Maintain the memory of a block around a device transfer. -/
  | synchronize (handle : Address) (ops : SyncOps)
deriving DecidableEq

/-- How a call ends. -/
inductive Outcome where
  /-- With a block. -/
  | block (b : Block)
  /-- Without one, and nobody is at fault. -/
  | failed (e : AllocError)
  /-- With nothing to report. -/
  | done
  /-- At a fault. -/
  | fault (f : Fault)
deriving DecidableEq

/-- Where a call in progress stands. -/
inductive Stage (τ : Type) where
  /-- About to try to reserve a block. -/
  | reserving (flags : AllocFlags)
  /-- There was no room; the store is asked for its granularity. -/
  | sizing (flags : AllocFlags)
  /-- The store is asked for a segment of at least this size. -/
  | importing (flags : AllocFlags) (minSize : Word)
  /-- The store granted a segment, which is about to be added. -/
  | adopting (flags : AllocFlags) (grant : Grant τ)
  /-- A block is reserved and about to be handed out. -/
  | delivering (flags : AllocFlags) (block : Block)
  /-- About to take a block back. -/
  | freeing (handle : Address)
  /-- About to look up the segment of a block. -/
  | resolving (handle : Address) (ops : SyncOps)
  /-- The store is asked to maintain a part of a segment. -/
  | syncing (token : τ) (offset len : Word) (ops : SyncOps)

/-- What follows a piece of a call. -/
inductive Next (τ : Type) where
  /-- The call goes on from this stage. -/
  | goOn (stage : Stage τ)
  /-- The call is over. -/
  | returned (outcome : Outcome)

/-- What a piece of a call leaves behind. -/
structure Turn (τ : Type) where
  /-- The state of the pool. -/
  state : State τ
  /-- The local memory. -/
  memory : Memory
  /-- What was reported, in order. -/
  records : List Record
  /-- What follows. -/
  next : Next τ

variable {τ : Type}

/-- Where a call starts. -/
def Request.start : Request → Stage τ
  | allocate flags => .reserving flags
  | free handle => .freeing handle
  | synchronize handle ops => .resolving handle ops

namespace Stage

/-! ## Pieces that the pool carries out -/

/-- The first try for a block. -/
def reserve (c : Config) (s : State τ) (m : Memory) (flags : AllocFlags) : Turn τ :=
  match (State.claimBlock c).outcome s with
  | (.ok (some b), s) => ⟨s, m, [], .goOn (.delivering flags b)⟩
  | (.ok none, s) => ⟨s, m, [], .goOn (.sizing flags)⟩
  | (.error f, s) => ⟨s, m, [], .returned (.fault f)⟩

/-- Add a granted segment and try for a block again. -/
def adopt (c : Config) (s : State τ) (m : Memory) (flags : AllocFlags) (g : Grant τ) : Turn τ :=
  match (State.importGrant g).outcome s with
  | (.error f, s) => ⟨s, m, [], .returned (.fault f)⟩
  | (.ok (), s) =>
    let imported := Record.imported g.extent s.index.size
    match (State.claimBlock c).outcome s with
    | (.ok (some b), s) => ⟨s, m, [imported], .goOn (.delivering flags b)⟩
    | (.ok none, s) =>
      ⟨s, m, [imported, .unplaceable g.extent], .returned (.failed .exhausted)⟩
    | (.error f, s) => ⟨s, m, [imported], .returned (.fault f)⟩

/-- Hand a block out, filled with zeroes where that was asked for. -/
def deliver (c : Config) (s : State τ) (m : Memory) (flags : AllocFlags) (b : Block) : Turn τ :=
  let m := if flags.contains AllocFlags.zero then m.fill b.pointer c.blockSize.toNat 0 else m
  ⟨s, m, [.allocated b.handle], .returned (.block b)⟩

/-- Take a block back, known by a handle that must be aligned. -/
def freeBlock (name : String) (c : Config) (handle : Address) : Attempt (State τ) Unit := do
  demand (← handle.isAligned c.align) (.misalignedFree name handle)
  State.giveBack c handle

/-- Take a block back and report it. -/
def free (name : String) (c : Config) (s : State τ) (m : Memory) (handle : Address) : Turn τ :=
  match (freeBlock name c handle).outcome s with
  | (.ok (), s) => ⟨s, m, [.freed handle], .returned .done⟩
  | (.error f, s) => ⟨s, m, [], .returned (.fault f)⟩

/-- What the store is to be asked for a block's transfer. The handle must lie in a segment, with
the whole block; whether it is the handle of a block is not looked at. -/
def locate (name : String) (c : Config) (s : State τ) (handle : Address) (ops : SyncOps) :
    Except Fault (Stage τ) := do
  demand (!ops.hasBothPhases) (.mixedPhases name handle ops)
  let segment ← s.index.owner handle
  let offset ← segment.offsetOf handle
  demand ((← Checked.add offset c.blockSize) ≤ segment.extent.len) .blockPastSegment
  return .syncing segment.token offset c.blockSize ops

/-- Look up the segment of a block and turn to the store. -/
def resolve (name : String) (c : Config) (s : State τ) (m : Memory) (handle : Address)
    (ops : SyncOps) : Turn τ :=
  match locate name c s handle ops with
  | .ok stage => ⟨s, m, [.synced handle ops], .goOn stage⟩
  | .error f => ⟨s, m, [], .returned (.fault f)⟩

/-- The next piece of a call, unless the store has to answer first. -/
def advance? (name : String) (c : Config) (s : State τ) (m : Memory) : Stage τ → Option (Turn τ)
  | reserving flags => some (reserve c s m flags)
  | adopting flags grant => some (adopt c s m flags grant)
  | delivering flags block => some (deliver c s m flags block)
  | freeing handle => some (free name c s m handle)
  | resolving handle ops => some (resolve name c s m handle ops)
  | sizing _ | importing _ _ | syncing _ _ _ _ => none

/-! ## Answers of the store -/

/-- The store named its granularity: ask it for a segment. -/
def sized? (c : Config) (granularity : Word) : Stage τ → Option (Next τ)
  | sizing flags =>
    match c.growthRequest granularity with
    | .ok minSize => some (.goOn (.importing flags minSize))
    | .error f => some (.returned (.fault f))
  | _ => none

/-- The store granted a segment, which must be as large as was asked for, or gave none. -/
def replied? (answer : Except StoreError (Grant τ)) : Stage τ → Option (List Record × Next τ)
  | importing flags minSize =>
    match answer with
    | .ok grant =>
      if minSize ≤ grant.len then some ([], .goOn (.adopting flags grant))
      else some ([], .returned (.fault .shortGrant))
    | .error cause =>
      some ([.importFailed minSize cause], .returned (.failed (.store cause)))
  | _ => none

/-- The store has done its part of a synchronisation. -/
def acknowledged? : Stage τ → Option (Next τ)
  | syncing _ _ _ _ => some (.returned .done)
  | _ => none

/-- A bound for the number of pieces and answers that a call still takes. -/
def remaining : Stage τ → Nat
  | reserving _ => 5
  | sizing _ => 4
  | importing _ _ => 3
  | adopting _ _ => 2
  | delivering _ _ => 1
  | freeing _ => 1
  | resolving _ _ => 2
  | syncing _ _ _ _ => 1

end Stage

/-- The same for what follows a piece; a call that is over takes no more. -/
def Next.remaining : Next τ → Nat
  | goOn stage => stage.remaining
  | returned _ => 0

end BusPool.Pool
