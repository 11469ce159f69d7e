import BusPool.Arena.Release
import BusPool.Arena.Reserve
import BusPool.Config
import BusPool.Segment.Index
import BusPool.Text.Quoted

/-!
# What a pool keeps

A pool of blocks keeps an arena, which says which addresses are taken, and an index of its
segments, which says where addresses are mapped. The two describe the same segments: each span of
the arena is the extent of a segment in the index.

Both are guarded by one lock. What is done while the lock is held, from taking it to letting it
go, is one of the operations here; nothing else touches the state.
-/

namespace BusPool.Pool

/-- A block that is handed out: its address for the device and for the local side. -/
structure Block where
  /-- Where the block is mapped. -/
  pointer : Pointer
  /-- The bus address of its first byte, by which the block is known. -/
  handle : Address
deriving DecidableEq, Inhabited, Repr

/-- The two addresses of a block by name. -/
def Block.inspect (b : Block) : String :=
  "DmaBlock \x7b ptr: " ++ Text.Hex.plain b.pointer.offset ++ ", handle: " ++ b.handle.inspect
    ++ " \x7d"

/-- The state of a pool. -/
@[ext]
structure State (τ : Type) where
  /-- Which addresses are taken. -/
  arena : Arena
  /-- Where addresses are mapped. -/
  index : SegmentIndex τ

namespace State

variable {τ : Type}

/-- The state of a pool that has imported nothing. -/
def empty : State τ := ⟨.empty, .empty⟩

/-- The pool without segments is the default one. -/
instance : Inhabited (State τ) := ⟨empty⟩

/-- An operation on the arena. -/
def onArena {α : Type} (op : Attempt Arena α) : Attempt (State τ) α :=
  op.onPart State.arena fun arena s => { s with arena }

/-- An operation on the index. -/
def onIndex {α : Type} (op : Attempt (SegmentIndex τ) α) : Attempt (State τ) α :=
  op.onPart State.index fun index s => { s with index }

/-! ## Under the lock -/

/-- Reserve a block and find out where it is mapped. -/
def claimBlock (c : Config) : Attempt (State τ) (Option Block) := do
  match ← onArena (Arena.reserve c.blockSize c.align c.boundary) with
  | none => return none
  | some handle =>
    let segment ← (← get).index.owner handle
    let pointer ← segment.pointerTo handle
    return some { pointer, handle }

/-- Add a granted segment: first to the index, then to the arena. -/
def importGrant (g : Grant τ) : Attempt (State τ) Unit := do
  onIndex (SegmentIndex.insert (.ofGrant g))
  onArena (Arena.addSpan g.extent)

/-- Take a block back. -/
def giveBack (c : Config) (handle : Address) : Attempt (State τ) Unit :=
  onArena (Arena.release handle c.blockSize)

end State

/-! ## Text -/

/-- The name and the parameters of a pool on one line. -/
def inspect (name : String) (c : Config) : String :=
  "DmaPool \x7b name: " ++ Text.Quoted.encode name ++ ", config: " ++ c.inspect ++ ", .. \x7d"

/-- The name and the parameters of a pool, one to a line. -/
def inspectLines (name : String) (c : Config) : String :=
  let parameters := c.fields.map fun field => "        " ++ field.1 ++ ": " ++ field.2 ++ ","
  String.intercalate "\n"
    (["DmaPool \x7b", "    name: " ++ Text.Quoted.encode name ++ ",", "    config: PoolConfig \x7b"]
      ++ parameters ++ ["    \x7d,", "    ..", "\x7d"])

end BusPool.Pool
