/-!
# Failures of growth

What can go wrong, without anybody being at fault, when a pool has to grow: the backing store
has no memory to give, or it gave memory in which no block fits.
-/

namespace BusPool

/-- Why a backing store gives no segment. -/
inductive StoreError where
  /-- There is no memory that devices can reach. -/
  | outOfMemory
  /-- There is none without waiting, and waiting was ruled out. -/
  | wouldBlock
  /-- The memory cannot be given one contiguous range of bus addresses. -/
  | unmappable
deriving DecidableEq, Repr

/-- What went wrong, for a reader. -/
def StoreError.message : StoreError → String
  | outOfMemory => "out of bus-addressable memory"
  | wouldBlock => "backing memory unavailable without blocking"
  | unmappable => "memory could not be mapped as a single contiguous bus range"

/-- The name of the cause. -/
def StoreError.name : StoreError → String
  | outOfMemory => "OutOfMemory"
  | wouldBlock => "WouldBlock"
  | unmappable => "Unmappable"

/-- Why an allocation yields no block. -/
inductive AllocError where
  /-- The segment that was imported for it cannot hold a block. -/
  | exhausted
  /-- The store gave no segment. -/
  | store (cause : StoreError)
deriving DecidableEq, Repr

namespace AllocError

/-- What went wrong, for a reader. -/
def message : AllocError → String
  | exhausted => "dma pool exhausted"
  | store cause => "failed to import a new segment: " ++ cause.message

/-- The name of the cause, that of the store's own behind a dot. -/
def name : AllocError → String
  | exhausted => "Exhausted"
  | store cause => "Backing." ++ cause.name

/-- The cause as a structured value. -/
def inspect : AllocError → String
  | exhausted => "Exhausted"
  | store cause => "Backing(" ++ cause.name ++ ")"

/-- Whether the pool grew and still holds no block. -/
def isExhausted (e : AllocError) : Bool := e == exhausted

end AllocError

end BusPool
