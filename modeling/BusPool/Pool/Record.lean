import BusPool.Config
import BusPool.Failure
import BusPool.Flags.Sync

/-!
# Log records of a pool

A pool reports what it does. Each kind of record has its level and its text; every text is
preceded by the name of the pool.
-/

namespace BusPool.Pool

/-- What a pool reports. -/
inductive Record where
  /-- The pool was created. -/
  | created (config : Config)
  /-- The store gave no segment of this size. -/
  | importFailed (minSize : Word) (cause : StoreError)
  /-- A segment was added, and there are so many now. -/
  | imported (extent : Extent) (total : Nat)
  /-- The segment just added has no room for a block. -/
  | unplaceable (extent : Extent)
  /-- A block was handed out. -/
  | allocated (handle : Address)
  /-- A block was taken back. -/
  | freed (handle : Address)
  /-- The store is asked to prepare a transfer or to finish it. -/
  | synced (handle : Address) (ops : SyncOps)
  /-- The pool is being closed on request. -/
  | destroying
  /-- The pool is being closed while blocks are out. -/
  | stillAllocated (bytes : Word)
  /-- All segments were given back to the store. -/
  | released (segments : Nat)
deriving DecidableEq

namespace Record

/-- How much attention a record asks for. -/
def level : Record → String
  | created _ | imported _ _ | destroying | released _ => "DEBUG"
  | importFailed _ _ | unplaceable _ | stillAllocated _ => "WARN"
  | allocated _ | freed _ | synced _ _ => "TRACE"

/-- A size in a text. -/
private def size (w : Word) : String := Text.Hex.plain w.toNat

/-- What a record says. -/
def text : Record → String
  | created c =>
    "created (block " ++ size c.blockSize ++ ", align " ++ size c.align ++ ", boundary "
      ++ size c.boundary ++ ")"
  | importFailed minSize cause =>
    "failed to import " ++ size minSize ++ " byte segment: " ++ cause.message
  | imported extent total =>
    "imported segment " ++ extent.display ++ " (" ++ size extent.len ++ " bytes, "
      ++ toString total ++ " total)"
  | unplaceable extent => "imported segment " ++ extent.display ++ " cannot hold a block"
  | allocated handle => "allocated " ++ handle.display
  | freed handle => "freed " ++ handle.display
  | synced handle ops => "sync " ++ handle.display ++ " " ++ ops.inspect
  | destroying => "destroying"
  | stillAllocated bytes => "destroyed with " ++ size bytes ++ " bytes still allocated"
  | released segments => "released " ++ toString segments ++ " segments"

/-- A record of the pool of this name. -/
def render (pool : String) (r : Record) : String :=
  r.level ++ " dma pool " ++ pool ++ ": " ++ r.text

end Record

end BusPool.Pool
