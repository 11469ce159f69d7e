import BusPool.Config
import BusPool.Failure
import BusPool.Flags.Alloc
import BusPool.Scenario.Arena
import BusPool.Scenario.Lock
import BusPool.Scenario.Pool.Play
import BusPool.Scenario.Segments
import BusPool.Proofs.Arena.Canonical
import BusPool.Proofs.Arena.Faults
import BusPool.Proofs.Arena.FirstFit
import BusPool.Proofs.Arena.Sufficiency
import BusPool.Proofs.Pool.Agreement
import BusPool.Proofs.Pool.BlockMemory
import BusPool.Proofs.Pool.GoodUse
import BusPool.Proofs.Pool.LazyGrowth
import BusPool.Proofs.Pool.RacingGrowth
import BusPool.Proofs.Pool.Refinement
import BusPool.Proofs.Pool.Requests
import BusPool.Proofs.Pool.Synchronize
import BusPool.Proofs.Pool.Transfers
import BusPool.Proofs.Pool.Teardown
import BusPool.Proofs.Pool.Translation
import BusPool.Proofs.Pool.Releases
import BusPool.Proofs.Pool.Bystanders
import BusPool.Proofs.Pool.FailedGrowth
import BusPool.Segment.History
import BusPool.Proofs.Segment.Histories
import BusPool.Proofs.Rounding
import BusPool.Proofs.Segment.Lookup
import BusPool.Proofs.SpinLock.Exclusion
import BusPool.Proofs.SpinLock.Completion
import BusPool.Proofs.Pool.Safety
