import BusPool.Flags.Basic

/-!
# Operations around a device transfer

Memory is made ready before a device touches it and taken back afterwards, each for reading or
for writing by the device. Both directions may be asked for at once, but never both phases.
-/

namespace BusPool

/-- Four named bits; nothing else is known. -/
def SyncOps.scheme : FlagScheme 8 where
  title := "SyncOps"
  named := [("PRE_READ", 1), ("POST_READ", 2), ("PRE_WRITE", 4), ("POST_WRITE", 8)]
  known := 15

/-- Which maintenance a transfer needs. -/
abbrev SyncOps := Flags SyncOps.scheme

namespace SyncOps

/-- What may be done before the transfer. -/
def pre : SyncOps := ⟨5⟩

/-- What may be done after the transfer. -/
def post : SyncOps := ⟨10⟩

/-- Whether both phases are asked for. -/
def hasBothPhases (ops : SyncOps) : Bool := ops.intersects pre && ops.intersects post

example : Flags.inspect (s := SyncOps.scheme) ⟨0x11⟩ = "SyncOps(PRE_READ | 0x10)" := by decide

example : Flags.inspect (s := SyncOps.scheme) ⟨0⟩ = "SyncOps(0x0)" := by decide

end SyncOps

end BusPool
