import HostVitals.Host
import HostVitals.Logged

/-!
# Collectors

A collector reads a source of the host and keeps metrics up to date by reading it
again. A refresh gives the new state and, if it failed, the fault; a poll refreshes
collectors one after the other, and none is passed over because another failed.
-/

namespace HostVitals

/-- The outcome of a refresh: the state after it, and what went wrong, if anything. -/
structure Refreshed (κ : Type) where
  state : κ
  fault? : Option CollectorFault

/-- Collectors of one kind. -/
class Collector (κ : Type) where
  /-- The name in the log. -/
  name : κ → String
  /-- Reads the source again. -/
  refresh : Host → κ → Logged (Refreshed κ)

namespace Collector

variable {κ : Type} [Collector κ]

/-- Refreshes a collector as part of a poll: a fault is logged and goes no further. -/
def poll (host : Host) (c : κ) : Logged κ := do
  let outcome ← refresh host c
  match outcome.fault? with
  | none => pure ()
  | some fault => Logged.report (.refreshFailed (name c) fault)
  return outcome.state

/-- One pass over collectors, each refreshed once, in order. -/
def pollAll (host : Host) (cs : List κ) : Logged (List κ) :=
  cs.mapM (poll host)

@[simp] theorem value_poll (host : Host) (c : κ) :
    (poll host c).value = (refresh host c).value.state := by
  simp only [poll, Logged.value_bind]
  split <;> rfl

/-- A pass refreshes every collector once, whichever of them fail. -/
theorem value_pollAll (host : Host) (cs : List κ) :
    (pollAll host cs).value = cs.map fun c => (refresh host c).value.state := by
  rw [pollAll, Logged.value_mapM]
  exact List.map_congr_left fun c _ => value_poll host c

end Collector

end HostVitals
