import HostVitals.Collector

/-!
# Probes

Collectors without a source, which count how often they are refreshed. They show what a
poll loop does.
-/

namespace HostVitals

/-- A collector that counts its refreshes, all of which succeed or all of which fail. -/
structure Probe where
  fails : Bool
  calls : Nat
  deriving DecidableEq, Repr

/-- A probe that has not been refreshed. -/
def Probe.fresh (fails : Bool) : Probe where
  fails := fails
  calls := 0

instance : Collector Probe where
  name probe := if probe.fails then "fail" else "count"
  refresh _ probe := return {
    state := { probe with calls := probe.calls + 1 }
    fault? := if probe.fails then some (.malformed "test" .alwaysFails) else none }

end HostVitals
