import HostVitals.Collector
import HostVitals.PollLoop

/-!
# Scheduled collectors

A list of collectors that a loop refreshes.
-/

namespace HostVitals

/-- Collectors, and the loop that refreshes them while it runs. -/
structure Schedule (κ : Type) where
  collectors : List κ
  loop : Option PollLoop

namespace Schedule

variable {κ : Type} [Collector κ]

/-- Makes the passes that are due. -/
def settle (host : Host) (schedule : Schedule κ) : Logged (Schedule κ) :=
  match schedule.loop with
  | none => return schedule
  | some loop => do
    let (collectors, loop) ← loop.run (Collector.pollAll host) host.now schedule.collectors
    return { collectors, loop := some loop }

/-- Starts a loop over collectors and makes its first pass. -/
def start (host : Host) (period : Nat) (collectors : List κ) :
    Except IoFault (Logged (Schedule κ)) := do
  let loop ← PollLoop.start period host.now
  return settle host { collectors, loop := some loop }

/-- Ends the loop. The collectors keep their state. -/
def shutdown (schedule : Schedule κ) : Schedule κ :=
  { schedule with loop := none }

/-- The loop runs. -/
def isRunning (schedule : Schedule κ) : Bool :=
  schedule.loop.isSome

end Schedule

end HostVitals
