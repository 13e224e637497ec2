import HostVitals.CollectorFault

/-!
# Kernel counters

The kernel publishes counters that only grow, until a device is reset. A meter is
marked with the increase between two polls.
-/

namespace HostVitals

open Text (readUnsigned)

/-- Counters are kept in 128 bits, below this bound. -/
def counterBound : Nat := UInt64.size * UInt64.size

/-- The greatest number of events that can be marked at once, which is the greatest signed
64-bit number. -/
def maxMark : Nat := UInt64.size / 2 - 1

/-- Reads a counter of `metric`. -/
def readCounter (metric location : String) (token : List Char) : Except CollectorFault Nat :=
  match readUnsigned counterBound token with
  | .ok n => .ok n
  | .error reason => .error (.badNumber metric location token reason)

/-- The increase of a counter, no more than can be marked at once. A counter that went
backwards has none. -/
def increase? (prev curr : Nat) : Option Nat :=
  if curr < prev then none else some (min (curr - prev) maxMark)

/-- A number of units of a given size, no more than can be marked at once. -/
def scaled (n size : Nat) : Nat :=
  min (n * size) maxMark

example : increase? 5 UInt64.size = some maxMark := by decide
example : increase? 10 9 = none := by decide

end HostVitals
