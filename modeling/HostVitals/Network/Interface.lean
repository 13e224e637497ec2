import HostVitals.Counter
import HostVitals.Logged
import HostVitals.Meter.Basic

/-!
# Interfaces

An interface has one column per counter of the table: a meter, and the value from
which the next increase is counted.
-/

namespace HostVitals.Network

open Logged (report)

/-- A counter of an interface. -/
structure Column where
  meter : Meter
  /-- The value of the counter when it was last seen. -/
  baseline : Nat
  deriving DecidableEq

/-- Takes a new value of the counter: marks the increase, if the counter did not go
backwards, and counts on from the new value. -/
def Column.take (now : Nat) (interface : String) (column : Column) (value : Nat) :
    Logged Column :=
  match increase? column.baseline value with
  | some n =>
    return { meter := column.meter.mark now (Int64.ofNat n), baseline := value }
  | none => do
    report (.counterWentBackwards interface column.baseline value)
    return { column with baseline := value }

/-- An interface with its columns. -/
structure Interface where
  name : String
  columns : List Column
  deriving DecidableEq

namespace Interface

/-- An interface that counts from the given values. -/
def seeded (now : Nat) (name : String) (values : List Nat) : Interface where
  name := name
  columns := values.map fun value => { meter := .startingAt now, baseline := value }

/-- Takes new values, one per column. -/
def mark (now : Nat) (interface : Interface) (values : List Nat) : Logged Interface := do
  let columns ← (interface.columns.zip values).mapM fun (column, value) =>
    column.take now interface.name value
  return { interface with columns }

/-- The values from which increases are counted. -/
def baseline (interface : Interface) : List Nat :=
  interface.columns.map (·.baseline)

end Interface

end HostVitals.Network
