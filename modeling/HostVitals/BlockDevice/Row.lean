import HostVitals.Counter
import HostVitals.Text.Blank

/-!
# The block device table

One line per block device. A line describes a device when it has at least ten
tokens; the third is the name, and the fourth, sixth, eighth and tenth are counters.
-/

namespace HostVitals.BlockDevice

open Text (words)

/-- The counters of a device. -/
structure Counters where
  reads : Nat
  sectorsRead : Nat
  writes : Nat
  sectorsWritten : Nat
  deriving DecidableEq, Repr

/-- The tokens of a line that matter. -/
structure Row where
  name : String
  reads : List Char
  sectorsRead : List Char
  writes : List Char
  sectorsWritten : List Char
  deriving DecidableEq, Repr

namespace Row

/-- The row of a line, if the line is long enough. -/
def ofLine? (line : List Char) : Option Row :=
  match words line with
  | _ :: _ :: name :: reads :: _ :: sectorsRead :: _ :: writes :: _ :: sectorsWritten :: _ =>
    some { name := String.ofList name, reads, sectorsRead, writes, sectorsWritten }
  | _ => none

/-- The counters of a row, or the fault of the first that is no number. -/
def counters (location : String) (row : Row) : Except CollectorFault Counters := do
  let reads ← readCounter row.name location row.reads
  let sectorsRead ← readCounter row.name location row.sectorsRead
  let writes ← readCounter row.name location row.writes
  let sectorsWritten ← readCounter row.name location row.sectorsWritten
  return { reads, sectorsRead, writes, sectorsWritten }

end Row

end HostVitals.BlockDevice
