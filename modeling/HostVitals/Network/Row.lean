import HostVitals.Counter
import HostVitals.Text.Blank

/-!
# The interface table

The text of the network source: two header lines, of which the second names the
counter columns, and one row per interface.

* `readHeader`: the column names of the second header line.
* `Row.read`: an interface name and its counters.
-/

namespace HostVitals.Network

open Text (trim words isBlank)

/-! ## The header -/

/-- The column names of a header line. Its sections are set apart by bars; the second
names the counters of received traffic and the third those of sent traffic. -/
def readHeader (location : String) (header : List Char) :
    Except CollectorFault (List String) :=
  match (header.splitOn '|').map trim with
  | _ :: receive :: transmit :: _ =>
    let columns := (words receive).map (fun k => "receive." ++ String.ofList k) ++
      (words transmit).map (fun k => "transmit." ++ String.ofList k)
    if columns.isEmpty then .error (.malformed location .noCounters) else .ok columns
  | _ => .error (.malformed location (.headerSections header))

/-! ## Rows -/

/-- The counters of one interface, one per column. -/
structure Row where
  name : String
  counters : List Nat
  deriving DecidableEq, Repr

/-- The text before and after the last `sep`. -/
def splitAtLast (sep : Char) (cs : List Char) : Option (List Char × List Char) :=
  match cs.reverse.span (· != sep) with
  | (_, []) => none
  | (after, _ :: before) => some (before.reverse, after.reverse)

/-- An interface name as it is used in metric names: without outer blanks, and with
dots for its colons. -/
def cleanName (raw : List Char) : String :=
  String.ofList ((trim raw).map fun c => if c = ':' then '.' else c)

/-- Reads a row with the given number of counters. The last colon ends the name; the
counters may follow it at once. A bad counter is reported before a wrong number of
them. -/
def Row.read (columns : Nat) (location : String) (line : List Char) :
    Except CollectorFault Row :=
  match splitAtLast ':' line with
  | none => .error (.malformed location (.noSeparator line))
  | some (raw, rest) => do
    let name := cleanName raw
    if name.isEmpty then throw (.malformed location .emptyName)
    let counters ← (words rest).mapM (readCounter name location)
    if counters.length ≠ columns then
      throw (.malformed location (.counterCount name columns counters.length))
    return { name, counters }

/-- The line says something. -/
def isInhabited (line : List Char) : Bool :=
  !(trim line).isEmpty

/-- Of rows with one name the first. -/
def firstPerName : List Row → List Row
  | [] => []
  | row :: rows => row :: (firstPerName rows).filter fun other => other.name != row.name

example : cleanName " eth0:1 ".toList = "eth0.1" := by decide +kernel

end HostVitals.Network
