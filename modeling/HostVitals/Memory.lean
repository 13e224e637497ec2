import HostVitals.Collector
import HostVitals.NameMap
import HostVitals.Text.Blank
import HostVitals.Text.LowerCase

/-!
# Memory counters

A table of named integers, one per line, of which the listed keys are exposed as
gauges. Each refresh replaces the whole table, so the gauges always show one text; an
unreadable source leaves an empty table, and every gauge at zero.
-/

namespace HostVitals

open Text (fields lines isBlank readUnsigned join lowerCase NumeralFault)
open Logged (report)

/-- Values in the table are below this bound. -/
def memoryBound : Nat := UInt64.size

/-- What a line of the source says. -/
inductive MemoryLine where
  /-- It has fewer than two fields. -/
  | short
  /-- Its second field is no value. -/
  | bad (key value : String) (fault : NumeralFault)
  | entry (key : String) (value : Nat)
  deriving DecidableEq, Repr

namespace MemoryLine

/-- Fields are set apart by colons and blanks. -/
def isSeparator (c : Char) : Bool :=
  c == ':' || isBlank c

def ofText (line : List Char) : MemoryLine :=
  match fields isSeparator line with
  | key :: value :: _ =>
    match readUnsigned memoryBound value with
    | .ok n => .entry (String.ofList key) n
    | .error fault => .bad (String.ofList key) (String.ofList value) fault
  | _ => .short

/-- The event for a line that is passed over with a word about it. -/
def event? : MemoryLine → Option Event
  | .bad key value fault => some (.memoryLineSkipped key value fault)
  | _ => none

/-- Takes a line into a table. -/
def addTo (table : NameMap Nat) : MemoryLine → NameMap Nat
  | .entry key value => table.insert key value
  | _ => table

end MemoryLine

/-- The memory source, the table of its last text, and the exposed keys by gauge name. -/
structure MemoryInfo where
  path : String
  current : NameMap Nat
  gauges : NameMap String

namespace MemoryInfo

/-- The keys exposed when none are configured. -/
def defaultKeys : List String :=
  ["MemTotal", "MemFree", "Buffers", "Cached", "SwapCached", "Active", "Inactive", "SwapTotal",
    "SwapFree"]

/-- The table of a text. Of two lines with one key the later counts. -/
def table (text : List Char) : NameMap Nat :=
  ((lines text).map .ofText).foldl MemoryLine.addTo .empty

def parse (text : String) : Logged (NameMap Nat) :=
  ⟨table text.toList, ((lines text.toList).map .ofText).filterMap MemoryLine.event?⟩

/-- Adds a gauge for a key, under its lower-case form. The first key of a form stays. -/
def addGauge (gauges : NameMap String) (key : String) : Logged (NameMap String) :=
  let name := lowerCase key
  if gauges.contains name then do
    report (.duplicateMemoryGauge key name)
    return gauges
  else return gauges.insert name key

/-- Reads the source for the first time. -/
def create (host : Host) (procRoot : String) (keys : List String) :
    Logged (Except CollectorFault MemoryInfo) :=
  let path := join procRoot "meminfo"
  match host.readSource path with
  | .error fault => return .error fault
  | .ok text => do
    let current ← parse text
    let gauges ← keys.foldlM addGauge .empty
    return .ok { path, current, gauges }

/-- The value of a key in the last text; zero if it is not there. -/
def value (memory : MemoryInfo) (key : String) : Nat :=
  (memory.current.find? key).getD 0

def gauge? (memory : MemoryInfo) (name : String) : Option Nat :=
  (memory.gauges.find? name).map memory.value

instance : Collector MemoryInfo where
  name _ := "memory_info"
  refresh host memory :=
    match host.readSource memory.path with
    | .error fault => return ⟨{ memory with current := .empty }, some fault⟩
    | .ok text => do
      let current ← parse text
      return ⟨{ memory with current }, none⟩

end MemoryInfo

end HostVitals
