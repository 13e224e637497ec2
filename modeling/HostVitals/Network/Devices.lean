import HostVitals.Collector
import HostVitals.NameMap
import HostVitals.Network.Interface
import HostVitals.Network.Row

/-!
# Network devices

The interfaces listed when the collector was created, each with a meter per counter
column. A refresh reads the whole table before it marks anything, so a malformed row
changes nothing.
-/

namespace HostVitals

open Text (lines join)
open Logged (report)
open Network

/-- The network source, its column names, and the interfaces by name. -/
structure NetworkDevices where
  path : String
  columns : List String
  interfaces : NameMap Interface

namespace NetworkDevices

/-- The number of lines above the rows. -/
def headerLines : Nat := 2

/-- The lines below the header that say something. -/
def bodyLines (text : List Char) : List (List Char) :=
  ((lines text).drop headerLines).filter isInhabited

/-- Adds the interface of a line. A malformed line is passed over; of two lines with one
name the first counts. -/
def addLine (now : Nat) (columns : Nat) (location : String)
    (interfaces : NameMap Interface) (line : List Char) : Logged (NameMap Interface) :=
  match Row.read columns location line with
  | .error fault => do
    report (.interfaceLineSkipped fault)
    return interfaces
  | .ok row =>
    if interfaces.contains row.name then do
      report (.duplicateInterface row.name)
      return interfaces
    else return interfaces.insert row.name (.seeded now row.name row.counters)

/-- Reads the source for the first time. -/
def create (host : Host) (procRoot : String) : Logged (Except CollectorFault NetworkDevices) :=
  let path := join (join procRoot "net") "dev"
  match host.readSource path with
  | .error fault => return .error fault
  | .ok text =>
    match lines text.toList with
    | _ :: header :: _ =>
      match readHeader path header with
      | .error fault => return .error fault
      | .ok columns => do
        let interfaces ← (bodyLines text.toList).foldlM
          (addLine host.now columns.length path) .empty
        return .ok { path, columns, interfaces }
    | _ => return .error (.malformed path .noHeader)

/-- All rows of a text, or the first fault. -/
def readRows (columns : Nat) (location : String) (text : List Char) :
    Except CollectorFault (List Row) :=
  if (lines text).length < headerLines then .error (.malformed location .noHeader)
  else (bodyLines text).mapM (Row.read columns location)

/-- Marks the interface of a row, if it is known. -/
def markRow (now : Nat) (interfaces : NameMap Interface) (row : Row) :
    Logged (NameMap Interface) :=
  match interfaces.find? row.name with
  | none => return interfaces
  | some interface => do
    let interface ← interface.mark now row.counters
    return interfaces.insert row.name interface

/-- The rows of the source as it stands. -/
def currentRows (host : Host) (devices : NetworkDevices) : Except CollectorFault (List Row) := do
  let text ← host.readSource devices.path
  readRows devices.columns.length devices.path text.toList

instance : Collector NetworkDevices where
  name _ := "network_devices"
  refresh host devices :=
    match devices.currentRows host with
    | .error fault => return ⟨devices, some fault⟩
    | .ok rows => do
      let interfaces ← (firstPerName rows).foldlM (markRow host.now) devices.interfaces
      return ⟨{ devices with interfaces }, none⟩

/-- The columns by metric name. Of two columns with one name the later is exposed. -/
def metrics (devices : NetworkDevices) : NameMap Nat :=
  .ofList devices.columns.zipIdx

/-- The meter of an interface in a column. -/
def meter? (devices : NetworkDevices) (interface : String) (column : Nat) : Option Meter := do
  let found ← devices.interfaces.find? interface
  let column ← found.columns[column]?
  return column.meter

/-- Replaces the meter of an interface in a column. -/
def setMeter (devices : NetworkDevices) (interface : String) (column : Nat) (meter : Meter) :
    NetworkDevices :=
  { devices with
    interfaces := devices.interfaces.modify interface fun found =>
      { found with columns := found.columns.modify column ({ · with meter := meter }) } }

end NetworkDevices

end HostVitals
