import HostVitals.BlockDevice.BlockSize
import HostVitals.BlockDevice.Row
import HostVitals.Collector
import HostVitals.Meter.Basic
import HostVitals.NameMap

/-!
# Block devices

The block devices listed when the collector was created, in the order of the source,
each with meters for its operations and for the bytes that they moved. A byte count is
the number of sectors times the size of a block.
-/

namespace HostVitals

open Text (lines join)
open Logged (report)

/-- What is counted of a device. -/
inductive Activity where
  | readOps
  | bytesRead
  | writeOps
  | bytesWritten
  deriving DecidableEq, Repr

/-- The name under which an activity is exposed. -/
def Activity.name : Activity → String
  | .readOps => "read-ops"
  | .bytesRead => "bytes-read"
  | .writeOps => "write-ops"
  | .bytesWritten => "bytes-written"

/-- A block device with its meters, and the counters from which increases are counted. -/
structure BlockDevice where
  name : String
  blockSize : Nat
  readOps : Meter
  bytesRead : Meter
  writeOps : Meter
  bytesWritten : Meter
  baseline : BlockDevice.Counters
  deriving DecidableEq

namespace BlockDevice

/-- A device that counts from the given values. -/
def seeded (now : Nat) (name : String) (blockSize : Nat) (values : Counters) :
    BlockDevice where
  name := name
  blockSize := blockSize
  readOps := .startingAt now
  bytesRead := .startingAt now
  writeOps := .startingAt now
  bytesWritten := .startingAt now
  baseline := values

/-- Marks a meter with an increase of operations. -/
def markOps (now : Nat) (meter : Meter) (prev curr : Nat) : Meter :=
  match increase? prev curr with
  | some n => meter.mark now (Int64.ofNat n)
  | none => meter

/-- Marks a meter with the bytes of an increase of sectors. -/
def markBytes (now : Nat) (blockSize : Nat) (meter : Meter) (prev curr : Nat) : Meter :=
  match increase? prev curr with
  | some n => meter.mark now (Int64.ofNat (scaled n blockSize))
  | none => meter

/-- Takes new values of the counters. One that went backwards marks nothing. -/
def mark (now : Nat) (device : BlockDevice) (values : Counters) : BlockDevice :=
  { device with
    readOps := markOps now device.readOps device.baseline.reads values.reads
    bytesRead := markBytes now device.blockSize device.bytesRead
      device.baseline.sectorsRead values.sectorsRead
    writeOps := markOps now device.writeOps device.baseline.writes values.writes
    bytesWritten := markBytes now device.blockSize device.bytesWritten
      device.baseline.sectorsWritten values.sectorsWritten
    baseline := values }

def meter (device : BlockDevice) : Activity → Meter
  | .readOps => device.readOps
  | .bytesRead => device.bytesRead
  | .writeOps => device.writeOps
  | .bytesWritten => device.bytesWritten

def setMeter (device : BlockDevice) (activity : Activity) (meter : Meter) : BlockDevice :=
  match activity with
  | .readOps => { device with readOps := meter }
  | .bytesRead => { device with bytesRead := meter }
  | .writeOps => { device with writeOps := meter }
  | .bytesWritten => { device with bytesWritten := meter }

def metrics : NameMap Activity :=
  .ofList ([.readOps, .bytesRead, .writeOps, .bytesWritten].map fun a : Activity => (a.name, a))

end BlockDevice

/-- The block device source and its devices. -/
structure BlockDevices where
  path : String
  devices : List BlockDevice
  deriving DecidableEq

namespace BlockDevices

def rows (text : List Char) : List BlockDevice.Row :=
  (lines text).filterMap BlockDevice.Row.ofLine?

/-- Adds the device of a row. A row whose counters are no numbers is passed over; of two
rows that would give one device the first counts. -/
def addRow (host : Host) (sysRoot location : String) (devices : List BlockDevice)
    (row : BlockDevice.Row) : Logged (List BlockDevice) :=
  if devices.any (·.name == row.name) then do
    report (.duplicateBlockDevice row.name)
    return devices
  else
    match row.counters location with
    | .error fault => do
      report (.blockDeviceLineSkipped fault)
      return devices
    | .ok values => do
      let size ← BlockDevice.readBlockSize host sysRoot row.name
      return devices ++ [.seeded host.now row.name size values]

/-- Reads the source for the first time. -/
def create (host : Host) (procRoot sysRoot : String) :
    Logged (Except CollectorFault BlockDevices) :=
  let path := join procRoot "diskstats"
  match host.readSource path with
  | .error fault => return .error fault
  | .ok text => do
    let devices ← (rows text.toList).foldlM (addRow host sysRoot path) []
    return .ok { path, devices }

/-- Takes the values of a device from the first row with its name. -/
def refreshDevice (now : Nat) (location : String) (rows : List BlockDevice.Row)
    (device : BlockDevice) : Logged BlockDevice :=
  match rows.find? (·.name == device.name) with
  | none => do
    report (.blockDeviceAbsent device.name)
    return device
  | some row =>
    match row.counters location with
    | .error fault => do
      report (.blockDeviceSkipped device.name fault)
      return device
    | .ok values => return device.mark now values

instance : Collector BlockDevices where
  name _ := "block_devices"
  refresh host disks :=
    match host.readSource disks.path with
    | .error fault => return ⟨disks, some fault⟩
    | .ok text => do
      let devices ← disks.devices.mapM
        (refreshDevice host.now disks.path (rows text.toList))
      return ⟨{ disks with devices }, none⟩

def find? (disks : BlockDevices) (name : String) : Option BlockDevice :=
  disks.devices.find? (·.name == name)

def setMeter (disks : BlockDevices) (name : String) (activity : Activity) (meter : Meter) :
    BlockDevices :=
  { disks with
    devices := disks.devices.map fun device =>
      if device.name = name then device.setMeter activity meter else device }

end BlockDevices

end HostVitals
