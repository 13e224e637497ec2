import HostVitals.BlockDevice.Devices
import HostVitals.LoadAverage
import HostVitals.Memory
import HostVitals.Metric
import HostVitals.Network.Devices
import HostVitals.Storage

/-!
# Instruments

The collectors of one monitor, and the metrics that can be read from them. A metric is
referred to by its place, so a reference stays good while its collector is refreshed.

* `Instruments.poll`: one pass over the collectors.
* `Instruments.readGauge`, `meter?`, `setMeter`: what a reference denotes.
* `Instruments.value`, `Instruments.sample`: the two ways to read a metric.
-/

namespace HostVitals

/-- The collectors of a monitor. Those whose source could not be read are left out. -/
structure Instruments where
  load : LoadAverage
  memory : Option MemoryInfo
  network : Option NetworkDevices
  disks : Option BlockDevices

/-- A gauge of a monitor. -/
inductive GaugeRef where
  | load (gauge : LoadGauge)
  | memory (key : String)
  | capacity (store : Store) (figure : Figure)
  deriving DecidableEq

/-- A meter of a monitor. -/
inductive MeterRef where
  | interface (name : String) (column : Nat)
  | disk (device : String) (activity : Activity)
  deriving DecidableEq

/-- A metric of a monitor. -/
inductive MetricRef where
  | gauge (ref : GaugeRef)
  | meter (ref : MeterRef)
  deriving DecidableEq

namespace Instruments

/-- The names of the collectors, in the order in which they are refreshed. -/
def collectors (i : Instruments) : List String :=
  [Collector.name i.load] ++ (i.memory.map Collector.name).toList ++
    (i.network.map Collector.name).toList ++ (i.disks.map Collector.name).toList

/-- There is something that a pass can read: a collector besides the load averages, which is built
from its source only, or a source of these. -/
def hasSource (host : Host) (i : Instruments) : Bool :=
  i.load.hasSource host || i.memory.isSome || i.network.isSome || i.disks.isSome

/-- Refreshes every collector once. -/
def poll (host : Host) (i : Instruments) : Logged Instruments := do
  let load ← Collector.poll host i.load
  let memory ← i.memory.mapM (Collector.poll host)
  let network ← i.network.mapM (Collector.poll host)
  let disks ← i.disks.mapM (Collector.poll host)
  return { load, memory, network, disks }

/-- Reads a gauge. A load gauge may read its sources again. -/
def readGauge (host : Host) (i : Instruments) : GaugeRef → Logged (GaugeValue × Instruments)
  | .load gauge => do
    let (values, load) ← i.load.read host
    return (.float (gauge.pick values), { i with load })
  | .memory key =>
    return (.integer ((i.memory.map (·.value key)).getD 0), i)
  | .capacity store figure => do
    let n ← store.gauge host.mounts figure
    return (.integer n, i)

def meter? (i : Instruments) : MeterRef → Option Meter
  | .interface name column => i.network.bind (·.meter? name column)
  | .disk device activity => (i.disks.bind (·.find? device)).map (·.meter activity)

def setMeter (i : Instruments) (ref : MeterRef) (meter : Meter) : Instruments :=
  match ref with
  | .interface name column =>
    { i with network := i.network.map (·.setMeter name column meter) }
  | .disk device activity =>
    { i with disks := i.disks.map (·.setMeter device activity meter) }

/-- Reads a metric as a collector reports it: a meter gives its count. -/
def value (host : Host) (i : Instruments) : MetricRef → Logged (MetricValue × Instruments)
  | .gauge ref => do
    let (v, i) ← i.readGauge host ref
    return (.gauge v, i)
  | .meter ref => return (.count ((i.meter? ref).map (·.count) |>.getD 0), i)

/-- Reads a metric as it is served: a meter gives a snapshot. -/
def sample (host : Host) (i : Instruments) : MetricRef → Logged (Sample × Instruments)
  | .gauge ref => do
    let (v, i) ← i.readGauge host ref
    return (.gauge v, i)
  | .meter ref =>
    let (view, meter) := ((i.meter? ref).getD (.startingAt host.now)).snapshot host.now
    return (.meter view, i.setMeter ref meter)

end Instruments

end HostVitals
