import HostVitals.Filter
import HostVitals.Monitor.Instruments
import HostVitals.PollLoop

/-!
# Monitors

A monitor builds every collector that it can, merges their metrics into one namespace,
and refreshes them together.

* `Monitor.build`: the collectors, and the namespace of bundles.
* `Monitor.metrics`: the namespace under dotted names.
* `Monitor.start`, `settle`, `poll`, `shutdown`: the life of a monitor.
-/

namespace HostVitals

open Logged (report)

/-- Where filesystems are listed. -/
inductive StorageSource where
  /-- The mount table of the system. -/
  | mounted
  | fixed (stores : List Store)
  deriving DecidableEq, Repr

/-- What a monitor watches, and how often. Times are in nanoseconds. -/
structure MonitorConfig where
  period : Nat
  loadMinAge : Nat
  memoryKeys : List String
  storageFilter : NameFilter
  interfaceFilter : NameFilter
  procRoot : String
  sysRoot : String
  storage : StorageSource

def MonitorConfig.default : MonitorConfig where
  period := 10 * second
  loadMinAge := 10 * second
  memoryKeys := MemoryInfo.defaultKeys
  storageFilter := .only NameFilter.defaultStorageTypes
  interfaceFilter := .defaultInterfaces
  procRoot := "/proc"
  sysRoot := "/sys"
  storage := .mounted

/-- The metrics of one device or source, by name. -/
abbrev Bundle := NameMap MetricRef

/-- Bundles by namespace key. -/
abbrev Namespace := NameMap Bundle

/-- Collectors with the namespace of their metrics, and the loop that polls them. -/
structure Monitor where
  instruments : Instruments
  bundles : Namespace
  period : Nat
  loop : Option PollLoop

namespace Monitor

/-! ## Keys and bundles -/

def systemKey : String := "system"

def memoryKey : String := "memory"

def interfaceKey (name : String) : String := "iface." ++ name

def blockDeviceKey (name : String) : String := "blockdev." ++ name

def loadBundle : Bundle :=
  LoadAverage.gauges.map fun _ gauge => .gauge (.load gauge)

def memoryBundle (memory : MemoryInfo) : Bundle :=
  memory.gauges.map fun _ key => .gauge (.memory key)

def interfaceBundle (network : NetworkDevices) (name : String) : Bundle :=
  network.metrics.map fun _ column => .meter (.interface name column)

def storeBundle (store : Store) : Bundle :=
  Store.metrics.map fun _ figure => .gauge (.capacity store figure)

def blockDeviceBundle (name : String) : Bundle :=
  BlockDevice.metrics.map fun _ activity => .meter (.disk name activity)

/-! ## Building -/

/-- Adds a bundle, unless its key is taken. -/
def addBundle (key : String) (bundle : Bundle) (ns : Namespace) : Logged Namespace :=
  if ns.contains key then do
    report (.duplicateNamespaceKey key)
    return ns
  else return ns.insert key bundle

/-- Adds the interfaces that the filter accepts. -/
def addInterfaces (filter : NameFilter) (network : NetworkDevices) (ns : Namespace) :
    Logged Namespace :=
  network.interfaces.names.foldlM (fun ns name =>
    if filter.accepts name then addBundle (interfaceKey name) (interfaceBundle network name) ns
    else do
      report (.interfaceFilteredOut name)
      return ns) ns

/-- Adds a filesystem of an accepted type. One that wins its key backs a block device. -/
def addStore (filter : NameFilter) (state : Namespace × List String) (store : Store) :
    Logged (Namespace × List String) :=
  let (ns, backing) := state
  if filter.accepts store.fsType then do
    let won := !ns.contains store.key
    let ns ← addBundle store.key (storeBundle store) ns
    return (ns, if won then backing ++ [store.deviceName] else backing)
  else do
    report (.filesystemFilteredOut store.key store.fsType)
    return (ns, backing)

/-- Adds the block devices behind filesystems. -/
def addBlockDevices (backing : List String) (disks : BlockDevices) (ns : Namespace) :
    Logged Namespace :=
  (disks.devices.filter fun device => backing.contains device.name).foldlM (fun ns device =>
    addBundle (blockDeviceKey device.name) (blockDeviceBundle device.name) ns) ns

/-- Keeps a collector that could be built; reports why one could not. -/
def orLeaveOut {κ : Type} (event : CollectorFault → Event) :
    Except CollectorFault κ → Logged (Option κ)
  | .ok c => return some c
  | .error fault => do
    report (event fault)
    return none

/-- Adds the bundles of a collector, if it could be built. -/
def addFrom {κ : Type} (add : κ → Namespace → Logged Namespace) (collector : Option κ)
    (ns : Namespace) : Logged Namespace :=
  match collector with
  | some c => add c ns
  | none => return ns

def stores (host : Host) : StorageSource → List Store
  | .mounted => host.mounts.listed.map .ofMount
  | .fixed stores => stores

/-- Builds every collector and merges their bundles, in this order: load, memory,
interfaces, filesystems, block devices. -/
def build (host : Host) (config : MonitorConfig) : Logged Monitor := do
  let load ← LoadAverage.create host config.procRoot config.loadMinAge
  let ns ← addBundle systemKey loadBundle .empty
  let memory ← orLeaveOut .memoryLeftOut
    (← MemoryInfo.create host config.procRoot config.memoryKeys)
  let ns ← addFrom (fun memory => addBundle memoryKey (memoryBundle memory)) memory ns
  let network ← orLeaveOut .networkLeftOut (← NetworkDevices.create host config.procRoot)
  let ns ← addFrom (addInterfaces config.interfaceFilter) network ns
  let (ns, backing) ← (stores host config.storage).foldlM (addStore config.storageFilter) (ns, [])
  let disks ← orLeaveOut .blockDevicesLeftOut
    (← BlockDevices.create host config.procRoot config.sysRoot)
  let ns ← addFrom (addBlockDevices backing) disks ns
  let instruments : Instruments := { load, memory, network, disks }
  report (.monitorBuilt ns.size instruments.collectors.length)
  return { instruments, bundles := ns, period := config.period, loop := none }

/-! ## Metrics -/

/-- Every metric under its dotted name, key and metric name joined by a dot. Where two
spell the same name, the later in the order of keys and names stays. -/
def metrics (monitor : Monitor) : NameMap MetricRef :=
  .ofList (monitor.bundles.entries.flatMap fun (key, bundle) =>
    bundle.entries.map fun (name, ref) => (key ++ "." ++ name, ref))

/-- Reads a metric as a collector reports it. -/
def value (host : Host) (monitor : Monitor) (ref : MetricRef) :
    Logged (MetricValue × Monitor) := do
  let (v, instruments) ← monitor.instruments.value host ref
  return (v, { monitor with instruments })

/-- Reads a metric as it is served. -/
def sample (host : Host) (monitor : Monitor) (ref : MetricRef) : Logged (Sample × Monitor) := do
  let (s, instruments) ← monitor.instruments.sample host ref
  return (s, { monitor with instruments })

/-! ## Life -/

/-- Refreshes every collector once. -/
def poll (host : Host) (monitor : Monitor) : Logged Monitor := do
  let instruments ← monitor.instruments.poll host
  return { monitor with instruments }

def isRunning (monitor : Monitor) : Bool :=
  monitor.loop.isSome

/-- Makes the passes that are due. They are made in the background, so their events are not
reported here. -/
def settle (host : Host) (monitor : Monitor) : Monitor :=
  match monitor.loop with
  | none => monitor
  | some loop =>
    let (instruments, loop) := (loop.run (Instruments.poll host) host.now monitor.instruments).value
    { monitor with instruments, loop := some loop }

/-- Starts the loop, whose first pass is due at once; a loop that runs already is left alone.
The loop makes this pass in its own thread as soon as that runs, and nobody waits for it, so it
may come at any time up to when the loop is next settled. If there is a source to read, the pass
stands here at the start itself, so that whatever is read next shows it. If there is none, no
metric can show it, and it stays due. -/
def start (host : Host) (monitor : Monitor) : Except IoFault Monitor :=
  match monitor.loop with
  | some _ => .ok monitor
  | none => do
    let loop ← PollLoop.start monitor.period host.now
    let started := { monitor with loop := some loop }
    return if monitor.instruments.hasSource host then started.settle host else started

/-- Ends the loop. Metrics keep their last values. -/
def shutdown (monitor : Monitor) : Logged Monitor :=
  match monitor.loop with
  | none => return monitor
  | some _ => do
    report .monitorStopped
    return { monitor with loop := none }

/-- Builds a monitor and starts it. One that cannot be started is reported and kept. -/
def launch (host : Host) (config : MonitorConfig) : Logged Monitor := do
  let monitor ← build host config
  match monitor.start host with
  | .ok started => return started
  | .error fault => do
    report (.loopNotStarted fault)
    return monitor

end Monitor

end HostVitals
