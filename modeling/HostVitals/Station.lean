import HostVitals.Monitor.Basic

/-!
# Stations

A station is one host with everything that measures it: free-standing meters and
counters, monitors, and the registry under whose names they are served. Metrics are
referred to by number and place and are never copied, so whatever is registered stays
live.

* `Station.register`, `publish`: the first metric under a name stays for ever.
* `Station.sample`, `sampleAll`: what is served, which may change what was read.
-/

namespace HostVitals

open Logged (report)

/-- A gauge that grows by one whenever it is read. -/
structure ReadCounter where
  /-- What the first reading gives. -/
  first : Nat
  /-- How often it has been read. -/
  reads : Nat
  deriving DecidableEq, Repr

/-- What the next reading gives, as a 64-bit word. -/
def ReadCounter.value (counter : ReadCounter) : Nat :=
  (counter.first + counter.reads) % UInt64.size

/-- A registered metric. Meters, counters and monitors go by their number in the station. -/
inductive Handle where
  | constant (value : GaugeValue)
  | counter (id : Nat)
  | meter (id : Nat)
  | published (monitor : Nat) (ref : MetricRef)
  deriving DecidableEq

/-- A host, what measures it, and the registry. -/
structure Station where
  host : Host
  meters : List Meter
  counters : List ReadCounter
  monitors : List Monitor
  registry : NameMap Handle

namespace Station

/-- A station where nothing measures an empty host, at the start of the clock. -/
def empty : Station where
  host := { now := 0, files := .empty, mounts := .empty }
  meters := []
  counters := []
  monitors := []
  registry := .empty

def advance (s : Station) (time : Nat) : Station :=
  { s with host := { s.host with now := s.host.now + time } }

/-! ## Adding -/

/-- Adds a meter that starts now; its number is that of the meters before. -/
def addMeter (s : Station) : Station :=
  { s with meters := s.meters ++ [.startingAt s.host.now] }

/-- Adds a counter; its number is that of the counters before. -/
def addCounter (s : Station) (first : Nat) : Station :=
  { s with counters := s.counters ++ [{ first, reads := 0 }] }

/-- Adds a monitor; its number is that of the monitors before. -/
def addMonitor (s : Station) (monitor : Monitor) : Station :=
  { s with monitors := s.monitors ++ [monitor] }

def setMonitor (s : Station) (id : Nat) (monitor : Monitor) : Station :=
  { s with monitors := s.monitors.set id monitor }

def mark (s : Station) (id : Nat) (n : Int64) : Station :=
  { s with meters := s.meters.modify id fun meter => meter.mark s.host.now n }

/-- Registers a metric, unless its name is taken. -/
def register (s : Station) (name : String) (handle : Handle) : Logged Station :=
  if s.registry.contains name then do
    report (.metricAlreadyRegistered name)
    return s
  else return { s with registry := s.registry.insert name handle }

/-- Registers every metric of a monitor under its dotted name. -/
def publish (s : Station) (id : Nat) : Logged Station :=
  match s.monitors[id]? with
  | none => return s
  | some monitor =>
    monitor.metrics.entries.foldlM (fun s (name, ref) => s.register name (.published id ref)) s

/-! ## Sampling -/

/-- Samples a metric. A counter grows by this, a meter makes the ticks due, and a load
gauge may read its sources again. -/
def sample (handle : Handle) : StateT Station Logged Sample := fun s =>
  match handle with
  | .constant value => return (.gauge value, s)
  | .counter id =>
    let value := (s.counters[id]?.map (·.value)).getD 0
    let counters := s.counters.modify id fun counter => { counter with reads := counter.reads + 1 }
    return (.gauge (.integer value), { s with counters })
  | .meter id =>
    let (view, meter) := (s.meters[id]?.getD (.startingAt s.host.now)).snapshot s.host.now
    return (.meter view, { s with meters := s.meters.set id meter })
  | .published id ref =>
    match s.monitors[id]? with
    | none => return (.gauge (.integer 0), s)
    | some monitor => do
      let (sampled, monitor) ← monitor.sample s.host ref
      return (sampled, s.setMonitor id monitor)

/-- Samples every registered metric, in the order of the names. -/
def sampleAll : StateT Station Logged (List (String × Sample)) := do
  let s ← get
  s.registry.entries.mapM fun (name, handle) => do
    let sampled ← sample handle
    return (name, sampled)

def sampleNamed (name : String) : StateT Station Logged (Option Sample) := do
  let s ← get
  (s.registry.find? name).mapM sample

/-- Samples in JSON, by name. -/
def jsonOfSamples (samples : List (String × Sample)) : Json :=
  .object (samples.map fun (name, sampled) => (name, sampled.json))

end Station

end HostVitals
