import HostVitals.Collector
import HostVitals.NameMap
import HostVitals.Text.Blank

/-!
# Load averages and uptime

Two sources give five floats: the run-queue averages over one, five and fifteen
minutes, and the seconds since the start and spent idle. What was parsed last is
kept, and read again only when it has reached a minimum age. A source that cannot be
read, or has a bad token among those wanted, gives zeros; it does not affect the
other.
-/

namespace HostVitals

open Text (words join)
open Decimal (readFloat FloatFault)
open Logged (report)

/-- One parse of the two sources. -/
structure LoadValues where
  oneMinute : Float
  fiveMinute : Float
  fifteenMinute : Float
  uptime : Float
  idle : Float
  deriving DecidableEq

/-- The gauges. -/
inductive LoadGauge where
  | oneMinute
  | fiveMinute
  | fifteenMinute
  | uptime
  | idle
  deriving DecidableEq, Repr

/-- The name under which a gauge is exposed. -/
def LoadGauge.name : LoadGauge → String
  | .oneMinute => "load-avg-1m"
  | .fiveMinute => "load-avg-5m"
  | .fifteenMinute => "load-avg-15m"
  | .uptime => "system-uptime"
  | .idle => "processor-idle-time"

/-- The field that a gauge shows. -/
def LoadGauge.pick : LoadGauge → LoadValues → Float
  | .oneMinute => (·.oneMinute)
  | .fiveMinute => (·.fiveMinute)
  | .fifteenMinute => (·.fifteenMinute)
  | .uptime => (·.uptime)
  | .idle => (·.idle)

/-- The load sources with the last parse of them. -/
structure LoadAverage where
  loadPath : String
  uptimePath : String
  /-- A parse is used again while it is younger than this, in nanoseconds. -/
  minAge : Nat
  last : Option (Nat × LoadValues)
  parses : Nat
  deriving DecidableEq

namespace LoadAverage

/-! ## Parsing -/

/-- The first `n` floats of a text. Missing ones are zero; what follows is not looked at. -/
def parseFields (n : Nat) (text : List Char) : Except FloatFault (List Float) := do
  let found ← ((words text).take n).mapM readFloat
  return found ++ List.replicate (n - found.length) 0.0

/-- The first `n` floats of a source, or `n` zeros. -/
def readFields (n : Nat) (host : Host) (path : String) : Logged (List Float) :=
  let zeros := List.replicate n 0.0
  match host.files.readText path with
  | .error fault => do
    report (.loadSourceUnreadable path fault)
    return zeros
  | .ok text =>
    match parseFields n text.toList with
    | .error fault => do
      report (.loadValueUnparseable path fault)
      return zeros
    | .ok found => return found

/-- Parses both sources. -/
def parse (host : Host) (loadPath uptimePath : String) : Logged LoadValues := do
  let load ← readFields 3 host loadPath
  let time ← readFields 2 host uptimePath
  return {
    oneMinute := load.getD 0 0.0
    fiveMinute := load.getD 1 0.0
    fifteenMinute := load.getD 2 0.0
    uptime := time.getD 0 0.0
    idle := time.getD 1 0.0 }

/-! ## Reading -/

/-- Looks for the sources below the directory of kernel texts; nothing is parsed yet. -/
def create (host : Host) (procRoot : String) (minAge : Nat) : Logged LoadAverage := do
  let loadPath := join procRoot "loadavg"
  let uptimePath := join procRoot "uptime"
  unless host.files.holds loadPath do report (.loadSourceMissing loadPath)
  unless host.files.holds uptimePath do report (.loadSourceMissing uptimePath)
  return { loadPath, uptimePath, minAge, last := none, parses := 0 }

/-- Whether the sources are there makes no difference to what is created. -/
theorem value_create (host : Host) (procRoot : String) (minAge : Nat) :
    (create host procRoot minAge).value =
      { loadPath := join procRoot "loadavg", uptimePath := join procRoot "uptime", minAge,
        last := none, parses := 0 } := by
  simp only [create]
  split <;> split <;> rfl

/-- One of the sources is there. -/
def hasSource (host : Host) (load : LoadAverage) : Bool :=
  host.files.holds load.loadPath || host.files.holds load.uptimePath

/-- The last parse, if it may still be used. -/
def fresh? (load : LoadAverage) (now : Nat) : Option LoadValues :=
  match load.last with
  | none => none
  | some (parsed, values) => if now - parsed < load.minAge then some values else none

/-- The current values: those of the last parse while it is fresh, or of a new one. -/
def read (host : Host) (load : LoadAverage) : Logged (LoadValues × LoadAverage) :=
  match load.fresh? host.now with
  | some values => return (values, load)
  | none => do
    let values ← parse host load.loadPath load.uptimePath
    let parses := load.parses + 1
    report (.loadSourcesParsed parses)
    return (values, { load with last := some (host.now, values), parses })

/-- The gauges by name. -/
def gauges : NameMap LoadGauge :=
  .ofList ([.oneMinute, .fiveMinute, .fifteenMinute, .uptime, .idle].map fun g : LoadGauge =>
    (g.name, g))

instance : Collector LoadAverage where
  name _ := "load_average"
  refresh host load := do
    let (_, load) ← load.read host
    return ⟨load, none⟩

end LoadAverage

end HostVitals
