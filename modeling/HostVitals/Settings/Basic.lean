import HostVitals.Filter
import HostVitals.Monitor.Basic
import HostVitals.Text.Blank

/-!
# Settings

What an operator configures: where the service listens, and what is monitored.

* `Settings.validate`: the first requirement that is not met.
* `MonitorSettings.toConfig`: the monitor that the settings describe.
-/

namespace HostVitals

/-- Where the service listens. -/
structure ServerSettings where
  port : Nat
  host : String
  deriving DecidableEq, Repr

/-- The choice of interfaces: one of three by name, or a list. -/
inductive InterfaceSelection where
  | default
  | all
  | none
  | only (names : List String)
  deriving DecidableEq, Repr

/-- The filter of a choice. -/
def InterfaceSelection.filter : InterfaceSelection → NameFilter
  | .default => .defaultInterfaces
  | .all => .all
  | .none => .none
  | .only names => .only names

/-- What is monitored. Times are in seconds. -/
structure MonitorSettings where
  pollInterval : Nat
  loadMinAge : Nat
  memoryKeys : List String
  storageTypes : List String
  interfaces : InterfaceSelection
  procRoot : String
  sysRoot : String
  deriving DecidableEq, Repr

/-- The whole configuration. -/
structure Settings where
  server : ServerSettings
  monitor : MonitorSettings
  deriving DecidableEq, Repr

/-- A requirement that settings do not meet. -/
inductive SettingsFault where
  | port (port : Nat)
  | host
  | pollInterval (secs : Nat)
  | memoryKeys
  | procRoot
  | sysRoot
  deriving DecidableEq, Repr

/-- The wording of a requirement that is not met. -/
def SettingsFault.message : SettingsFault → String
  | .port n => "server.port must be between 1 and 65535, got " ++ toString n
  | .host => "server.host must be non-empty"
  | .pollInterval secs => "monitor.poll_interval_secs must be > 0, got " ++ toString secs
  | .memoryKeys => "monitor.meminfo_keys must not contain empty keys"
  | .procRoot => "monitor.proc_root must be non-empty"
  | .sysRoot => "monitor.sys_root must be non-empty"

namespace Settings

/-- The text holds nothing but blanks. -/
def isBlankText (s : String) : Bool :=
  (Text.trim s.toList).isEmpty

/-- Checks the requirements in order and reports the first that is not met. -/
def validate (settings : Settings) : Except SettingsFault Unit := do
  if settings.server.port = 0 then throw (.port settings.server.port)
  if settings.server.host.isEmpty then throw .host
  if settings.monitor.pollInterval = 0 then throw (.pollInterval settings.monitor.pollInterval)
  if settings.monitor.memoryKeys.any isBlankText then throw .memoryKeys
  if settings.monitor.procRoot.isEmpty then throw .procRoot
  if settings.monitor.sysRoot.isEmpty then throw .sysRoot

end Settings

/-- The monitor that the settings describe, with the filesystems of the mount table. -/
def MonitorSettings.toConfig (settings : MonitorSettings) : MonitorConfig where
  period := settings.pollInterval * second
  loadMinAge := settings.loadMinAge * second
  memoryKeys := settings.memoryKeys
  storageFilter := .only settings.storageTypes
  interfaceFilter := settings.interfaces.filter
  procRoot := settings.procRoot
  sysRoot := settings.sysRoot
  storage := .mounted

end HostVitals
