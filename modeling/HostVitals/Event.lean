import HostVitals.CollectorFault
import HostVitals.Decimal.Reader

/-!
# Log events

Everything the monitor tells its log. An event is a cause with its particulars;
`level`, `message` and `fields` say how it is written.
-/

namespace HostVitals

open Text (NumeralFault)
open Decimal (FloatFault)

/-- How serious an event is, the most serious first. -/
inductive Level where
  | error
  | warn
  | info
  | debug
  | trace
  deriving DecidableEq, Repr

/-- A place in the order of seriousness. -/
def Level.rank : Level → Nat
  | .error => 0
  | .warn => 1
  | .info => 2
  | .debug => 3
  | .trace => 4

/-- Something worth logging, by its cause. -/
inductive Event where
  | metricAlreadyRegistered (metric : String)
  | loadSourceMissing (path : String)
  | loadSourceUnreadable (path : String) (fault : IoFault)
  | loadValueUnparseable (path : String) (fault : FloatFault)
  | loadSourcesParsed (parses : Nat)
  | memoryLineSkipped (key value : String) (fault : NumeralFault)
  | duplicateMemoryGauge (key metric : String)
  | counterWentBackwards (interface : String) (prev curr : Nat)
  | interfaceLineSkipped (fault : CollectorFault)
  | duplicateInterface (interface : String)
  | blockSizeUnknown (device : String)
  | blockSizeUnparseable (path : String) (fault : NumeralFault)
  | blockSizeUnreadable (path : String) (fault : IoFault)
  | duplicateBlockDevice (device : String)
  | blockDeviceLineSkipped (fault : CollectorFault)
  | blockDeviceAbsent (device : String)
  | blockDeviceSkipped (device : String) (fault : CollectorFault)
  | capacityReadFailed (filesystem : String) (fault : CollectorFault)
  | refreshFailed (collector : String) (fault : CollectorFault)
  | memoryLeftOut (fault : CollectorFault)
  | networkLeftOut (fault : CollectorFault)
  | blockDevicesLeftOut (fault : CollectorFault)
  | interfaceFilteredOut (interface : String)
  | filesystemFilteredOut (filesystem fsType : String)
  | duplicateNamespaceKey (key : String)
  | monitorBuilt (bundles collectors : Nat)
  | loopNotStarted (fault : IoFault)
  | monitorStopped
  deriving DecidableEq, Repr

namespace Event

/-- The seriousness of an event. -/
def level : Event → Level
  | .metricAlreadyRegistered _ => .warn
  | .loadSourceMissing _ => .warn
  | .loadSourceUnreadable _ _ => .debug
  | .loadValueUnparseable _ _ => .debug
  | .loadSourcesParsed _ => .debug
  | .memoryLineSkipped _ _ _ => .trace
  | .duplicateMemoryGauge _ _ => .warn
  | .counterWentBackwards _ _ _ => .debug
  | .interfaceLineSkipped _ => .warn
  | .duplicateInterface _ => .warn
  | .blockSizeUnknown _ => .debug
  | .blockSizeUnparseable _ _ => .warn
  | .blockSizeUnreadable _ _ => .debug
  | .duplicateBlockDevice _ => .warn
  | .blockDeviceLineSkipped _ => .warn
  | .blockDeviceAbsent _ => .trace
  | .blockDeviceSkipped _ _ => .debug
  | .capacityReadFailed _ _ => .trace
  | .refreshFailed _ _ => .warn
  | .memoryLeftOut _ => .error
  | .networkLeftOut _ => .error
  | .blockDevicesLeftOut _ => .error
  | .interfaceFilteredOut _ => .debug
  | .filesystemFilteredOut _ _ => .debug
  | .duplicateNamespaceKey _ => .warn
  | .monitorBuilt _ _ => .info
  | .loopNotStarted _ => .error
  | .monitorStopped => .info

/-- The text of an event. -/
def message : Event → String
  | .metricAlreadyRegistered _ => "metric already registered; keeping the first"
  | .loadSourceMissing _ => "load source missing; gauges will report 0"
  | .loadSourceUnreadable _ _ => "source unreadable; reporting zeros"
  | .loadValueUnparseable _ _ => "unparseable value; reporting zeros"
  | .loadSourcesParsed _ => "load sources re-parsed"
  | .memoryLineSkipped _ _ _ => "skipping meminfo line"
  | .duplicateMemoryGauge _ _ => "duplicate memory gauge name; keeping the first"
  | .counterWentBackwards _ _ _ => "counter went backwards; reseeding"
  | .interfaceLineSkipped _ => "skipping malformed interface line"
  | .duplicateInterface _ => "duplicate interface name; keeping the first"
  | .blockSizeUnknown _ => "no physical_block_size; byte counts will read 0"
  | .blockSizeUnparseable _ _ => "unparseable block size"
  | .blockSizeUnreadable _ _ => "unreadable block size"
  | .duplicateBlockDevice _ => "duplicate block device; keeping the first"
  | .blockDeviceLineSkipped _ => "skipping malformed block device line"
  | .blockDeviceAbsent _ => "device absent this poll"
  | .blockDeviceSkipped _ _ => "skipping device this poll"
  | .capacityReadFailed _ _ => "capacity read failed"
  | .refreshFailed _ _ => "refresh failed; keeping previous state"
  | .memoryLeftOut _ => "unable to instrument memory"
  | .networkLeftOut _ => "unable to instrument network interfaces"
  | .blockDevicesLeftOut _ => "unable to instrument block devices"
  | .interfaceFilteredOut _ => "interface filtered out"
  | .filesystemFilteredOut _ _ => "filesystem filtered out"
  | .duplicateNamespaceKey _ => "duplicate namespace key; keeping the first"
  | .monitorBuilt _ _ => "System monitor built"
  | .loopNotStarted _ => "failed to start scheduler; metrics will not update"
  | .monitorStopped => "System monitor stopped"

/-- The particulars of an event, each with its name. -/
def fields : Event → List (String × String)
  | .metricAlreadyRegistered metric => [("metric", metric)]
  | .loadSourceMissing path => [("path", path)]
  | .loadSourceUnreadable path fault => [("path", path), ("error", fault.message)]
  | .loadValueUnparseable path fault => [("path", path), ("error", fault.message)]
  | .loadSourcesParsed parses => [("parses", toString parses)]
  | .memoryLineSkipped key value fault =>
    [("key", key), ("value", value), ("error", fault.message)]
  | .duplicateMemoryGauge key metric => [("key", key), ("metric", metric)]
  | .counterWentBackwards interface prev curr =>
    [("interface", interface), ("prev", toString prev), ("curr", toString curr)]
  | .interfaceLineSkipped fault => [("error", fault.message)]
  | .duplicateInterface interface => [("interface", interface)]
  | .blockSizeUnknown device => [("device", device)]
  | .blockSizeUnparseable path fault => [("path", path), ("error", fault.message)]
  | .blockSizeUnreadable path fault => [("path", path), ("error", fault.message)]
  | .duplicateBlockDevice device => [("device", device)]
  | .blockDeviceLineSkipped fault => [("error", fault.message)]
  | .blockDeviceAbsent device => [("device", device)]
  | .blockDeviceSkipped device fault => [("device", device), ("error", fault.message)]
  | .capacityReadFailed filesystem fault =>
    [("filesystem", filesystem), ("error", fault.message)]
  | .refreshFailed collector fault =>
    [("collector", collector), ("error", fault.message), ("operation", "refresh")]
  | .memoryLeftOut fault => [("collector", "memory"), ("error", fault.message)]
  | .networkLeftOut fault => [("collector", "network"), ("error", fault.message)]
  | .blockDevicesLeftOut fault => [("collector", "block_devices"), ("error", fault.message)]
  | .interfaceFilteredOut interface => [("interface", interface)]
  | .filesystemFilteredOut filesystem fsType =>
    [("filesystem", filesystem), ("fs_type", fsType)]
  | .duplicateNamespaceKey key => [("key", key)]
  | .monitorBuilt bundles collectors =>
    [("bundles", toString bundles), ("collectors", toString collectors)]
  | .loopNotStarted fault => [("error", fault.message)]
  | .monitorStopped => []

end Event

end HostVitals
