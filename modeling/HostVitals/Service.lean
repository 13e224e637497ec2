/-!
# The service

The name under which the monitor presents itself.
-/

namespace HostVitals.Service

/-- The name of the service. -/
def name : String := "sysmon"

/-- The version of the service. -/
def version : String := "0.8.0"

/-- Name and version. -/
def banner : String := name ++ "/" ++ version

end HostVitals.Service
