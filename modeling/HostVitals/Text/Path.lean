/-!
# Paths

Paths are texts. `join` appends a component to one, and `isAbsolute` tells the paths
that start at the root.
-/

namespace HostVitals.Text

/-- The path starts at the root. -/
def isAbsolute (path : String) : Bool :=
  path.toList.head? == some '/'

/-- A path with a component appended to it. An absolute component takes the place of
the whole path; any other is set off by one slash, unless the path is empty or ends
in a slash already. -/
def join (path component : String) : String :=
  if isAbsolute component then component
  else if path.isEmpty || path.toList.getLast? == some '/' then path ++ component
  else path ++ "/" ++ component

example : join "proc" "loadavg" = "proc/loadavg" := by decide +kernel
example : join "sys/" "" = "sys/" := by decide +kernel
example : join "sys" "/abs" = "/abs" := by decide +kernel

end HostVitals.Text
