import HostVitals.Http.Message

/-!
# Routes

Which resource a path means. A metric is named by one segment of the path, which is
percent-decoded once.

* `Route.ofPath?`: the resource under a path.
-/

namespace HostVitals.Http

/-- A resource of the service. -/
inductive Route where
  | index
  | version
  | metrics
  /-- One metric; its name is still percent-coded. -/
  | metric (segment : String)
  deriving DecidableEq, Repr

/-- The route of a path. There is none for a slash at the end, a doubled slash, or a
metric name of no or several segments. -/
def Route.ofPath? (path : List Char) : Option Route :=
  match (path.splitOn '/').map String.ofList with
  | ["", ""] => some .index
  | ["", "version"] => some .version
  | ["", "metrics"] => some .metrics
  | ["", "metrics", segment] => if segment.isEmpty then none else some (.metric segment)
  | _ => none

/-- The route of a target. -/
def Target.route? : Target → Option Route
  | .resource path => Route.ofPath? path
  | .server => none

example : Route.ofPath? "/metrics/a%2Fb".toList = some (.metric "a%2Fb") := by decide +kernel
example : Route.ofPath? "/metrics/".toList = none := by decide +kernel

end HostVitals.Http
