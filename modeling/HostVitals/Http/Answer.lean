import HostVitals.Http.Route
import HostVitals.Service
import HostVitals.Station
import HostVitals.Text.Percent

/-!
# Answers

What the service answers: who it is, every registered metric, or one of them. Metrics
are sampled when they are served, and only then: no other request reads them.
-/

namespace HostVitals.Http

open Text

/-- The line served at the root. -/
def indexText : String :=
  Service.banner ++ ": metrics at /metrics"

/-- The name and version of the service. -/
def versionJson : Json :=
  .object [("name", .string Service.name), ("version", .string Service.version)]

/-- The answer for a name that is not registered. -/
def unknownMetric (name : String) : Json :=
  .object [("error", .string ("unknown metric: " ++ name))]

/-- The content of a route. -/
def Route.content : Route → StateT Station Logged Content
  | .index => return .plain 200 indexText
  | .version => return .json 200 versionJson.render
  | .metrics => do
    let samples ← Station.sampleAll
    return .json 200 (Station.jsonOfSamples samples).render
  | .metric segment =>
    match Percent.decodeText? segment with
    | none => return .plain 400 "Invalid URL: Invalid UTF-8 in \x60name\x60"
    | some name => do
      match ← Station.sampleNamed name with
      | some sampled => return .json 200 sampled.json.render
      | none => return .json 404 (unknownMetric name).render

/-- The response where a target has no route. Only one about the server itself tells that
it has no content. -/
def unrouted (status : Nat) : Target → Response
  | .resource _ => .bare status []
  | .server => .bare status emptyHeaders

/-- The response to a request. -/
def respond (request : Request) : StateT Station Logged Response :=
  match request.method, request.target.route? with
  | .options, some _ => return .bare 200 allowHeaders
  | .options, none => return unrouted 200 request.target
  | _, none => return unrouted 404 request.target
  | .get, some route => do return .ofContent (← route.content)
  | .head, some route => do return (Response.ofContent (← route.content)).headersOnly
  | .other, some _ => return .bare 405 allowHeaders

end HostVitals.Http
