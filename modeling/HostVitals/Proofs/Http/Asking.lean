import HostVitals.Http.Answer
import HostVitals.Proofs.Json.Written
import HostVitals.Proofs.NameMap.Listed
import HostVitals.Proofs.Station.Looks
import HostVitals.Proofs.Text.Spread

/-!
# Requests for metrics

A request asks for all metrics, for one of them, or for none. It reads what it asks for, each metric
once, and answers with what it has read.

* `AsksForAll`, `AsksFor`: what a request asks for, by its method and its path.
* `readBy`: the metrics that a request reads, in their order.
* `Request.IsSent`: the response to a request is some JSON.
* `respond_of_asksForAll`, `respond_of_asksFor`, `respond_of_neither`: the three kinds of requests.

`exists_answer` takes any request apart into its readings and an answer that is made of them, and
`station_respond` says what it leaves behind.
-/

namespace HostVitals.Http

open Text Station

/-! ## What a request asks for -/

/-- Only these methods are answered with content. -/
def Request.Fetches (request : Request) : Prop :=
  request.method = .get ∨ request.method = .head

/-- The request is for all metrics. -/
def AsksForAll (request : Request) : Prop :=
  request.Fetches ∧ request.target = .resource "/metrics".toList

/-- The request is for the metric of a name. Its path has one more segment, from which the name is
decoded. -/
def AsksFor (name : String) (request : Request) : Prop :=
  request.Fetches ∧ ∃ segment, request.target = .resource ("/metrics/" ++ segment).toList ∧
    segment ≠ "" ∧ '/' ∉ segment.toList ∧ Percent.decodeText? segment = some name

/-- The name of the metric to which a target leads. -/
def Target.name? (target : Target) : Option String :=
  match target.route? with
  | some (.metric segment) => Percent.decodeText? segment
  | _ => none

variable {request : Request} {name : String} {registry : NameMap Handle}

theorem map_splitOn_eq_iff {path : List Char} {runs : List String} (ne : runs ≠ []) :
    (path.splitOn '/').map String.ofList = runs ↔
      path = ['/'].intercalate (runs.map String.toList) ∧ ∀ run ∈ runs, '/' ∉ run.toList := by
  have texts : (path.splitOn '/').map String.ofList = runs ↔
      path.splitOn '/' = runs.map String.toList := by
    constructor
    · rintro rfl
      simp [Function.comp_def]
    · intro split
      simp [split, Function.comp_def]
  rw [texts, splitOn_eq_iff (by simpa using ne), List.forall_mem_map]

theorem ofPath?_eq_metrics_iff {path : List Char} :
    Route.ofPath? path = some .metrics ↔ path = "/metrics".toList := by
  constructor
  · intro found
    unfold Route.ofPath? at found
    split at found
    · cases found
    · cases found
    · next runs => exact ((map_splitOn_eq_iff (List.cons_ne_nil _ _)).1 runs).1
    · split at found <;> cases found
    · cases found
  · rintro rfl
    decide +kernel

theorem ofPath?_eq_metric_iff {path : List Char} {segment : String} :
    Route.ofPath? path = some (.metric segment) ↔
      path = ("/metrics/" ++ segment).toList ∧ segment ≠ "" ∧ '/' ∉ segment.toList := by
  have runs : (path.splitOn '/').map String.ofList = ["", "metrics", segment] ↔
      path = ("/metrics/" ++ segment).toList ∧ '/' ∉ segment.toList := by
    rw [map_splitOn_eq_iff (List.cons_ne_nil _ _), String.toList_append]
    simp
  constructor
  · intro found
    unfold Route.ofPath? at found
    split at found
    · cases found
    · cases found
    · cases found
    · next split =>
      split at found
      · cases found
      · next nonempty =>
        cases found
        obtain ⟨whole, flat⟩ := runs.1 split
        exact ⟨whole, by simpa using nonempty, flat⟩
    · cases found
  · rintro ⟨whole, ne, flat⟩
    rw [Route.ofPath?, runs.2 ⟨whole, flat⟩]
    simp [ne]

theorem route?_eq_some_iff {target : Target} {route : Route} :
    target.route? = some route ↔
      ∃ path, target = .resource path ∧ Route.ofPath? path = some route := by
  cases target with
  | resource path => simp [Target.route?]
  | server => simp [Target.route?]

theorem asksForAll_iff :
    AsksForAll request ↔ request.Fetches ∧ request.target.route? = some .metrics := by
  simp only [AsksForAll, route?_eq_some_iff, ofPath?_eq_metrics_iff, exists_eq_right]

theorem AsksFor.route (asks : AsksFor name request) : ∃ segment,
    request.target.route? = some (.metric segment) ∧
      Percent.decodeText? segment = some name := by
  obtain ⟨_, segment, target, ne, flat, decoded⟩ := asks
  have leads := ofPath?_eq_metric_iff.2 ⟨rfl, ne, flat⟩
  exact ⟨segment, route?_eq_some_iff.2 ⟨_, target, leads⟩, decoded⟩

theorem asksFor_iff :
    AsksFor name request ↔ request.Fetches ∧ request.target.name? = some name := by
  constructor
  · intro asks
    obtain ⟨segment, found, decoded⟩ := asks.route
    exact ⟨asks.1, by rw [Target.name?, found]; exact decoded⟩
  · rintro ⟨fetches, named⟩
    unfold Target.name? at named
    split at named
    · next segment found =>
      obtain ⟨path, target, leads⟩ := route?_eq_some_iff.1 found
      obtain ⟨rfl, ne, flat⟩ := ofPath?_eq_metric_iff.1 leads
      exact ⟨fetches, segment, target, ne, flat, named⟩
    · cases named

instance (request : Request) : Decidable request.Fetches :=
  inferInstanceAs (Decidable (_ ∨ _))

instance (request : Request) : Decidable (AsksForAll request) :=
  inferInstanceAs (Decidable (_ ∧ _))

instance (name : String) (request : Request) : Decidable (AsksFor name request) :=
  decidable_of_iff _ asksFor_iff.symm

theorem not_asksFor_of_asksForAll (asks : AsksForAll request) : ¬ AsksFor name request := by
  intro one
  have all := (asksForAll_iff.1 asks).2
  have named := (asksFor_iff.1 one).2
  rw [Target.name?, all] at named
  cases named

theorem asksFor_inj {other : String} (asks : AsksFor name request) :
    AsksFor other request ↔ other = name := by
  rw [asksFor_iff, (asksFor_iff.1 asks).2, and_iff_right asks.1, Option.some_inj, eq_comm]

/-! ## What a request reads -/

/-- The metrics that a request reads, in the order in which it reads them. -/
def readBy (registry : NameMap Handle) (request : Request) : List (String × Handle) :=
  registry.entries.filter fun entry => AsksForAll request ∨ AsksFor entry.1 request

theorem readBy_of_asksForAll (asks : AsksForAll request) :
    readBy registry request = registry.entries :=
  List.filter_eq_self.2 fun _ _ => decide_eq_true (.inl asks)

theorem readBy_of_asksFor (asks : AsksFor name request) :
    readBy registry request = ((registry.find? name).map fun handle => (name, handle)).toList := by
  have one (entry : String × Handle) :
      AsksForAll request ∨ AsksFor entry.1 request ↔ entry.1 = name := by
    rw [asksFor_inj asks]
    exact or_iff_right fun all => not_asksFor_of_asksForAll all asks
  simp only [readBy, one, NameMap.filter_entries]

theorem readBy_of_neither (all : ¬ AsksForAll request) (one : ∀ name, ¬ AsksFor name request) :
    readBy registry request = [] :=
  List.filter_eq_nil_iff.2 fun entry _ => by simp [all, one entry.1]

/-- What is sent of some content. -/
def Request.reply (request : Request) (content : Content) : Response :=
  if request.method = .head then (Response.ofContent content).headersOnly else .ofContent content

/-- The response to a request is some JSON, which is not sent to a HEAD request. -/
structure Request.IsSent (request : Request) (status : Nat) (text : String)
    (response : Response) : Prop where
  status : response.status = status
  headers : response.headers = sharedHeaders ++
    [("content-type", "application/json"), ("content-length", toString text.utf8ByteSize)]
  body : response.body = if request.method = .head then "" else text

theorem isSent_reply (request : Request) (status : Nat) (text : String) :
    request.IsSent status text (request.reply (.json status text)) := by
  unfold Request.reply
  split
  · next head => exact ⟨rfl, rfl, (if_pos head).symm⟩
  · next other => exact ⟨rfl, rfl, (if_neg other).symm⟩

theorem respond_of_fetches (fetches : request.Fetches) {route : Route}
    (found : request.target.route? = some route) :
    respond request = do return request.reply (← route.content) := by
  rcases fetches with get | head
  · simp [respond, Request.reply, get, found]
  · simp [respond, Request.reply, head, found]

/-- A request that asks for no metric reads nothing. -/
theorem respond_of_neither (all : ¬ AsksForAll request) (one : ∀ name, ¬ AsksFor name request) :
    ∃ response, respond request = pure response := by
  rw [asksForAll_iff] at all
  simp only [asksFor_iff] at one
  by_cases fetches : request.Fetches
  · cases found : request.target.route? with
    | none =>
      refine ⟨unrouted 404 request.target, ?_⟩
      rcases fetches with get | head <;> simp [respond, *]
    | some route =>
      rw [respond_of_fetches fetches found]
      cases route with
      | index => exact ⟨_, pure_bind _ _⟩
      | version => exact ⟨_, pure_bind _ _⟩
      | metrics => exact absurd ⟨fetches, found⟩ all
      | metric segment =>
        cases decoded : Percent.decodeText? segment with
        | none => exact ⟨_, by rw [Route.content, decoded]; exact pure_bind _ _⟩
        | some name =>
          refine absurd ⟨fetches, ?_⟩ (one name)
          rw [Target.name?, found]
          exact decoded
  -- No other method gets as far as the content of a route.
  · cases method : request.method with
    | get => exact absurd (.inl method) fetches
    | head => exact absurd (.inr method) fetches
    | options =>
      cases found : request.target.route? <;> exact ⟨_, by rw [respond, method, found]⟩
    | other =>
      cases found : request.target.route? <;> exact ⟨_, by rw [respond, method, found]⟩

theorem respond_of_asksForAll (asks : AsksForAll request) (s : Station) :
    respond request s = (do
      let samples ← s.registry.entries.mapM sampleEntry
      return request.reply (.json 200 (jsonOfSamples samples).render)) s := by
  obtain ⟨fetches, found⟩ := asksForAll_iff.1 asks
  rw [respond_of_fetches fetches found, Route.content, bind_assoc]
  simp only [pure_bind]
  rfl

/-- The text of samples with their names. -/
def textOf (samples : List (String × Sample)) : String :=
  Json.objectText (samples.map fun sampled => (sampled.1, sampled.2.text))

theorem render_jsonOfSamples (samples : List (String × Sample)) :
    (jsonOfSamples samples).render = textOf samples := by
  rw [jsonOfSamples, Json.render_object, List.map_map]
  simp only [Function.comp_def, Sample.render_json]
  rfl

/-- The content about a name, made of the samples of the metrics that have it. -/
def contentOf (name : String) (samples : List (String × Sample)) : Content :=
  samples.head?.elim (.json 404 (unknownMetric name).render) fun sampled =>
    .json 200 sampled.2.json.render

theorem bind_sampleNamed {β : Type} (f : Option Sample → StateT Station Logged β) (s : Station) :
    (sampleNamed name >>= f) s = ((s.registry.find? name).mapM sample >>= f) s := rfl

theorem respond_of_asksFor (asks : AsksFor name request) (s : Station) :
    respond request s = (do
      let entry := (s.registry.find? name).map fun handle => (name, handle)
      return request.reply (contentOf name (← entry.toList.mapM sampleEntry))) s := by
  obtain ⟨segment, found, decoded⟩ := asks.route
  rw [respond_of_fetches asks.1 found]
  simp only [Route.content, decoded, bind_assoc]
  rw [bind_sampleNamed]
  cases s.registry.find? name with
  | none => rfl
  | some handle => simp [sampleEntry, contentOf]

/-- A request reads its metrics one after the other, and what it answers is made of what it has
read. -/
theorem exists_answer (request : Request) : ∃ answer : List (String × Sample) → Response,
    (∀ s, respond request s =
      (do return answer (← (readBy s.registry request).mapM sampleEntry)) s) ∧
    (AsksForAll request → ∀ samples, request.IsSent 200 (textOf samples) (answer samples)) ∧
    ∀ name, AsksFor name request → ∀ sampled : Sample,
      request.IsSent 200 sampled.text (answer [(name, sampled)]) := by
  by_cases all : AsksForAll request
  · refine ⟨fun samples => request.reply (.json 200 (jsonOfSamples samples).render), fun s => ?_,
      fun _ samples => render_jsonOfSamples samples ▸ isSent_reply _ _ _,
      fun _ one => absurd one (not_asksFor_of_asksForAll all)⟩
    rw [respond_of_asksForAll all, readBy_of_asksForAll all]
  by_cases one : ∃ name, AsksFor name request
  · obtain ⟨name, asks⟩ := one
    refine ⟨fun samples => request.reply (contentOf name samples), fun s => ?_,
      fun asks => absurd asks all,
      fun _ _ sampled => sampled.render_json ▸ isSent_reply request 200 sampled.json.render⟩
    rw [respond_of_asksFor asks, readBy_of_asksFor asks]
  · have none := not_exists.1 one
    obtain ⟨response, same⟩ := respond_of_neither all none
    refine ⟨fun _ => response, fun s => ?_, fun asks => absurd asks all,
      fun name asks => absurd asks (none name)⟩
    rw [same, readBy_of_neither all none]
    rfl

theorem value_bind_state {α β : Type} (x : StateT Station Logged α)
    (f : α → StateT Station Logged β) (s : Station) :
    ((x >>= f) s).value = (f (x s).value.1 (x s).value.2).value := rfl

/-- A request does nothing to a station but to sample the metrics that it reads. -/
theorem station_respond (request : Request) (s : Station) :
    (respond request s).value.2 = s.sampled ((readBy s.registry request).map (·.2)) := by
  obtain ⟨answer, same, _⟩ := exists_answer request
  rw [same, value_bind_state]
  exact station_mapM_sampleEntry _ s

end HostVitals.Http
