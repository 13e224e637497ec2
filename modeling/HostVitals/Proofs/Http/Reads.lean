import HostVitals.Proofs.Http.Endpoints
import HostVitals.Proofs.Text.ByteOrder
import Mathlib.Algebra.BigOperators.Group.List.Basic
import Mathlib.Algebra.Ring.Nat

/-!
# Requests read what they serve

In any sequence of requests a metric is read as often as it is asked for.

* `timesAsked`: how many of some requests ask for a metric, alone or among all.

`counters_served` says what requests leave of a counter of readings, `countP_readBy` counts the
readings of many requests, and `requests_read_what_they_serve` brings them together.
-/

namespace HostVitals

/-! ## Readings of a counter -/

namespace Station

/-- A counter grows by being read, and by nothing else. -/
theorem counters_sample (handle : Handle) (s : Station) (id : Nat) :
    (sample handle s).value.2.counters[id]? = s.counters[id]?.map fun counter =>
      { counter with reads := counter.reads + if handle == .counter id then 1 else 0 } := by
  cases handle with
  | counter other =>
    show (s.counters.modify other _)[id]? = _
    rw [List.getElem?_modify]
    by_cases same : other = id <;> simp [same]
  | published monitor ref =>
    cases there : s.monitors[monitor]? with
    | none =>
      rw [sample_published_of_none there]
      simp
    | some found =>
      rw [sample_published there]
      simp [setMonitor]
  | _ => simp [sample]

theorem counters_sampled (handles : List Handle) (s : Station) (id : Nat) :
    (s.sampled handles).counters[id]? = s.counters[id]?.map fun counter =>
      { counter with reads := counter.reads + handles.count (.counter id) } := by
  induction handles generalizing s with
  | nil => simp [sampled]
  | cons handle handles ih =>
    show ((sample handle s).value.2.sampled handles).counters[id]? = _
    rw [ih, counters_sample, Option.map_map]
    congr 1
    funext counter
    rw [Function.comp_apply, List.count_cons, Nat.add_assoc, Nat.add_comm (List.count _ _)]

end Station

namespace Http

open Text Station

/-! ## Many requests -/

variable {name : String}

/-- A counter has grown by all the readings of it. -/
theorem counters_served (s : Station) (visits : List (Nat × Request)) (id : Nat) :
    (served s visits).counters[id]? = s.counters[id]?.map fun counter =>
      { counter with reads := counter.reads +
        ((visits.map (·.2)).flatMap (readBy s.registry)).countP (·.2 == .counter id) } := by
  induction visits generalizing s with
  | nil => simp [served]
  | cons visit visits ih =>
    have after := station_respond visit.2 (s.advance visit.1)
    have registry : (respond visit.2 (s.advance visit.1)).value.2.registry = s.registry := by
      rw [after]
      exact (looked_sampled _ _).registry
    show (served (respond visit.2 (s.advance visit.1)).value.2 visits).counters[id]? = _
    rw [ih, registry, after, counters_sampled, Option.map_map]
    congr 1
    funext counter
    rw [Function.comp_apply, List.map_cons, List.flatMap_cons, List.countP_append,
      List.count_eq_countP, List.countP_map, Nat.add_assoc]
    rfl

/-- How many of the requests ask for the metric of a name, among all or alone. -/
def timesAsked (name : String) (requests : List Request) : Nat :=
  requests.countP (AsksForAll ·) + requests.countP (AsksFor name ·)

theorem timesAsked_cons (name : String) (request : Request) (requests : List Request) :
    timesAsked name (request :: requests) =
      (if AsksForAll request ∨ AsksFor name request then 1 else 0) + timesAsked name requests := by
  simp only [timesAsked, List.countP_cons, decide_eq_true_eq]
  by_cases all : AsksForAll request
  · simp only [if_pos all, if_pos (Or.inl all), if_neg (not_asksFor_of_asksForAll all)]
    omega
  · simp only [if_neg all, or_iff_right all]
    omega

theorem sum_map_ite {α : Type} (p : α → Prop) [DecidablePred p] (as : List α) :
    (as.map fun a => if p a then 1 else 0).sum = as.countP (p ·) := by
  induction as with
  | nil => rfl
  | cons a as ih =>
    rw [List.map_cons, List.sum_cons, ih, List.countP_cons, Nat.add_comm]
    simp

/-- Entries are read as often as they are asked for. -/
theorem countP_readBy (registry : NameMap Handle) (requests : List Request)
    (kind : String × Handle → Bool) :
    (requests.flatMap (readBy registry)).countP kind =
      ((registry.entries.filter kind).map fun entry => timesAsked entry.1 requests).sum := by
  induction requests with
  | nil => simp [timesAsked]
  | cons request requests ih =>
    simp only [timesAsked_cons, List.sum_map_add, sum_map_ite]
    rw [List.flatMap_cons, List.countP_append, ih, readBy, List.countP_filter, List.countP_filter]
    simp only [Bool.and_comm]

/-- Every registered metric is read as often as it is asked for. -/
theorem count_readBy {registry : NameMap Handle} (listed : name ∈ registry.names)
    (requests : List Request) :
    ((requests.flatMap (readBy registry)).map (·.1)).count name = timesAsked name requests := by
  -- Only one entry has the name, so the sum over the entries with the name is one number.
  obtain ⟨handle, found⟩ := Option.isSome_iff_exists.1 (NameMap.mem_names_iff.1 listed)
  have only := registry.filter_entries name
  rw [found] at only
  rw [List.count_eq_countP, List.countP_map, countP_readBy]
  show ((registry.entries.filter fun entry => entry.1 == name).map _).sum = _
  simp only [beq_eq_decide, only]
  simp

/-- Requests read what they serve, and nothing else. In any sequence of requests each registered
metric is read as often as a GET or HEAD request asks for all metrics or for it, and a counter of
its own readings has grown by just that for all names under which it is registered. A request reads
its metrics one after the other and answers with these readings: one for all metrics reads them in
the order of the bytes of their names and is sent each under its name, one for a name reads the
metric of that name if there is one and is sent what it has read, and no other request reads
anything. A name is sent in quotes and can be read in one way only, and a float as a number that
rounds to it. -/
theorem requests_read_what_they_serve (s : Station) (visits : List (Nat × Request)) :
    let requests := visits.map (·.2)
    (∀ name ∈ s.registry.names,
      ((requests.flatMap (readBy s.registry)).map (·.1)).count name =
        timesAsked name requests) ∧
    (∀ id : Nat, (served s visits).counters[id]? = s.counters[id]?.map fun counter =>
      { counter with reads := counter.reads +
        ((s.registry.entries.filter (·.2 == .counter id)).map fun entry =>
          timesAsked entry.1 requests).sum }) ∧
    (served s visits).registry = s.registry ∧
    s.registry.names.Pairwise (Percent.bytes · < Percent.bytes ·) ∧
    (∀ name, Json.Quotes (Json.stringText name) name) ∧
    (∀ x, Json.Shows (Json.floatText x) (Decimal.Reading.ofFloat x)) ∧
    ∀ request, ∃ answer : List (String × Sample) → Response,
      (∀ t : Station, t.registry = s.registry → respond request t =
        (do return answer (← (readBy s.registry request).mapM sampleEntry)) t) ∧
      (AsksForAll request → readBy s.registry request = s.registry.entries ∧ ∀ samples,
        request.IsSent 200
          (Json.objectText (samples.map fun sampled => (sampled.1, sampled.2.text)))
          (answer samples)) ∧
      (∀ name, AsksFor name request →
        readBy s.registry request =
          ((s.registry.find? name).map fun handle => (name, handle)).toList ∧
        ∀ sampled : Sample, request.IsSent 200 sampled.text (answer [(name, sampled)])) ∧
      (¬ AsksForAll request → (∀ name, ¬ AsksFor name request) →
        readBy s.registry request = []) := by
  intro requests
  refine ⟨fun name listed => count_readBy listed requests, fun id => ?_,
    (looked_served s visits).registry, ?_, Json.quotes_stringText, Json.shows_floatText,
    fun request => ?_⟩
  · rw [counters_served]
    simp only [countP_readBy]
    rfl
  · exact s.registry.pairwise_names.imp bytes_lt_bytes_iff.2
  · obtain ⟨answer, same, all, one⟩ := exists_answer request
    refine ⟨answer, fun t registry => registry ▸ same t,
      fun asks => ⟨readBy_of_asksForAll asks, all asks⟩,
      fun name asks => ⟨readBy_of_asksFor asks, one name asks⟩, readBy_of_neither⟩

/-- A station with two counters of their readings, one of which has two names, a meter that counted
five events, and a constant. -/
def countingStation : Station :=
  { Station.empty with
    counters := [⟨7, 0⟩, ⟨0, 2⟩]
    meters := [(Meter.startingAt 0).mark 0 5]
    registry := .ofList [("b/c", .counter 1), ("a", .counter 0), ("é", .counter 1),
      ("m", .meter 0), ("idle", .constant (.float 1.25))] }

/-- A request whose target is a path. -/
def Request.onPath (method : Method) (path : String) : Request where
  method := method
  target := .resource path.toList

/-- Five requests for metrics, and five that ask for none. -/
def countingVisits : List (Nat × Request) :=
  [(0, .onPath .get "/metrics"), (second, .onPath .head "/metrics/a"),
    (0, .onPath .get "/metrics/b%2Fc"), (1, .onPath .head "/metrics"),
    (0, .onPath .get "/metrics/%C3%A9"), (0, .onPath .options "/metrics"),
    (0, .onPath .other "/metrics/a"), (0, .onPath .get "/metrics/b/c"),
    (0, .onPath .get "/metrics/%C3"), (0, .onPath .get "/metrics/")]

/-- The text of all metrics at the start. -/
def countingText : String :=
  "\x7b\"a\":\x7b\"type\":\"gauge\",\"value\":7\x7d," ++
    "\"b/c\":\x7b\"type\":\"gauge\",\"value\":2\x7d," ++
    "\"idle\":\x7b\"type\":\"gauge\",\"value\":1.25\x7d," ++
    "\"m\":\x7b\"type\":\"meter\",\"count\":5,\"meanRate\":0.0,\"oneMinuteRate\":0.0," ++
    "\"fiveMinuteRate\":0.0,\"fifteenMinuteRate\":0.0\x7d," ++
    "\"é\":\x7b\"type\":\"gauge\",\"value\":3\x7d\x7d"

/-- Two of the five are for all metrics, and one is for each of three names. So the first counter is
read three times, and the second three times under each of its two names. A first request for all
metrics is sent what it has read, and one by HEAD nothing of that. -/
theorem requests_read_what_they_serve_counting :
    let after := served countingStation countingVisits
    let readings := (countingVisits.map (·.2)).flatMap (readBy countingStation.registry)
    let all := (respond getMetrics countingStation).value.1
    let head := (respond (.onPath .head "/metrics/a") countingStation).value.1
    (readings.map (·.1)).count "b/c" = 3 ∧
    after.counters[0]? = some ⟨7, 3⟩ ∧ after.counters[1]? = some ⟨0, 8⟩ ∧
    all.status = 200 ∧ all.body = countingText ∧
    head.status = 200 ∧ head.body = "" := by
  intro after readings all head
  obtain ⟨counts, counters, _, _, _, _, answers⟩ :=
    requests_read_what_they_serve countingStation countingVisits
  obtain ⟨answer, takes, sent, _⟩ := answers getMetrics
  have asks : AsksForAll getMetrics := by decide +kernel
  obtain ⟨reads, sent⟩ := sent asks
  have sentAll := sent (countingStation.registry.entries.mapM sampleEntry countingStation).value.1
  have made : all = answer (countingStation.registry.entries.mapM sampleEntry
      countingStation).value.1 := by
    show (respond getMetrics countingStation).value.1 = _
    rw [takes countingStation rfl, reads]
    rfl
  obtain ⟨answerHead, takesHead, _, sent, _⟩ := answers (.onPath .head "/metrics/a")
  obtain ⟨readsHead, sent⟩ := sent "a" (by decide +kernel)
  have sentHead := sent (.gauge (.integer 7))
  have madeHead : head = answerHead [("a", .gauge (.integer 7))] := by
    show (respond (.onPath .head "/metrics/a") countingStation).value.1 = _
    rw [takesHead countingStation rfl, readsHead]
    rfl
  exact ⟨(counts "b/c" (by decide +kernel)).trans (by decide +kernel),
    (counters 0).trans (by decide +kernel), (counters 1).trans (by decide +kernel),
    made ▸ sentAll.status, made ▸ sentAll.body.trans (by decide +kernel),
    madeHead ▸ sentHead.status, madeHead ▸ sentHead.body⟩

end Http

end HostVitals
