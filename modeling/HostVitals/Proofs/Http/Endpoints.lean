import HostVitals.Proofs.Http.Asking
import HostVitals.Proofs.Json.Quoting
import Mathlib.Data.List.TakeDrop
import Mathlib.Data.List.TakeWhile

/-!
# The metric endpoints

All metrics are served under one path and each of them under a path of its own. Both say the same of
a metric, whatever its name is, and asking leaves no trace.

* `metricPath`: the path of a metric; `ofTexts?_metricPath` makes a request of it.
* `respond_getMetrics`, `respond_getMetric`: the two answers.
* `served`: the station after requests.

`looked_served` says that requests only look at the meters, and `endpoints_agree` how the answers
compare.
-/

namespace HostVitals.Http

open Logged Text

/-! ## The path of a metric -/

/-- What may stand in a segment of a path. -/
def isSegmentChar (c : Char) : Bool :=
  isPathChar c && c != '/'

theorem isUnreserved_hexDigit : ∀ v : UInt8, v < 16 →
    Percent.isUnreserved (Percent.hexDigit v) = true := by
  intro v hv
  have h : v.toNat < 16 := by simpa [UInt8.lt_iff_toNat_lt] using hv
  have : ∀ n : Fin 16, Percent.isUnreserved (Percent.hexDigit (UInt8.ofNat n)) = true := by decide
  simpa using this ⟨v.toNat, h⟩

theorem isSegmentChar_ofUInt8 {b : UInt8} (written : Percent.isUnreserved b = true ∨ b = 0x25) :
    isSegmentChar (Char.ofUInt8 b) = true := by
  have every : ∀ n : Fin 256, Percent.isUnreserved (UInt8.ofNat n) = true ∨ UInt8.ofNat n = 0x25 →
      isSegmentChar (Char.ofUInt8 (UInt8.ofNat n)) = true := by decide +kernel
  simpa using every ⟨b.toNat, b.toNat_lt⟩ (by simpa using written)

theorem isSegmentChar_of_mem_encodeText {name : String} {c : Char}
    (mem : c ∈ (Percent.encodeText name).toList) : isSegmentChar c = true := by
  rw [Percent.encodeText, String.toList_ofList] at mem
  obtain ⟨b, coded, rfl⟩ := List.mem_map.1 mem
  obtain ⟨source, _, written⟩ := List.mem_flatMap.1 coded
  refine isSegmentChar_ofUInt8 ?_
  unfold Percent.encodeByte at written
  split at written
  · next unreserved => exact .inl (List.mem_singleton.1 written ▸ unreserved)
  · simp only [List.mem_cons, List.not_mem_nil, or_false] at written
    rcases written with rfl | rfl | rfl
    · exact .inr rfl
    · exact .inl (isUnreserved_hexDigit _ (Percent.div_lt_sixteen source))
    · exact .inl (isUnreserved_hexDigit _ (Percent.mod_lt_sixteen source))

theorem encodeText_ne_empty {name : String} (ne : name ≠ "") : Percent.encodeText name ≠ "" := by
  intro empty
  have read := Percent.decodeText?_encodeText name
  rw [empty] at read
  have nothing : Percent.decodeText? "" = some "" := by decide +kernel
  exact ne (Option.some.inj (read.symm.trans nothing))

/-- The path under which a metric is served. -/
def metricPath (name : String) : String :=
  "/metrics/" ++ Percent.encodeText name

/-- The request for all metrics. -/
def getMetrics : Request where
  method := .get
  target := .resource "/metrics".toList

/-- The request for one metric. -/
def getMetric (name : String) : Request where
  method := .get
  target := .resource (metricPath name).toList

theorem isPathChar_of_mem_metricPath {name : String} {c : Char}
    (mem : c ∈ (metricPath name).toList) : isPathChar c = true := by
  rw [metricPath, String.toList_append] at mem
  rcases List.mem_append.1 mem with front | segment
  · have plain : "/metrics/".toList.all isPathChar = true := by decide +kernel
    exact List.all_eq_true.1 plain c front
  · have := isSegmentChar_of_mem_encodeText segment
    rw [isSegmentChar, Bool.and_eq_true] at this
    exact this.1

/-- A path without a query or a fragment is read as it is. -/
theorem readPath?_of_isPathChar {cs : List Char} (ne : cs ≠ [])
    (plain : ∀ c ∈ cs, isPathChar c = true) : readPath? cs = some cs := by
  have others {stop : Char} (ends : isPathChar stop = false) : ∀ c ∈ cs, (c != stop) = true := by
    intro c mem
    refine bne_iff_ne.2 ?_
    rintro rfl
    exact absurd ((plain c mem).symm.trans ends) (by decide)
  have fragment : cs.takeWhile (· != '#') = cs := List.takeWhile_eq_self_iff.2 (others (by decide))
  have query : cs.span (· != '?') = (cs, []) := by
    rw [List.span_eq_takeWhile_dropWhile, List.takeWhile_eq_self_iff.2 (others (by decide)),
      List.dropWhile_eq_nil_iff.2 (others (by decide))]
  have path : cs.all isPathChar = true := List.all_eq_true.2 plain
  simp only [readPath?, fragment, query, path]
  simp [ne]

/-- The path of a metric makes its request, unless it is longer than any target. -/
theorem ofTexts?_metricPath {name : String}
    (short : (metricPath name).utf8ByteSize ≤ maxTargetSize) :
    Request.ofTexts? "GET" (metricPath name) [] = some (getMetric name) := by
  have begins : (metricPath name).toList =
      '/' :: ("metrics/".toList ++ (Percent.encodeText name).toList) := by
    rw [metricPath, String.toList_append]
    rfl
  have path : readPath? (metricPath name).toList = some (metricPath name).toList :=
    readPath?_of_isPathChar (by rw [begins]; exact List.cons_ne_nil _ _)
      fun c mem => isPathChar_of_mem_metricPath mem
  have target : Target.ofText? (metricPath name) = some (.resource (metricPath name).toList) := by
    rw [begins] at path ⊢
    rw [Target.ofText?, if_neg (Nat.not_lt.2 short), begins]
    show Target.resource <$> readPath? ('/' :: _) = _
    rw [path]
    rfl
  have token : isToken "GET" = true := by decide +kernel
  rw [Request.ofTexts?, token, target]
  rfl

/-- The request asks for the metric of that name, whatever signs are in it. -/
theorem asksFor_getMetric {name : String} (ne : name ≠ "") : AsksFor name (getMetric name) := by
  have slashless : '/' ∉ (Percent.encodeText name).toList := fun mem =>
    absurd (isSegmentChar_of_mem_encodeText mem) (by decide)
  exact ⟨.inl rfl, Percent.encodeText name, rfl, encodeText_ne_empty ne, slashless,
    Percent.decodeText?_encodeText name⟩

/-! ## Answers -/

variable {s t : Station} {name : String}

/-- The members of the answer that has all metrics. -/
def members (s : Station) : List (String × String) :=
  s.registry.entries.map fun entry => (entry.1, (s.shown entry.2).text)

theorem names_members (s : Station) : (members s).map (·.1) = s.registry.names := by
  simp [members, NameMap.names, Function.comp_def]

/-- The quoted names are as different as the names. -/
theorem nodup_keys_members (s : Station) :
    ((members s).map fun member => Json.stringText member.1).Nodup := by
  have keys : ((members s).map fun member => Json.stringText member.1) =
      s.registry.names.map Json.stringText := by
    rw [← names_members, List.map_map]
    rfl
  rw [keys]
  exact List.pairwise_map.2
    (s.registry.nodup_names.imp fun ne same => ne (Json.stringText_inj same))

theorem mem_members_iff {text : String} :
    (name, text) ∈ members s ↔
      ∃ handle, s.registry.find? name = some handle ∧ (s.shown handle).text = text := by
  simp only [members, List.mem_map, Prod.mk.injEq, Prod.exists]
  constructor
  · rintro ⟨_, handle, mem, rfl, shown⟩
    exact ⟨handle, NameMap.mem_entries_iff.1 mem, shown⟩
  · rintro ⟨handle, found, shown⟩
    exact ⟨name, handle, NameMap.mem_entries_iff.2 found, rfl, shown⟩

/-- The answer that has all metrics has of each what it shows. -/
theorem respond_getMetrics
    (steady : ∀ name handle, s.registry.find? name = some handle → handle.isSteady = true) :
    getMetrics.IsSent 200 (Json.objectText (members s)) (respond getMetrics s).value.1 := by
  have asks : AsksForAll getMetrics := ⟨.inl rfl, rfl⟩
  have every : ∀ entry ∈ s.registry.entries, entry.2.isSteady = true :=
    fun entry mem => steady entry.1 entry.2 (NameMap.mem_entries_iff.1 mem)
  have text : (Station.jsonOfSamples
      (s.registry.entries.mapM Station.sampleEntry s).value.1).render =
        Json.objectText (members s) := by
    rw [Station.shown_mapM_sampleEntry every, render_jsonOfSamples, textOf, List.map_map]
    rfl
  rw [respond_of_asksForAll asks, ← text]
  exact isSent_reply _ _ _

/-- The answer for one metric is what it shows. -/
theorem respond_getMetric (ne : name ≠ "") {handle : Handle}
    (found : s.registry.find? name = some handle) :
    (getMetric name).IsSent 200 (s.shown handle).text (respond (getMetric name) s).value.1 := by
  rw [respond_of_asksFor (asksFor_getMetric ne), found, ← Sample.render_json]
  exact isSent_reply _ _ _

/-- The text for a name under which there is no metric. -/
def unknownText (name : String) : String :=
  Json.objectText [("error", Json.stringText ("unknown metric: " ++ name))]

theorem respond_getMetric_of_none (ne : name ≠ "") (free : s.registry.find? name = none) :
    (getMetric name).IsSent 404 (unknownText name) (respond (getMetric name) s).value.1 := by
  have text : (unknownMetric name).render = unknownText name := Json.render_object _
  rw [respond_of_asksFor (asksFor_getMetric ne), free, ← text]
  exact isSent_reply _ _ _

/-! ## What requests do -/

/-- The station after requests, each of them some time after the one before. -/
def served (s : Station) (visits : List (Nat × Request)) : Station :=
  visits.foldl (fun s visit => (respond visit.2 (s.advance visit.1)).value.2) s

/-- Requests only look at the meters. -/
theorem looked_served (s : Station) (visits : List (Nat × Request)) :
    Station.Looked s (served s visits) := by
  induction visits generalizing s with
  | nil => exact .refl s
  | cons visit visits ih =>
    have after := station_respond visit.2 (s.advance visit.1)
    have first : Station.Looked s (respond visit.2 (s.advance visit.1)).value.2 := by
      rw [after]
      exact (Station.looked_advance s visit.1).trans (Station.looked_sampled _ _)
    exact first.trans (ih _)

/-- The station after requests at one instant. -/
def servedAtOnce (s : Station) (requests : List Request) : Station :=
  served s (requests.map fun request => (0, request))

/-- Requests do not show at their own instant. -/
theorem shown_servedAtOnce {handle : Handle} (steady : handle.isSteady = true) (s : Station)
    (requests : List Request) : (servedAtOnce s requests).shown handle = s.shown handle := by
  induction requests generalizing s with
  | nil => rfl
  | cons request requests ih =>
    have after := station_respond request s
    have first : (respond request s).value.2.shown handle = s.shown handle := by
      rw [after, Station.shown_sampled steady]
    exact (ih _).trans first

theorem registry_servedAtOnce (s : Station) (requests : List Request) :
    (servedAtOnce s requests).registry = s.registry :=
  (looked_served s _).registry

theorem members_servedAtOnce
    (steady : ∀ name handle, s.registry.find? name = some handle → handle.isSteady = true)
    (requests : List Request) : members (servedAtOnce s requests) = members s := by
  rw [members, members, registry_servedAtOnce]
  refine List.map_congr_left fun entry mem => ?_
  rw [shown_servedAtOnce (steady entry.1 entry.2 (NameMap.mem_entries_iff.1 mem))]

/-- The endpoints agree and leave no trace. Every path of a metric can be asked for that is not
longer than any target. The answer with all metrics has one member for each registered name, also
once the names are quoted, which can be read in one way only; its text is what the metric shows, in
which a float is a number that rounds to it. If reading the registered metrics does not change what
they show, then at one instant, whatever else is asked before, all metrics are sent with these
members, and for a name just the text of its member. For a name that is not registered it is sent
that there is no such metric, with the name. And requests at any times leave the names alone, and
every meter with its count and with all that it will show after further uses. -/
theorem endpoints_agree (s : Station) :
    let members := s.registry.entries.map fun entry => (entry.1, (s.shown entry.2).text)
    (∀ name, (metricPath name).utf8ByteSize ≤ maxTargetSize →
      Request.ofTexts? "GET" (metricPath name) [] = some (getMetric name)) ∧
    (∀ name, Json.Quotes (Json.stringText name) name) ∧
    (∀ x, Json.Shows (Json.floatText x) (Decimal.Reading.ofFloat x)) ∧
    members.map (·.1) = s.registry.names ∧
    (members.map fun member => Json.stringText member.1).Nodup ∧
    ((∀ name handle, s.registry.find? name = some handle → handle.isSteady = true) →
      ∀ requests,
        getMetrics.IsSent 200 (Json.objectText members)
          (respond getMetrics (servedAtOnce s requests)).value.1 ∧
        ∀ name text, (name, text) ∈ members → name ≠ "" →
          (getMetric name).IsSent 200 text
            (respond (getMetric name) (servedAtOnce s requests)).value.1) ∧
    (∀ name, name ∉ s.registry.names → name ≠ "" →
      (getMetric name).IsSent 404
        (Json.objectText [("error", Json.stringText ("unknown metric: " ++ name))])
        (respond (getMetric name) s).value.1) ∧
    ∀ visits, (served s visits).registry.names = s.registry.names ∧
      ∀ handle meter, s.meter? handle = some meter →
        ∃ after, (served s visits).meter? handle = some after ∧ after.count = meter.count ∧
          ∀ us late, Meter.InOrder us →
            (∀ u ∈ us, (served s visits).host.now ≤ u.instant ∧ u.instant ≤ late) →
            (served s visits).host.now ≤ late → meter.InReach late →
            ((after.uses us).snapshot late).1 = ((meter.uses us).snapshot late).1 := by
  refine ⟨fun name short => ofTexts?_metricPath short, Json.quotes_stringText, Json.shows_floatText,
    names_members s, nodup_keys_members s, fun steady requests => ⟨?_, ?_⟩, ?_, ?_⟩
  · have all := respond_getMetrics (s := servedAtOnce s requests) (by rwa [registry_servedAtOnce])
    rwa [members_servedAtOnce steady] at all
  · intro name text mem ne
    obtain ⟨handle, found, rfl⟩ := mem_members_iff.1 mem
    rw [← shown_servedAtOnce (steady name handle found) s requests]
    exact respond_getMetric ne (by rwa [registry_servedAtOnce])
  · intro name missing ne
    have free : s.registry.find? name = none :=
      Option.not_isSome_iff_eq_none.1 (mt NameMap.mem_names_iff.2 missing)
    exact respond_getMetric_of_none ne free
  · intro visits
    have looked := looked_served s visits
    exact ⟨congrArg NameMap.names looked.registry, fun handle meter there => looked.meter there⟩

/-- A station with a meter that counted five events, under a name of many signs, and two
constants. -/
def signStation : Station :=
  { Station.empty with
    meters := [(Meter.startingAt 0).mark 0 5]
    registry := .ofList [("sd a/reads%é", .meter 0), ("cpus", .constant (.integer 4)),
      ("idle", .constant (.float 1.25))] }

/-- Three requests within eight seconds. -/
def signVisits : List (Nat × Request) :=
  [(3 * second, getMetrics), (4 * second, getMetric "cpus"), (second, getMetric "sd a/reads%é")]

/-- The text of the meter. -/
def signText : String :=
  "\x7b\"type\":\"meter\",\"count\":5,\"meanRate\":0.0,\"oneMinuteRate\":0.0," ++
    "\"fiveMinuteRate\":0.0,\"fifteenMinuteRate\":0.0\x7d"

/-- The meter is served alike among all metrics and on its own, a name that is none is sent back in
quotes, and asking across a tick leaves what the meter shows later. -/
theorem endpoints_agree_signs :
    let all := (respond getMetrics (servedAtOnce signStation [])).value.1
    let one := (respond (getMetric "sd a/reads%é") (servedAtOnce signStation [getMetrics])).value.1
    let unknown := (respond (getMetric "\"sd a") signStation).value.1
    Request.ofTexts? "GET" "/metrics/sd%20a%2Freads%25%C3%A9" [] =
      some (getMetric "sd a/reads%é") ∧
    all.status = 200 ∧
    all.body = "\x7b\"cpus\":\x7b\"type\":\"gauge\",\"value\":4\x7d," ++
      "\"idle\":\x7b\"type\":\"gauge\",\"value\":1.25\x7d,\"sd a/reads%é\":" ++ signText ++ "\x7d" ∧
    one.status = 200 ∧ one.body = signText ∧
    unknown.status = 404 ∧
    unknown.body = "\x7b\"error\":\"unknown metric: \\\"sd a\"\x7d" ∧
    ∃ after, (served signStation signVisits).meter? (.meter 0) = some after ∧ after.count = 5 ∧
      (after.snapshot (20 * second)).1 =
        (((Meter.startingAt 0).mark 0 5).snapshot (20 * second)).1 := by
  intro all one unknown
  obtain ⟨asked, _, _, _, _, alike, missing, kept⟩ := endpoints_agree signStation
  have entries : ∀ entry ∈ signStation.registry.entries, entry.2.isSteady = true := by
    decide +kernel
  have answers := alike fun name handle found =>
    entries (name, handle) (NameMap.mem_entries_iff.2 found)
  have sentAll := (answers []).1
  have sentOne := (answers [getMetrics]).2 "sd a/reads%é" signText (by decide +kernel) (by decide)
  have sentNone := missing "\"sd a" (by decide +kernel) (by decide)
  obtain ⟨_, meters⟩ := kept signVisits
  obtain ⟨after, found, count, later⟩ := meters (.meter 0) ((Meter.startingAt 0).mark 0 5) rfl
  have path : metricPath "sd a/reads%é" = "/metrics/sd%20a%2Freads%25%C3%A9" := by decide +kernel
  exact ⟨path ▸ asked "sd a/reads%é" (by decide +kernel), sentAll.status,
    sentAll.body.trans (by decide +kernel), sentOne.status, sentOne.body, sentNone.status,
    sentNone.body.trans (by decide +kernel), after, found, count,
    later [] (20 * second) .nil nofun (by decide +kernel) (by decide +kernel)⟩

end HostVitals.Http
