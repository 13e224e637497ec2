import HostVitals.Memory
import HostVitals.Proofs.Collector.Run

/-!
# Memory gauges show the latest text

A refresh replaces the memory table as a whole. Whatever was read before, the gauges show one
text, that of the last refresh, or nothing but zeros if it could not be read.

* `tableOn`: the table of the source as it stands on a host, empty if it cannot be read.
* `gaugesOf`: the gauges of a list of keys.

`find?_gaugesOf` says which key a gauge shows, `run_eq` that a run leaves the table of its last
refresh, and `gauges_show_latest` what the gauges show in any run.
-/

namespace HostVitals.MemoryInfo

open Logged
open Text (join lowerCase)

/-! ## Gauges -/

/-- The gauges of a list of keys, each with the key that it shows. -/
def gaugesOf (keys : List String) : NameMap String :=
  keys.foldl (fun gauges key => gauges.insertNew (lowerCase key) key) .empty

theorem value_addGauge (gauges : NameMap String) (key : String) :
    (addGauge gauges key).value = gauges.insertNew (lowerCase key) key := by
  simp only [addGauge, NameMap.insertNew]
  split <;> rfl

/-- A gauge shows the first key with its name as lower-case form. -/
theorem find?_gaugesOf (keys : List String) (name : String) :
    (gaugesOf keys).find? name = keys.find? fun key => lowerCase key == name := by
  rw [gaugesOf, NameMap.find?_foldl_insertNew lowerCase (fun key => key) keys, NameMap.find?_empty,
    Option.none_or, Option.map_id']

theorem mem_names_gaugesOf_iff {keys : List String} {name : String} :
    name ∈ (gaugesOf keys).names ↔ ∃ key ∈ keys, lowerCase key = name := by
  rw [NameMap.mem_names_iff, find?_gaugesOf, List.find?_isSome]
  simp only [beq_iff_eq]

/-! ## Refreshes -/

/-- The table of the source as it stands, empty if it cannot be read. -/
def tableOn (path : String) (host : Host) : NameMap Nat :=
  match host.readSource path with
  | .ok text => table text.toList
  | .error _ => .empty

theorem tableOn_of_readable {path text : String} {host : Host}
    (readable : host.readSource path = .ok text) : tableOn path host = table text.toList := by
  rw [tableOn, readable]

theorem tableOn_of_unreadable {path : String} {host : Host} {fault : CollectorFault}
    (unreadable : host.readSource path = .error fault) : tableOn path host = .empty := by
  rw [tableOn, unreadable]

/-- A refresh puts the table of the source in the place of the one before. -/
theorem next_eq (memory : MemoryInfo) (host : Host) :
    Collector.next memory host = { memory with current := tableOn memory.path host } := by
  simp only [Collector.next, Collector.refresh, tableOn]
  cases host.readSource memory.path <;> rfl

/-- A refresh fails if the source cannot be read, and says why. -/
theorem fault?_refresh (host : Host) (memory : MemoryInfo) :
    (Collector.refresh host memory).value.fault? =
      match host.readSource memory.path with
      | .ok _ => none
      | .error fault => some fault := by
  simp only [Collector.refresh]
  cases host.readSource memory.path <;> rfl

theorem run_eq (memory : MemoryInfo) (hosts : List Host) :
    Collector.run memory hosts =
      { memory with
        current := (hosts.getLast?.map (tableOn memory.path)).getD memory.current } := by
  induction hosts generalizing memory with
  | nil => rfl
  | cons host hosts ih =>
    rw [Collector.run_cons, ih, next_eq, List.getLast?_cons]
    cases hosts.getLast? <;> rfl

theorem value_create {host : Host} {procRoot text : String}
    (readable : host.readSource (join procRoot "meminfo") = .ok text) (keys : List String) :
    (create host procRoot keys).value =
      .ok {
        path := join procRoot "meminfo"
        current := table text.toList
        gauges := gaugesOf keys } := by
  have added : (keys.foldlM addGauge .empty).value = gaugesOf keys := by
    rw [value_foldlM, gaugesOf]
    simp only [value_addGauge]
  rw [← added]
  simp only [create, readable]
  rfl

/-- What the gauges show in any run. If the source can be read when the collector is created, its
gauges have the lower-case forms of the listed keys as their names, each once and for ever. A gauge
shows what the first listed key with its name as lower-case form has in the table of the source as
it was at the last refresh, or at the creation, and zero if the key is not there or the source could
not be read. A refresh fails if it cannot read the source, with that as its fault, and then every
gauge shows zero. Of anything read before the last refresh there is no trace. -/
theorem gauges_show_latest {host : Host} {procRoot text : String}
    (readable : host.readSource (join procRoot "meminfo") = .ok text) (keys : List String) :
    ∃ memory, (create host procRoot keys).value = .ok memory ∧ ∀ hosts : List Host,
      let after := Collector.run memory hosts
      let shown := tableOn (join procRoot "meminfo") (hosts.getLastD host)
      after.gauges = memory.gauges ∧ after.gauges.names.Nodup ∧
      (∀ name, name ∈ after.gauges.names ↔ ∃ key ∈ keys, lowerCase key = name) ∧
      (∀ name, after.gauge? name =
        (keys.find? fun key => lowerCase key == name).map fun key => (shown.find? key).getD 0) ∧
      (∀ next text, next.readSource (join procRoot "meminfo") = .ok text →
        (Collector.refresh next after).value.fault? = none ∧
          (Collector.next after next).current = table text.toList) ∧
      (∀ next fault, next.readSource (join procRoot "meminfo") = .error fault →
        (Collector.refresh next after).value.fault? = some fault ∧
          ∀ name ∈ after.gauges.names, (Collector.next after next).gauge? name = some 0) ∧
      ∀ next, Collector.next after next = Collector.next memory next := by
  refine ⟨_, value_create readable keys, fun hosts => ?_⟩
  intro after shown
  have state : after = ⟨join procRoot "meminfo", shown, gaugesOf keys⟩ := by
    simp only [after, shown, run_eq, List.getLastD_eq_getLast?]
    cases hosts.getLast? with
    | none => rw [Option.map_none, Option.getD_none, Option.getD_none, tableOn_of_readable readable]
    | some _ => rfl
  rw [state]
  refine ⟨rfl, NameMap.nodup_names _, fun name => mem_names_gaugesOf_iff, fun name => ?_,
    fun next text readable => ⟨?_, ?_⟩, fun next fault unreadable => ⟨?_, fun name listed => ?_⟩,
    fun next => ?_⟩
  · rw [gauge?, find?_gaugesOf]
    rfl
  · rw [fault?_refresh, readable]
  · rw [next_eq, tableOn_of_readable readable]
  · rw [fault?_refresh, unreadable]
  · obtain ⟨key, shows⟩ := Option.isSome_iff_exists.1 (NameMap.mem_names_iff.1 listed)
    rw [next_eq, gauge?, shows, tableOn_of_unreadable unreadable]
    rfl
  · rw [next_eq, next_eq]

/-- A host with nothing on it but a memory source. -/
def textHost (text : String) : Host where
  now := 0
  files := FileTree.empty.write "proc/meminfo" text.toUTF8
  mounts := .empty

/-- A text, no source at all, and another text. -/
def textHosts : List Host :=
  [textHost "Cached: 3 kB\n", { textHost "" with files := .empty },
    textHost "active: 4 kB\nActive: 7 kB\n"]

/-- Of two keys that differ by case only the first is shown, and what was read before the source
went away does not come back with it. -/
theorem gauges_show_latest_first_key :
    ∃ memory,
      (create (textHost "Cached: 9 kB\n") "proc" ["Active", "active", "Cached"]).value =
        .ok memory ∧
      memory.gauge? "active" = some 0 ∧ memory.gauge? "cached" = some 9 ∧
      (Collector.run memory (textHosts.take 2)).gauge? "cached" = some 0 ∧
      (Collector.run memory textHosts).gauge? "active" = some 7 ∧
      (Collector.run memory textHosts).gauge? "cached" = some 0 := by
  have readable : (textHost "Cached: 9 kB\n").readSource (join "proc" "meminfo") = .ok _ :=
    Collector.eq_ok_getD "" (by decide +kernel)
  obtain ⟨memory, created, runs⟩ := gauges_show_latest readable ["Active", "active", "Cached"]
  have shows (hosts : List Host) := (runs hosts).2.2.2.1
  exact ⟨memory, created, (shows [] _).trans (by decide +kernel),
    (shows [] _).trans (by decide +kernel), (shows _ _).trans (by decide +kernel),
    (shows _ _).trans (by decide +kernel), (shows _ _).trans (by decide +kernel)⟩

end HostVitals.MemoryInfo
