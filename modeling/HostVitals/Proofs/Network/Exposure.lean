import HostVitals.Proofs.NameMap.Listed
import HostVitals.Proofs.Network.Accounting

/-!
# Which columns are exposed

The meters of an interface stand column by column, and are shown under the names of the columns.
Where the header gives two columns one name only the later of them is shown.

* `exposed?`: the meter that is shown under a metric name.
* `meter?_run`: what the meter of a column has counted after a run.
* `metrics_expose_last_columns`: what is shown, and that every column is exactly if no name is given
  twice.
-/

namespace HostVitals

open Network

namespace NetworkDevices

/-- The meter that an interface shows under a metric name. -/
def exposed? (devices : NetworkDevices) (interface name : String) : Option Meter :=
  (devices.metrics.find? name).bind (devices.meter? interface)

theorem metrics_run (devices : NetworkDevices) (hosts : List Host) :
    (Collector.run devices hosts).metrics = devices.metrics := by
  rw [metrics, columns_run]
  rfl

theorem find?_metrics {devices : NetworkDevices} {name : String} {i : Nat} :
    devices.metrics.find? name = some i ↔ LastNamed devices.columns name i :=
  NameMap.find?_ofList_zipIdx

/-- There are as many metrics as columns if no two columns have one name. -/
theorem size_metrics_eq_iff {devices : NetworkDevices} :
    devices.metrics.size = devices.columns.length ↔ devices.columns.Nodup :=
  NameMap.size_eq_length_iff fun _ => NameMap.isSome_find?_ofList_zipIdx

/-- The columns are shown each under its own name if no two of them have one name. -/
theorem forall_find?_metrics_iff {devices : NetworkDevices} :
    (∀ i name, devices.columns[i]? = some name → devices.metrics.find? name = some i) ↔
      devices.columns.Nodup := by
  simp only [find?_metrics, LastNamed, List.nodup_iff_getElem?_ne_getElem?]
  constructor
  · intro each i j less inside same
    have named : devices.columns[i]? = some devices.columns[i] := List.getElem?_eq_getElem _
    exact (each i _ named).2 j less (same.symm.trans named)
  · intro distinct i name named
    refine ⟨named, fun j less named' => ?_⟩
    exact distinct i j less (List.getElem?_eq_some_iff.1 named').1 (named.trans named'.symm)

/-- After a run the meter of a column has counted the gains of what the run reads in that column. -/
theorem meter?_run {devices : NetworkDevices} (shaped : WellShaped devices)
    {name : String} {now : Nat} {seed : Row}
    (known : devices.interfaces.find? name = some (.seeded now seed.name seed.counters)) {i : Nat}
    (inside : i < seed.counters.length) (hosts : List Host) :
    ∃ meter, (Collector.run devices hosts).meter? name i = some meter ∧
      meter.count =
        Int64.ofNat (gains 1 (seed.counters.getD i 0) (readings name i devices hosts)) := by
  obtain ⟨column, atColumn, accounts⟩ := column_accounts_run shaped known inside hosts
  obtain ⟨interface, found, at_i⟩ := Option.bind_eq_some_iff.1 atColumn
  refine ⟨column.meter, ?_, accounts.count⟩
  simp [meter?, found, at_i]

/-- What is shown after any run. A name shows the last column that has it, so that an earlier column
of that name is shown nowhere: there are as many metrics as different names, and each column has one
of its own exactly if no name is given twice. What a name shows is the meter of its column, which has
counted the gains of what the run reads in that column. -/
theorem metrics_expose_last_columns {first : Host} {procRoot : String} {devices : NetworkDevices}
    (created : (create first procRoot).value = .ok devices) (hosts : List Host) :
    (∀ name i, (Collector.run devices hosts).metrics.find? name = some i ↔
      LastNamed devices.columns name i) ∧
    (Collector.run devices hosts).metrics.size = devices.columns.dedup.length ∧
    ((Collector.run devices hosts).metrics.size = devices.columns.length ↔
      devices.columns.Nodup) ∧
    ((∀ i name, devices.columns[i]? = some name →
        (Collector.run devices hosts).metrics.find? name = some i) ↔ devices.columns.Nodup) ∧
    ∃ text, first.readSource devices.path = .ok text ∧
      ∀ interface ∈ devices.interfaces.names, ∃ seed,
        firstRow? devices.columns.length devices.path interface text.toList = some seed ∧
        ∀ name i, LastNamed devices.columns name i → ∃ meter,
          (Collector.run devices hosts).exposed? interface name = some meter ∧
          (Collector.run devices hosts).meter? interface i = some meter ∧
          meter.count = Int64.ofNat
            (gains 1 (seed.counters.getD i 0) (readings interface i devices hosts)) := by
  rw [metrics_run]
  obtain ⟨text, source, seeds⟩ := of_create created
  refine ⟨fun name i => find?_metrics,
    NameMap.size_eq_length_dedup fun _ => NameMap.isSome_find?_ofList_zipIdx,
    size_metrics_eq_iff, forall_find?_metrics_iff, text, source, fun interface mem => ?_⟩
  obtain ⟨fresh, known⟩ := Option.isSome_iff_exists.1 (NameMap.mem_names_iff.1 mem)
  obtain ⟨seed, firstRow, rfl⟩ := Option.map_eq_some_iff.1 ((seeds interface).symm.trans known)
  refine ⟨seed, firstRow, fun name i last => ?_⟩
  have inside : i < seed.counters.length := by
    rw [length_counters_of_firstRow? firstRow]
    exact last.lt_length
  obtain ⟨meter, held, count⟩ :=
    meter?_run (wellShaped_of_create created) known inside hosts
  refine ⟨meter, ?_, held, count⟩
  rw [exposed?, metrics_run, find?_metrics.2 last, Option.bind_some, held]

/-- A host whose table names one counter twice. -/
def doubledHost (now : Nat) (row : String) : Host where
  now := now
  files := FileTree.empty.write "proc/net/dev"
    ("head\n|bytes bytes|packets\n" ++ row ++ "\n").toUTF8
  mounts := .empty

/-- The interface of that table. -/
def doubledDevices : NetworkDevices :=
  (create (doubledHost 0 "eth0: 10 20 30") "proc").value.toOption.getD ⟨"", [], .empty⟩

theorem create_doubled :
    (create (doubledHost 0 "eth0: 10 20 30") "proc").value = .ok doubledDevices :=
  Collector.eq_ok_getD _ (by decide +kernel)

/-- The second of the two counters is the one that is shown. -/
theorem metrics_expose_last_columns_doubled :
    (create (doubledHost 0 "eth0: 10 20 30") "proc").value = .ok doubledDevices ∧
    (Collector.run doubledDevices [doubledHost 1 "eth0: 17 25 30"]).metrics.size = 2 ∧
    ∃ meter, (Collector.run doubledDevices
        [doubledHost 1 "eth0: 17 25 30"]).exposed? "eth0" "receive.bytes" = some meter ∧
      meter.count = 5 := by
  obtain ⟨_, size, _, _, text, source, interfaces⟩ :=
    metrics_expose_last_columns create_doubled [doubledHost 1 "eth0: 17 25 30"]
  obtain ⟨seed, first, shown⟩ := interfaces "eth0" (by decide +kernel)
  have sourceText : ((doubledHost 0 "eth0: 10 20 30").readSource doubledDevices.path).toOption =
      some "head\n|bytes bytes|packets\neth0: 10 20 30\n" := by decide +kernel
  rw [source] at sourceText
  cases sourceText
  have firstRow : firstRow? doubledDevices.columns.length doubledDevices.path "eth0"
      "head\n|bytes bytes|packets\neth0: 10 20 30\n".toList = some ⟨"eth0", [10, 20, 30]⟩ := by
    decide +kernel
  cases first.symm.trans firstRow
  have columns : doubledDevices.columns =
      ["receive.bytes", "receive.bytes", "transmit.packets"] := by decide +kernel
  have last : LastNamed doubledDevices.columns "receive.bytes" 1 :=
    find?_metrics.1 (by decide +kernel)
  obtain ⟨meter, exposed, _, count⟩ := shown "receive.bytes" 1 last
  have read : readings "eth0" 1 doubledDevices [doubledHost 1 "eth0: 17 25 30"] = [25] := by
    decide +kernel
  rw [read] at count
  exact ⟨create_doubled, by rw [size, columns]; decide +kernel, meter, exposed, count⟩

/-- Not every column is shown, and what is shown under the name of a column is not always its
meter. -/
theorem metrics_hide_column :
    (¬ ∀ (first : Host) (procRoot : String) (devices : NetworkDevices) (hosts : List Host),
      (create first procRoot).value = .ok devices →
      (Collector.run devices hosts).metrics.size = devices.columns.length) ∧
    ¬ ∀ (first : Host) (procRoot : String) (devices : NetworkDevices) (hosts : List Host),
      (create first procRoot).value = .ok devices →
      ∀ interface ∈ devices.interfaces.names, ∀ i name, devices.columns[i]? = some name →
        (Collector.run devices hosts).exposed? interface name =
          (Collector.run devices hosts).meter? interface i := by
  constructor
  · intro all
    have same := all _ _ _ [] create_doubled
    have differ : doubledDevices.metrics.size ≠ doubledDevices.columns.length := by decide +kernel
    exact differ same
  · intro all
    have same := all _ _ _ [doubledHost 1 "eth0: 17 25 30"] create_doubled "eth0"
      (by decide +kernel) 0 "receive.bytes" (by decide +kernel)
    -- The column that is hidden has counted seven, and the other one five.
    have differ : ((Collector.run doubledDevices
        [doubledHost 1 "eth0: 17 25 30"]).exposed? "eth0" "receive.bytes").map (·.count) ≠
      ((Collector.run doubledDevices
        [doubledHost 1 "eth0: 17 25 30"]).meter? "eth0" 0).map (·.count) := by decide +kernel
    exact differ (congrArg (Option.map (·.count)) same)

end NetworkDevices

end HostVitals
