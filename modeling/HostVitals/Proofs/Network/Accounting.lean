import HostVitals.Proofs.Collector.Run
import HostVitals.Proofs.Counter.Gain
import HostVitals.Proofs.Network.Rows

/-!
# Accounting for interface counters

Over any run of refreshes a column counts what its readings amount to: no increase is lost
when a refresh fails or does not list the interface, and none is counted twice.

* `refresh_cases`: all that a refresh can do.
* `takenRow?`, `readings`: what a run reads of an interface and of one of its columns.
* `WellShaped`: every interface has one column per column of the header.

`tally?_next` says what one refresh does to the tally of a column, and `interface_run_accounts`
what a run does to all of them.
-/

namespace HostVitals

open Logged Network

/-! ## One column -/

namespace Network

/-- The count and the baseline of a column. -/
def Column.tally (column : Column) : Tally where
  count := column.meter.count
  baseline := column.baseline

/-- A column takes a value as its tally does. -/
theorem Column.tally_take (now : Nat) (interface : String) (column : Column) (value : Nat) :
    (column.take now interface value).value.tally = column.tally.take 1 value := by
  unfold Column.take
  rw [increase?_eq]
  by_cases back : value < column.baseline
  · simp [back, Column.tally, Tally.take, gain_of_lt]
  · simp [back, Column.tally, Tally.take]

namespace Interface

/-- The tallies of an interface that has one column per value are taken value by value. -/
theorem tally_mark {now : Nat} {interface : Interface} {values : List Nat}
    (shape : values.length = interface.columns.length) (i : Nat) :
    ((interface.mark now values).value.columns[i]?).map Column.tally =
      (interface.columns[i]?).map fun column => column.tally.take 1 (values.getD i 0) := by
  simp only [mark, value_bind, value_pure, value_mapM, List.getElem?_map]
  cases inside : interface.columns[i]? with
  | none =>
    have out : interface.columns.length ≤ i := List.getElem?_eq_none_iff.1 inside
    rw [List.getElem?_eq_none (by rw [List.length_zip]; omega)]
    rfl
  | some column =>
    obtain ⟨bound, rfl⟩ := List.getElem?_eq_some_iff.1 inside
    rw [List.getElem?_eq_getElem (by rw [List.length_zip]; omega), List.getElem_zip,
      List.getD_eq_getElem?_getD, List.getElem?_eq_getElem (by omega)]
    exact congrArg some (Column.tally_take now interface.name _ _)

@[simp] theorem length_columns_mark {now : Nat} {interface : Interface} {values : List Nat}
    (shape : values.length = interface.columns.length) :
    (interface.mark now values).value.columns.length = interface.columns.length := by
  simp [mark, value_mapM, shape]

@[simp] theorem name_mark (now : Nat) (interface : Interface) (values : List Nat) :
    (interface.mark now values).value.name = interface.name := rfl

end Interface

end Network

namespace NetworkDevices

/-! ## One refresh -/

/-- A refresh fails and changes nothing, or it reads every row and marks the interfaces. -/
theorem refresh_cases (host : Host) (devices : NetworkDevices) :
    (∃ fault, (Collector.refresh host devices).value = ⟨devices, some fault⟩) ∨
    ∃ text rows, host.readSource devices.path = .ok text ∧
      readRows devices.columns.length devices.path text.toList = .ok rows ∧
      (Collector.refresh host devices).value =
        ⟨{ devices with
            interfaces :=
              ((firstPerName rows).foldlM (markRow host.now) devices.interfaces).value },
          none⟩ := by
  cases source : host.readSource devices.path with
  | error fault =>
    refine .inl ⟨fault, ?_⟩
    simp [Collector.refresh, currentRows, source, bind, Except.bind]
  | ok text =>
    cases read : readRows devices.columns.length devices.path text.toList with
    | error fault =>
      refine .inl ⟨fault, ?_⟩
      simp [Collector.refresh, currentRows, source, read, bind, Except.bind]
    | ok rows =>
      refine .inr ⟨text, rows, rfl, read, ?_⟩
      simp [Collector.refresh, currentRows, source, read, bind, Except.bind, Logged.andThen]

/-- The row that a refresh takes for an interface: the first well-formed one with its name,
if the refresh does not fail. -/
def takenRow? (name : String) (host : Host) (devices : NetworkDevices) : Option Row :=
  match (Collector.refresh host devices).value.fault?, host.readSource devices.path with
  | none, .ok text => firstRow? devices.columns.length devices.path name text.toList
  | _, _ => none

theorem takenRow?_eq_firstRow? {host : Host} {devices : NetworkDevices} {text : String}
    (source : host.readSource devices.path = .ok text)
    (succeeds : (Collector.refresh host devices).value.fault? = none) (name : String) :
    takenRow? name host devices =
      firstRow? devices.columns.length devices.path name text.toList := by
  rw [takenRow?, succeeds, source]

theorem length_counters_of_takenRow? {name : String} {host : Host} {devices : NetworkDevices}
    {row : Row} (h : takenRow? name host devices = some row) :
    row.counters.length = devices.columns.length := by
  unfold takenRow? at h
  split at h
  · exact length_counters_of_firstRow? h
  · cases h

@[simp] theorem columns_next (devices : NetworkDevices) (host : Host) :
    (Collector.next devices host).columns = devices.columns := by
  obtain ⟨fault, outcome⟩ | ⟨text, rows, _, _, outcome⟩ := refresh_cases host devices <;>
    rw [Collector.next, outcome]

@[simp] theorem path_next (devices : NetworkDevices) (host : Host) :
    (Collector.next devices host).path = devices.path := by
  obtain ⟨fault, outcome⟩ | ⟨text, rows, _, _, outcome⟩ := refresh_cases host devices <;>
    rw [Collector.next, outcome]

/-- A refresh marks an interface with the row that it takes, and changes no other. -/
theorem find?_next (devices : NetworkDevices) (host : Host) (name : String) :
    (Collector.next devices host).interfaces.find? name =
      (takenRow? name host devices).elim (devices.interfaces.find? name) fun row =>
        (devices.interfaces.find? name).map fun interface =>
          (interface.mark host.now row.counters).value := by
  obtain ⟨fault, outcome⟩ | ⟨text, rows, source, read, outcome⟩ := refresh_cases host devices
  · have taken : takenRow? name host devices = none := by rw [takenRow?, outcome]
    rw [Collector.next, outcome, taken]
    rfl
  · have taken : takenRow? name host devices = rows.find? (·.name == name) := by
      rw [takenRow?, outcome, source]
      exact firstRow?_eq_of_readRows read name
    rw [Collector.next, outcome, taken, ← find?_firstPerName]
    exact find?_markRows (pairwise_firstPerName rows) host.now devices.interfaces name

/-! ## The shape -/

/-- Every interface has its own name and one column per column of the header. -/
def WellShaped (devices : NetworkDevices) : Prop :=
  ∀ name interface, devices.interfaces.find? name = some interface →
    interface.name = name ∧ interface.columns.length = devices.columns.length

theorem wellShaped_of_create {host : Host} {procRoot : String} {devices : NetworkDevices}
    (created : (create host procRoot).value = .ok devices) : WellShaped devices := by
  intro name interface known
  obtain ⟨text, _, seeds⟩ := of_create created
  rw [seeds name] at known
  obtain ⟨row, first, rfl⟩ := Option.map_eq_some_iff.1 known
  have named : row.name = name := by simpa using List.find?_some first
  exact ⟨named, by simpa [Interface.seeded] using length_counters_of_firstRow? first⟩

theorem wellShaped_next (devices : NetworkDevices) (host : Host) (shaped : WellShaped devices) :
    WellShaped (Collector.next devices host) := by
  intro name interface known
  rw [columns_next]
  rw [find?_next] at known
  cases taken : takenRow? name host devices with
  | none =>
    rw [taken] at known
    exact shaped name interface known
  | some row =>
    rw [taken] at known
    obtain ⟨before, knownBefore, rfl⟩ := Option.map_eq_some_iff.1 known
    obtain ⟨named, shape⟩ := shaped name before knownBefore
    have fits := (length_counters_of_takenRow? taken).trans shape.symm
    exact ⟨named, (Interface.length_columns_mark fits).trans shape⟩

/-- A state that a collector gets into: it was created on some host and refreshed on others. -/
def Reached (devices : NetworkDevices) : Prop :=
  ∃ host procRoot fresh hosts, (create host procRoot).value = .ok fresh ∧
    devices = Collector.run fresh hosts

theorem Reached.wellShaped {devices : NetworkDevices} (reached : Reached devices) :
    WellShaped devices := by
  obtain ⟨_, _, _, hosts, created, rfl⟩ := reached
  exact Collector.run_keeps wellShaped_next (wellShaped_of_create created) hosts

/-! ## Runs -/

/-- The tally of a column of an interface. -/
def tally? (name : String) (i : Nat) (devices : NetworkDevices) : Option Tally :=
  (devices.interfaces.find? name).bind fun interface =>
    (interface.columns[i]?).map Column.tally

/-- A refresh takes into each tally the value of the row that it takes. -/
theorem tally?_next (name : String) (i : Nat) (devices : NetworkDevices) (host : Host)
    (shaped : WellShaped devices) :
    tally? name i (Collector.next devices host) =
      (takenRow? name host devices).elim (tally? name i devices) fun row =>
        (tally? name i devices).map (·.take 1 (row.counters.getD i 0)) := by
  unfold tally?
  rw [find?_next]
  cases taken : takenRow? name host devices with
  | none => rfl
  | some row =>
    cases known : devices.interfaces.find? name with
    | none => rfl
    | some interface =>
      have fits : row.counters.length = interface.columns.length :=
        (length_counters_of_takenRow? taken).trans (shaped name interface known).2.symm
      simp only [Option.elim_some, Option.map_some, Option.bind_some, Option.map_map]
      exact Interface.tally_mark fits i

/-- The rows that a run takes for an interface. -/
def takenRows (name : String) (devices : NetworkDevices) (hosts : List Host) : List Row :=
  Collector.found (takenRow? name) devices hosts

/-- The readings of a column of an interface in a run. -/
def readings (name : String) (i : Nat) (devices : NetworkDevices) (hosts : List Host) :
    List Nat :=
  (takenRows name devices hosts).map (·.counters.getD i 0)

theorem columns_run (devices : NetworkDevices) (hosts : List Host) :
    (Collector.run devices hosts).columns = devices.columns :=
  Collector.run_keeps (P := fun d : NetworkDevices => d.columns = devices.columns)
    (fun d host h => (columns_next d host).trans h) rfl hosts

theorem isSome_find?_run (devices : NetworkDevices) (hosts : List Host) (name : String) :
    ((Collector.run devices hosts).interfaces.find? name).isSome =
      (devices.interfaces.find? name).isSome := by
  refine Collector.run_keeps
    (P := fun d : NetworkDevices =>
      (d.interfaces.find? name).isSome = (devices.interfaces.find? name).isSome)
    (fun d host h => ?_) rfl hosts
  rw [← h, find?_next]
  cases takenRow? name host d <;> simp

/-- A run takes the readings of a column into its tally. -/
theorem tally?_run {devices : NetworkDevices} (shaped : WellShaped devices) (hosts : List Host)
    (name : String) (i : Nat) :
    tally? name i (Collector.run devices hosts) =
      (tally? name i devices).map ((readings name i devices hosts).foldl (Tally.take 1)) := by
  rw [Collector.view_run (takenRow? name) (tally? name i)
    (fun t row => t.take 1 (row.counters.getD i 0)) wellShaped_next
    (fun d host h => tally?_next name i d host h) shaped hosts]
  refine congrArg (Option.map · _) (funext fun t => ?_)
  rw [← List.foldl_map (f := fun row : Row => row.counters.getD i 0)]
  rfl

/-- A new interface has counted nothing, and counts on from its first row. -/
theorem tally?_of_seeded {devices : NetworkDevices} {name : String} {now : Nat} {seed : Row}
    (known : devices.interfaces.find? name = some (.seeded now seed.name seed.counters)) {i : Nat}
    (inside : i < seed.counters.length) :
    tally? name i devices = some ⟨0, seed.counters.getD i 0⟩ := by
  rw [tally?, known, Option.bind_some, Interface.seeded, List.getElem?_map,
    List.getD_eq_getElem?_getD, List.getElem?_eq_getElem inside]
  rfl

/-- After a run a column that was seeded with a row accounts for what the run reads. -/
theorem column_accounts_run {devices : NetworkDevices} (shaped : WellShaped devices)
    {name : String} {now : Nat} {seed : Row}
    (known : devices.interfaces.find? name = some (.seeded now seed.name seed.counters)) {i : Nat}
    (inside : i < seed.counters.length) (hosts : List Host) :
    ∃ column,
      ((Collector.run devices hosts).interfaces.find? name).bind (·.columns[i]?) = some column ∧
      column.tally.Accounts 1 (seed.counters.getD i 0) (readings name i devices hosts) := by
  have after := tally?_run shaped hosts name i
  rw [tally?_of_seeded known inside, Option.map_some] at after
  obtain ⟨interface, found, tallied⟩ := Option.bind_eq_some_iff.1 after
  obtain ⟨column, atColumn, tally⟩ := Option.map_eq_some_iff.1 tallied
  refine ⟨column, by rw [found]; exact atColumn, ?_⟩
  rw [tally]
  exact Tally.accounts_foldl_take 1 _ _

/-- Every row that a run takes for an interface has its name and one counter per column. -/
theorem forall_mem_takenRows (name : String) (devices : NetworkDevices) (hosts : List Host) :
    ∀ row ∈ takenRows name devices hosts,
      row.name = name ∧ row.counters.length = devices.columns.length := by
  refine Collector.forall_mem_found (P := fun d : NetworkDevices => d.columns = devices.columns)
    (fun d host h => (columns_next d host).trans h) ?_ rfl hosts
  intro d host row same taken
  refine ⟨?_, same ▸ length_counters_of_takenRow? taken⟩
  unfold takenRow? at taken
  split at taken
  · exact name_of_firstRow? taken
  · cases taken

/-- No increase is lost or counted twice. Whatever the refreshes of a run meet, the columns
and the interfaces stay those of the creation, every interface keeps one meter and one
baseline per column, and the column accounts for its readings: those of the first
well-formed row at creation, and of the rows that the run takes. So while a counter never
goes backwards and grows by no more than can be marked at once, its meter has counted the
whole increase, whichever refreshes failed or did not list the interface. -/
theorem interface_run_accounts {first : Host} {procRoot : String} {devices : NetworkDevices}
    (created : (create first procRoot).value = .ok devices) (hosts : List Host) :
    (Collector.run devices hosts).columns = devices.columns ∧
    (Collector.run devices hosts).interfaces.names = devices.interfaces.names ∧
    (∀ name interface, (Collector.run devices hosts).interfaces.find? name = some interface →
      interface.columns.length = devices.columns.length ∧
      interface.baseline.length = devices.columns.length) ∧
    ∃ text, first.readSource devices.path = .ok text ∧
      ∀ name ∈ devices.interfaces.names, ∃ seed,
        firstRow? devices.columns.length devices.path name text.toList = some seed ∧
        (∀ row ∈ seed :: takenRows name devices hosts,
          row.name = name ∧ row.counters.length = devices.columns.length) ∧
        ∀ i < devices.columns.length, ∃ column,
          ((Collector.run devices hosts).interfaces.find? name).bind (·.columns[i]?) =
            some column ∧
          column.tally.Accounts 1 (seed.counters.getD i 0) (readings name i devices hosts) ∧
          ((seed.counters.getD i 0 :: readings name i devices hosts).Pairwise (· ≤ ·) →
            column.baseline - seed.counters.getD i 0 ≤ maxMark →
            column.meter.count.toInt = (column.baseline : Int) - seed.counters.getD i 0) := by
  have shaped := wellShaped_of_create created
  have columns := columns_run devices hosts
  obtain ⟨text, source, seeds⟩ := of_create created
  refine ⟨columns, NameMap.names_eq_of_isSome (isSome_find?_run devices hosts), ?_, text, source,
    ?_⟩
  · intro name interface known
    have width := (Collector.run_keeps wellShaped_next shaped hosts name interface known).2
    rw [columns] at width
    exact ⟨width, by rw [Interface.baseline, List.length_map, width]⟩
  intro name mem
  obtain ⟨interface, known⟩ := Option.isSome_iff_exists.1 (NameMap.mem_names_iff.1 mem)
  obtain ⟨seed, firstRow, rfl⟩ := Option.map_eq_some_iff.1 ((seeds name).symm.trans known)
  have seedWidth := length_counters_of_firstRow? firstRow
  refine ⟨seed, firstRow, ?_, fun i inside => ?_⟩
  · intro row mem
    rcases List.mem_cons.1 mem with rfl | later
    · exact ⟨name_of_firstRow? firstRow, seedWidth⟩
    · exact forall_mem_takenRows name devices hosts row later
  obtain ⟨column, atColumn, accounts⟩ :=
    column_accounts_run shaped known (seedWidth ▸ inside) hosts
  refine ⟨column, atColumn, accounts, fun grows fits => ?_⟩
  have last : column.baseline = _ := accounts.baseline
  rw [last] at fits ⊢
  have whole := accounts.toInt_count grows (by rw [Nat.mul_one]; exact fits)
  rw [Int.natCast_one, Int.mul_one] at whole
  exact whole

/-- A table with one counter in each direction and these rows. -/
def table (rows : String) : String :=
  "head\n|bytes|bytes\n" ++ rows

/-- A host with such a table. -/
def tableHost (now : Nat) (rows : String) : Host where
  now := now
  files := FileTree.empty.write "proc/net/dev" (table rows).toUTF8
  mounts := .empty

/-- The interfaces of a table with two rows. -/
def tableDevices : NetworkDevices :=
  (create (tableHost 0 "eth0: 5 1\n") "proc").value.toOption.getD ⟨"", [], .empty⟩

/-- A malformed row, an interface that is not listed and a missing file, and a good table
at last. -/
def tableHosts : List Host :=
  [tableHost 1 "eth0: 9 1\n  lo: 0\n", tableHost 2 "lo: 7 7\n",
    { tableHost 3 "" with files := .empty }, tableHost 4 "  eth0:12 0\neth0: 99 99\n"]

/-- The good table shows the whole increase since the creation. -/
theorem interface_run_accounts_gap :
    (create (tableHost 0 "eth0: 5 1\n") "proc").value = .ok tableDevices ∧
    ∃ column,
      ((Collector.run tableDevices tableHosts).interfaces.find? "eth0").bind (·.columns[0]?) =
        some column ∧
      column.baseline = 12 ∧ column.meter.count.toInt = 7 := by
  have created : (create (tableHost 0 "eth0: 5 1\n") "proc").value = .ok tableDevices :=
    Collector.eq_ok_getD _ (by decide +kernel)
  obtain ⟨_, _, _, text, source, interfaces⟩ := interface_run_accounts created tableHosts
  obtain ⟨seed, first, _, columns⟩ := interfaces "eth0" (by decide +kernel)
  obtain ⟨column, found, accounts, whole⟩ := columns 0 (by decide +kernel)
  have sourceText : ((tableHost 0 "eth0: 5 1\n").readSource tableDevices.path).toOption =
      some (table "eth0: 5 1\n") := by decide +kernel
  rw [source] at sourceText
  cases sourceText
  have firstRow : firstRow? tableDevices.columns.length tableDevices.path "eth0"
      (table "eth0: 5 1\n").toList = some ⟨"eth0", [5, 1]⟩ := by decide +kernel
  cases first.symm.trans firstRow
  have read : readings "eth0" 0 tableDevices tableHosts = [12] := by decide +kernel
  rw [read] at accounts whole
  have last : column.baseline = 12 := accounts.baseline
  rw [last] at whole
  exact ⟨created, column, found, last, whole (by decide) (by decide)⟩

end NetworkDevices

end HostVitals
