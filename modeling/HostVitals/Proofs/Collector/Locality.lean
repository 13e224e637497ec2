import HostVitals.Proofs.BlockDevice.Rows
import HostVitals.Proofs.Collector.Failure

/-!
# What a refresh depends on

A refresh looks at one row for each interface and for each block device: the first one with its
name. Whatever else is in the text, and in whatever order, makes no difference to it, and the same
text read again adds nothing to what has been counted.

* `Shuffled`: a list in another order, in which only neighbours that may pass each other did.
* `SameFirstRow`: two disk tables say the same of a device.
* `Unlike`: lines that do not name the same device, or interface.

For each of the two collectors `find?_next_congr` says which row counts and `next_of_shuffled` what
an order is worth, and `refresh_is_local` puts them together.
-/

namespace HostVitals

open Text

/-! ## Orders -/

/-- A list in another order, reached by letting neighbours that are apart change places. -/
inductive Shuffled {α : Type} (apart : α → α → Prop) : List α → List α → Prop
  | refl (as : List α) : Shuffled apart as as
  | cons (a : α) {as bs : List α} (rest : Shuffled apart as bs) :
      Shuffled apart (a :: as) (a :: bs)
  | swap {a b : α} (pass : apart a b) (as : List α) : Shuffled apart (a :: b :: as) (b :: a :: as)
  | trans {as bs cs : List α} (first : Shuffled apart as bs) (second : Shuffled apart bs cs) :
      Shuffled apart as cs

namespace Shuffled

variable {α : Type} {apart : α → α → Prop} {as bs : List α}

theorem perm (h : Shuffled apart as bs) : as.Perm bs := by
  induction h with
  | refl as => exact .refl as
  | cons a _ ih => exact ih.cons a
  | swap _ as => exact .swap _ _ as
  | trans _ _ first second => exact first.trans second

/-- Where all are apart every order will do. -/
theorem of_perm (symmetric : ∀ a b, apart a b → apart b a) (perm : as.Perm bs)
    (distinct : as.Pairwise apart) : Shuffled apart as bs := by
  induction perm with
  | nil => exact .refl []
  | cons a _ ih => exact .cons a (ih (List.pairwise_cons.1 distinct).2)
  | swap a b as => exact .swap ((List.pairwise_cons.1 distinct).1 a List.mem_cons_self) as
  | trans first _ ih ih' =>
    exact .trans (ih distinct) (ih' ((first.pairwise_iff (symmetric _ _)).1 distinct))

/-- The first of a kind stays the first of it where no two of the kind may pass each other. -/
theorem find?_eq {p : α → Bool} (h : Shuffled apart as bs)
    (ordered : ∀ a b, apart a b → p a = true → p b = false) : as.find? p = bs.find? p := by
  induction h with
  | refl => rfl
  | cons a _ ih => rw [List.find?_cons, List.find?_cons, ih]
  | @swap a b pass as =>
    rw [List.find?_cons, List.find?_cons, List.find?_cons, List.find?_cons]
    cases first : p a with
    | false => rfl
    | true => rw [ordered a b pass first]
  | trans _ _ first second => exact first.trans second

end Shuffled

/-- Two hosts at one instant, where a source can be read and says the one thing or the other. -/
structure ReadAtOnce (path : String) (host host' : Host) (text text' : String) : Prop where
  now : host.now = host'.now
  source : host.readSource path = .ok text
  source' : host'.readSource path = .ok text'

/-! ## Block devices -/

namespace BlockDevices

open BlockDevice (Counters Row)

/-- Two texts say the same of a device: the fields of its first rows are the same, or give the same
counters, or in neither of them give any, or it has no row in either. -/
inductive SameFirstRow (name : String) (a b : List Char) : Prop
  | fields {r s : Row} (first : firstRow? name a = some r) (second : firstRow? name b = some s)
      (same : (r.reads, r.sectorsRead, r.writes, r.sectorsWritten) =
        (s.reads, s.sectorsRead, s.writes, s.sectorsWritten))
  | counters {r s : Row} {values : Counters} (first : firstRow? name a = some r)
      (second : firstRow? name b = some s) (gives : r.Gives values) (gives' : s.Gives values)
  | faulty {r s : Row} (first : firstRow? name a = some r) (second : firstRow? name b = some s)
      (fault : ¬ ∃ values, r.Gives values) (fault' : ¬ ∃ values, s.Gives values)
  | absent (first : firstRow? name a = none) (second : firstRow? name b = none)

/-- Where one of two texts gives counters for a device the other gives the same. -/
theorem SameFirstRow.gives {name : String} {a b : List Char} (same : SameFirstRow name a b)
    {values : Counters} (given : ∃ row, firstRow? name a = some row ∧ row.Gives values) :
    ∃ row, firstRow? name b = some row ∧ row.Gives values := by
  obtain ⟨row, found, gives⟩ := given
  cases same with
  | @fields r s first second same =>
    obtain rfl : r = row := Option.some.inj (first.symm.trans found)
    obtain ⟨reads, sectorsRead, writes, sectorsWritten⟩ := by simpa only [Prod.mk.injEq] using same
    exact ⟨s, second, reads ▸ gives.reads, sectorsRead ▸ gives.sectorsRead, writes ▸ gives.writes,
      sectorsWritten ▸ gives.sectorsWritten⟩
  | @counters r s values' first second gives' given =>
    obtain rfl : r = row := Option.some.inj (first.symm.trans found)
    obtain rfl : values' = values := gives'.unique gives
    exact ⟨s, second, given⟩
  | @faulty r s first second fault _ =>
    obtain rfl : r = row := Option.some.inj (first.symm.trans found)
    exact absurd ⟨values, gives⟩ fault
  | absent first _ => cases first.symm.trans found

theorem SameFirstRow.symm {name : String} {a b : List Char} (same : SameFirstRow name a b) :
    SameFirstRow name b a := by
  cases same with
  | fields first second same => exact .fields second first same.symm
  | counters first second gives gives' => exact .counters second first gives' gives
  | faulty first second fault fault' => exact .faulty second first fault' fault
  | absent first second => exact .absent second first

/-- Only the first row of a device counts. -/
theorem find?_next_congr {host host' : Host} {disks : BlockDevices} {text text' name : String}
    (both : ReadAtOnce disks.path host host' text text')
    (same : SameFirstRow name text.toList text'.toList) :
    (Collector.next disks host).find? name = (Collector.next disks host').find? name := by
  have taken : takenCounters? name host disks = takenCounters? name host' disks := by
    ext values
    rw [takenCounters?_eq_some_iff both.source, takenCounters?_eq_some_iff both.source']
    exact ⟨same.gives, same.symm.gives⟩
  rw [find?_next, find?_next, taken, both.now]

/-- Two lines that are not rows of one device. -/
def Unlike (line other : List Char) : Prop :=
  ∀ row row', Row.ofLine? line = some row → Row.ofLine? other = some row' → row.name ≠ row'.name

/-- Every device keeps its first row. -/
theorem firstRow?_of_shuffled {a b : List Char} (shuffled : Shuffled Unlike (lines a) (lines b))
    (name : String) : firstRow? name a = firstRow? name b := by
  rw [firstRow?, firstRow?, rows, rows, List.find?_filterMap, List.find?_filterMap]
  refine congrArg (Option.bind · Row.ofLine?) (shuffled.find?_eq fun line other unlike named => ?_)
  obtain ⟨row, read, same⟩ := (Option.any_eq_true _ _).1 named
  refine (Option.any_eq_false _ _).2 fun row' read' => beq_eq_false_iff_ne.2 fun same' => ?_
  exact unlike row row' read read' ((beq_iff_eq.1 same).trans same'.symm)

/-- The order in which the devices are listed is worth nothing. -/
theorem next_of_shuffled {host host' : Host} {disks : BlockDevices} {text text' : String}
    (both : ReadAtOnce disks.path host host' text text')
    (shuffled : Shuffled Unlike (lines text.toList) (lines text'.toList)) :
    Collector.next disks host = Collector.next disks host' := by
  have same : refreshed host disks = refreshed host' disks := by
    funext device
    have taken : takenCounters? device.name host disks = takenCounters? device.name host' disks := by
      ext values
      rw [takenCounters?_eq_some_iff both.source, takenCounters?_eq_some_iff both.source',
        firstRow?_of_shuffled shuffled]
    rw [refreshed, refreshed, taken, both.now]
  rw [next_eq, next_eq, same]

/-- The same text again adds nothing. -/
theorem tally_run_again {disks : BlockDevices} {host : Host} {hosts : List Host}
    (same : ∀ again ∈ hosts, again.readSource disks.path = host.readSource disks.path)
    (name : String) (activity : Activity) :
    ((Collector.run disks (host :: hosts)).find? name).map (BlockDevice.tally activity) =
      ((Collector.next disks host).find? name).map (BlockDevice.tally activity) := by
  obtain ⟨size, sized⟩ : ∃ size, Sized name size disks := by
    cases known : disks.find? name with
    | none => exact ⟨0, fun device found => nomatch known.symm.trans found⟩
    | some device => exact ⟨_, fun other found => by cases known.symm.trans found; rfl⟩
  refine Collector.view_run_again (P := fun d => d.path = disks.path ∧ Sized name size d)
    (takenCounters? name) (fun d : BlockDevices => (d.find? name).map (BlockDevice.tally activity))
    (fun t values => t.take (activity.unit size) (activity.counter values))
    (fun d host kept => ⟨(path_next d host).trans kept.1, sized_next d host kept.2⟩)
    (fun d host kept => tally_next activity d host kept.2)
    (fun t values => Tally.take_take _ t _) ⟨rfl, sized⟩ fun d kept again mem => ?_
  rw [takenCounters?, takenCounters?, kept.1, same again mem]

end BlockDevices

/-! ## Interfaces -/

namespace NetworkDevices

open Network

/-- Only the counters of the first row of an interface are taken. -/
theorem find?_next_congr {host host' : Host} {devices : NetworkDevices} {text text' name : String}
    (both : ReadAtOnce devices.path host host' text text')
    (succeeds : (Collector.refresh host devices).value.fault? = none)
    (succeeds' : (Collector.refresh host' devices).value.fault? = none)
    (same : (firstRow? devices.columns.length devices.path name text.toList).map (·.counters) =
      (firstRow? devices.columns.length devices.path name text'.toList).map (·.counters)) :
    (Collector.next devices host).interfaces.find? name =
      (Collector.next devices host').interfaces.find? name := by
  rw [find?_next, find?_next, takenRow?_eq_firstRow? both.source succeeds,
    takenRow?_eq_firstRow? both.source' succeeds', both.now]
  have view (row? : Option Row) :
      (row?.elim (devices.interfaces.find? name) fun row =>
        (devices.interfaces.find? name).map fun interface =>
          (interface.mark host'.now row.counters).value) =
      (row?.map (·.counters)).elim (devices.interfaces.find? name) fun counters =>
        (devices.interfaces.find? name).map fun interface =>
          (interface.mark host'.now counters).value := by
    cases row? <;> rfl
  rw [view, view, same]

/-- Two lines that are not rows of one interface. -/
def Unlike (columns : Nat) (line other : List Char) : Prop :=
  ∀ row row' : Row, row.SpelledBy columns line → row'.SpelledBy columns other →
    row.name ≠ row'.name

theorem Unlike.symm {columns : Nat} {line other : List Char} (h : Unlike columns line other) :
    Unlike columns other line :=
  fun row row' spelled spelled' => (h row' row spelled' spelled).symm

/-- Every interface keeps its first row. -/
theorem firstRow?_of_shuffled {columns : Nat} {a b : List Char}
    (shuffled : Shuffled (Unlike columns) ((lines a).drop headerLines) ((lines b).drop headerLines))
    (location name : String) :
    firstRow? columns location name a = firstRow? columns location name b := by
  simp only [firstRow?, wellFormedRows, bodyLines, List.find?_filterMap, List.find?_filter]
  refine congrArg (Option.bind · _) (shuffled.find?_eq fun line other unlike named => ?_)
  obtain ⟨_, row, read, same⟩ := by
    simpa only [decide_eq_true_eq, Option.any_eq_true, Collector.toOption_eq_some_iff]
      using named
  rw [decide_eq_false_iff_not, not_and, Option.any_eq_true]
  rintro - ⟨row', read', same'⟩
  exact unlike row row' (Row.read_eq_ok_iff.1 read)
    (Row.read_eq_ok_iff.1 (Collector.toOption_eq_some_iff.1 read'))
    ((beq_iff_eq.1 same).trans (beq_iff_eq.1 same').symm)

/-- What a refresh finds wrong with a text does not lie in the order of its rows. -/
theorem isSome_fault?_iff {host : Host} {devices : NetworkDevices} {text : String}
    (source : host.readSource devices.path = .ok text) :
    (Collector.refresh host devices).value.fault?.isSome = true ↔
      (lines text.toList).length < headerLines ∨
        ∃ line ∈ (lines text.toList).drop headerLines,
          ¬ Passable devices.columns.length line := by
  simp only [Option.isSome_iff_exists, fault?_refresh, currentRows, source]
  simp only [bind, Except.bind, readRows_eq_error_iff]
  exact exists_tableFault_iff

/-- The order in which the interfaces are listed is worth nothing. -/
theorem next_of_shuffled {host host' : Host} {devices : NetworkDevices} {text text' : String}
    (both : ReadAtOnce devices.path host host' text text')
    (headed : (lines text.toList).length < headerLines ↔
      (lines text'.toList).length < headerLines)
    (shuffled : Shuffled (Unlike devices.columns.length) ((lines text.toList).drop headerLines)
      ((lines text'.toList).drop headerLines)) :
    Collector.next devices host = Collector.next devices host' := by
  have failing : (Collector.refresh host devices).value.fault?.isSome =
      (Collector.refresh host' devices).value.fault?.isSome := by
    rw [Bool.eq_iff_iff, isSome_fault?_iff both.source, isSome_fault?_iff both.source', headed]
    simp only [shuffled.perm.mem_iff]
  have taken (name : String) : takenRow? name host devices = takenRow? name host' devices := by
    cases fault : (Collector.refresh host devices).value.fault? with
    | none =>
      rw [fault, eq_comm, Option.isSome_none, Option.isSome_eq_false_iff, Option.isNone_iff_eq_none]
        at failing
      rw [takenRow?_eq_firstRow? both.source fault, takenRow?_eq_firstRow? both.source' failing]
      exact firstRow?_of_shuffled shuffled devices.path name
    | some reason =>
      rw [fault, Option.isSome_some, eq_comm, Option.isSome_iff_exists] at failing
      obtain ⟨reason', fault'⟩ := failing
      rw [takenRow?, fault, takenRow?, fault']
  have interfaces : (Collector.next devices host).interfaces =
      (Collector.next devices host').interfaces :=
    NameMap.ext fun name => by rw [find?_next, find?_next, taken, both.now]
  have parts (a b : NetworkDevices) : a.path = b.path → a.columns = b.columns →
      a.interfaces = b.interfaces → a = b := by
    cases a
    cases b
    simp_all
  exact parts _ _ (by simp) (by simp) interfaces

theorem takenRow?_eq (name : String) (host : Host) (devices : NetworkDevices) :
    takenRow? name host devices =
      (devices.currentRows host).toOption.bind (·.find? (·.name == name)) := by
  cases read : devices.currentRows host with
  | error fault => rw [takenRow?, (fault?_refresh host devices fault).2 read]; rfl
  | ok rows =>
    have succeeds : (Collector.refresh host devices).value.fault? = none := by
      refine Option.eq_none_iff_forall_ne_some.2 fun fault failed => ?_
      cases read.symm.trans ((fault?_refresh host devices fault).1 failed)
    cases source : host.readSource devices.path with
    | error fault => simp [currentRows, source, bind, Except.bind] at read
    | ok text =>
      rw [currentRows, source] at read
      rw [takenRow?_eq_firstRow? source succeeds, firstRow?_eq_of_readRows read]
      rfl

/-- The same text again adds nothing. -/
theorem tally?_run_again {devices : NetworkDevices} (shaped : WellShaped devices) {host : Host}
    {hosts : List Host}
    (same : ∀ again ∈ hosts, again.readSource devices.path = host.readSource devices.path)
    (name : String) (i : Nat) :
    tally? name i (Collector.run devices (host :: hosts)) =
      tally? name i (Collector.next devices host) := by
  refine Collector.view_run_again
    (P := fun d => d.path = devices.path ∧ d.columns = devices.columns ∧ WellShaped d)
    (takenRow? name) (tally? name i) (fun t row => t.take 1 (row.counters.getD i 0))
    (fun d host kept => ⟨(path_next d host).trans kept.1, (columns_next d host).trans kept.2.1,
      wellShaped_next d host kept.2.2⟩)
    (fun d host kept => tally?_next name i d host kept.2.2)
    (fun t row => Tally.take_take _ t _) ⟨rfl, rfl, shaped⟩ fun d kept again mem => ?_
  rw [takenRow?_eq, takenRow?_eq, currentRows, currentRows, kept.1, kept.2.1, same again mem]

end NetworkDevices

/-! ## Both -/

/-- A refresh is local. A block device depends on the first row with its name alone, and an
interface on the counters of the first row with its name, if the refresh does not fail; whatever
else the texts hold makes no difference. So it makes none either in which order rows of different
names stand. However often one text is read in succession, counts and baselines are those after the
first time, so that refreshes which wait for each other count an increase once. -/
theorem refresh_is_local :
    (∀ (disks : BlockDevices) (host host' : Host) (text text' : String),
      ReadAtOnce disks.path host host' text text' →
      (∀ name, BlockDevices.SameFirstRow name text.toList text'.toList →
        (Collector.next disks host).find? name = (Collector.next disks host').find? name) ∧
      (Shuffled BlockDevices.Unlike (lines text.toList) (lines text'.toList) →
        Collector.next disks host = Collector.next disks host')) ∧
    (∀ (devices : NetworkDevices) (host host' : Host) (text text' : String),
      ReadAtOnce devices.path host host' text text' →
      (∀ name, (Collector.refresh host devices).value.fault? = none →
        (Collector.refresh host' devices).value.fault? = none →
        (NetworkDevices.firstRow? devices.columns.length devices.path name text.toList).map
            (·.counters) =
          (NetworkDevices.firstRow? devices.columns.length devices.path name text'.toList).map
            (·.counters) →
        (Collector.next devices host).interfaces.find? name =
          (Collector.next devices host').interfaces.find? name) ∧
      (((lines text.toList).length < 2 ↔ (lines text'.toList).length < 2) →
        Shuffled (NetworkDevices.Unlike devices.columns.length) ((lines text.toList).drop 2)
          ((lines text'.toList).drop 2) →
        Collector.next devices host = Collector.next devices host')) ∧
    (∀ (disks : BlockDevices) (host : Host) (hosts : List Host),
      (∀ again ∈ hosts, again.readSource disks.path = host.readSource disks.path) →
      ∀ name activity,
        ((Collector.run disks (host :: hosts)).find? name).map (BlockDevice.tally activity) =
          ((Collector.next disks host).find? name).map (BlockDevice.tally activity)) ∧
    ∀ (devices : NetworkDevices), devices.Reached → ∀ (host : Host) (hosts : List Host),
      (∀ again ∈ hosts, again.readSource devices.path = host.readSource devices.path) →
      ∀ name i, (Collector.run devices (host :: hosts)).tally? name i =
        (Collector.next devices host).tally? name i := by
  refine ⟨fun disks host host' text text' both => ⟨fun name same => ?_, fun shuffled => ?_⟩,
    fun devices host host' text text' both =>
      ⟨fun name succeeds succeeds' same => ?_, fun headed shuffled => ?_⟩,
    fun disks host hosts same name activity => ?_, fun devices reached host hosts same name i => ?_⟩
  · exact BlockDevices.find?_next_congr both same
  · exact BlockDevices.next_of_shuffled both shuffled
  · exact NetworkDevices.find?_next_congr both succeeds succeeds' same
  · exact NetworkDevices.next_of_shuffled both headed shuffled
  · exact BlockDevices.tally_run_again same name activity
  · exact NetworkDevices.tally?_run_again reached.wellShaped same name i

/-- A disk table with a short line, another disk, and a second row for the first disk. -/
def crowdedDisks : String :=
  "8 0 sda 10\n8 16 sdb x 0 1 0 1 0 1\n8 0 sda 10 0 24 0 3 0 40 7\n8 0 sda 9 0 9 0 9 0 9\n"

/-- The disk alone. -/
def loneDisk : String :=
  "8 0 sda 10 0 24 0 3 0 40\n"

/-- Two interfaces. -/
def twoRows : String :=
  "eth0: 9 4\n  lo: 7 7\n"

/-- The same two the other way round. -/
def swappedRows : String :=
  "  lo: 7 7\neth0: 9 4\n"

/-- Nothing but the row of the disk matters, the interfaces may stand in either order, and three
refreshes are worth one. -/
theorem refresh_is_local_crowded :
    (Collector.next BlockDevices.diskDevices (BlockDevices.diskHost 1 crowdedDisks)).find? "sda" =
      (Collector.next BlockDevices.diskDevices (BlockDevices.diskHost 1 loneDisk)).find? "sda" ∧
    Collector.next NetworkDevices.tableDevices (NetworkDevices.tableHost 1 twoRows) =
      Collector.next NetworkDevices.tableDevices (NetworkDevices.tableHost 1 swappedRows) ∧
    (Collector.run NetworkDevices.tableDevices
        [NetworkDevices.tableHost 1 twoRows, NetworkDevices.tableHost 2 twoRows,
          NetworkDevices.tableHost 3 twoRows]).tally? "eth0" 0 =
      (Collector.next NetworkDevices.tableDevices
        (NetworkDevices.tableHost 1 twoRows)).tally? "eth0" 0 := by
  obtain ⟨disks, networks, _, networkAgain⟩ := refresh_is_local
  refine ⟨?_, ?_, ?_⟩
  · have both : ReadAtOnce BlockDevices.diskDevices.path (BlockDevices.diskHost 1 crowdedDisks)
        (BlockDevices.diskHost 1 loneDisk) crowdedDisks loneDisk :=
      ⟨rfl, by decide +kernel, by decide +kernel⟩
    have first : BlockDevices.firstRow? "sda" crowdedDisks.toList =
      some ⟨"sda", ['1', '0'], ['2', '4'], ['3'], ['4', '0']⟩ := by decide +kernel
    have second : BlockDevices.firstRow? "sda" loneDisk.toList =
      some ⟨"sda", ['1', '0'], ['2', '4'], ['3'], ['4', '0']⟩ := by decide +kernel
    exact (disks _ _ _ _ _ both).1 "sda" (.fields first second rfl)
  · have both : ReadAtOnce NetworkDevices.tableDevices.path (NetworkDevices.tableHost 1 twoRows)
        (NetworkDevices.tableHost 1 swappedRows) (NetworkDevices.table twoRows)
        (NetworkDevices.table swappedRows) := ⟨rfl, by decide +kernel, by decide +kernel⟩
    have below : (lines (NetworkDevices.table twoRows).toList).drop 2 =
      ["eth0: 9 4".toList, "  lo: 7 7".toList] := by decide +kernel
    have below' : (lines (NetworkDevices.table swappedRows).toList).drop 2 =
      ["  lo: 7 7".toList, "eth0: 9 4".toList] := by decide +kernel
    have columns : NetworkDevices.tableDevices.columns.length = 2 := by decide +kernel
    have names (line : List Char) (row : Network.Row) (spelled : row.SpelledBy 2 line) :
        (Network.Row.read 2 "" line).toOption.map (·.name) = some row.name := by
      rw [Network.Row.read_eq_ok_iff.2 spelled]
      rfl
    have unlike : NetworkDevices.Unlike 2 "eth0: 9 4".toList "  lo: 7 7".toList := by
      intro row row' spelled spelled' same
      have differ : (Network.Row.read 2 "" "eth0: 9 4".toList).toOption.map (·.name) ≠
        (Network.Row.read 2 "" "  lo: 7 7".toList).toOption.map (·.name) := by decide +kernel
      exact differ (by rw [names _ _ spelled, names _ _ spelled', same])
    refine (networks _ _ _ _ _ both).2 (by decide +kernel) ?_
    rw [below, below', columns]
    exact .of_perm (fun _ _ => NetworkDevices.Unlike.symm) (.swap _ _ _)
      (List.pairwise_pair.2 unlike)
  · have created : (NetworkDevices.create (NetworkDevices.tableHost 0 "eth0: 5 1\n") "proc").value =
        .ok NetworkDevices.tableDevices := Collector.eq_ok_getD _ (by decide +kernel)
    have reached : NetworkDevices.tableDevices.Reached := ⟨_, _, _, [], created, rfl⟩
    have again (path : String) (now : Nat) : (NetworkDevices.tableHost now twoRows).readSource path =
      (NetworkDevices.tableHost 1 twoRows).readSource path := rfl
    refine networkAgain _ reached _ _ (List.forall_mem_cons.2 ⟨again _ 2, ?_⟩) "eth0" 0
    exact List.forall_mem_singleton.2 (again _ 3)

end HostVitals
