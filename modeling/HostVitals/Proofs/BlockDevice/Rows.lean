import HostVitals.Proofs.BlockDevice.Accounting
import HostVitals.Proofs.NameMap.Listed
import HostVitals.Proofs.Text.Numeral

/-!
# Rows of the block device table

Which line of a text counts for a device. Creation passes over the rows that give no counters and
takes the first of the others; a refresh takes the first row of all, and nothing if that one gives
no counters.

* `Row.Gives`: a row gives counters, said without the reader.
* `firstRow?`: the first row of a text with a name.
* `Unread`: what stands above the row that creation takes.

`refresh_follows_first_row` says when the two take the same row, and `refresh_misses_seed` is a
table in which they do not.
-/

namespace HostVitals

open Logged Text

namespace BlockDevice

/-- The four fields of a row are numerals with these values. -/
structure Row.Gives (row : Row) (values : Counters) : Prop where
  reads : Numeral counterBound row.reads values.reads
  sectorsRead : Numeral counterBound row.sectorsRead values.sectorsRead
  writes : Numeral counterBound row.writes values.writes
  sectorsWritten : Numeral counterBound row.sectorsWritten values.sectorsWritten

/-- The reader finds the counters that the row gives. -/
theorem Row.counters_eq_ok_iff {location : String} {row : Row} {values : Counters} :
    row.counters location = .ok values ↔ row.Gives values := by
  simp only [Row.counters, Collector.bind_eq_ok_iff, readCounter_eq_ok_iff]
  constructor
  · rintro ⟨_, reads, _, sectorsRead, _, writes, _, sectorsWritten, same⟩
    cases same
    exact ⟨reads, sectorsRead, writes, sectorsWritten⟩
  · rintro ⟨reads, sectorsRead, writes, sectorsWritten⟩
    exact ⟨_, reads, _, sectorsRead, _, writes, _, sectorsWritten, rfl⟩

theorem Row.Gives.unique {row : Row} {values values' : Counters} (h : row.Gives values)
    (h' : row.Gives values') : values = values' :=
  Except.ok.inj (((@Row.counters_eq_ok_iff "" row values).2 h).symm.trans
    (Row.counters_eq_ok_iff.2 h'))

theorem Row.toOption_counters_eq_some_iff {location : String} {row : Row} {values : Counters} :
    (row.counters location).toOption = some values ↔ row.Gives values := by
  rw [Collector.toOption_eq_some_iff, counters_eq_ok_iff]

end BlockDevice

namespace BlockDevices

open BlockDevice (Counters Row)

/-- The first row of a text with a name. -/
def firstRow? (name : String) (text : List Char) : Option Row :=
  (rows text).find? (·.name == name)

/-- The counters that a refresh takes are those of the first row with the name. -/
theorem takenCounters?_eq_some_iff {name : String} {host : Host} {disks : BlockDevices}
    {text : String} (source : host.readSource disks.path = .ok text) {values : Counters} :
    takenCounters? name host disks = some values ↔
      ∃ row, firstRow? name text.toList = some row ∧ row.Gives values := by
  simp only [takenCounters?, source, firstRow?, Option.bind_eq_some_iff,
    Row.toOption_counters_eq_some_iff]

theorem takenCounters?_eq_none_iff {name : String} {host : Host} {disks : BlockDevices}
    {text : String} (source : host.readSource disks.path = .ok text) :
    takenCounters? name host disks = none ↔
      ∀ row, firstRow? name text.toList = some row → ¬ ∃ values, row.Gives values := by
  rw [Option.eq_none_iff_forall_ne_some]
  simp only [ne_eq, takenCounters?_eq_some_iff source, not_exists, not_and]
  exact ⟨fun h row first values => h values row first, fun h values row first => h row first values⟩

/-- The rows above the one that creation takes for a device: those of the device give no
counters. -/
def Unread (name : String) (before : List Row) : Prop :=
  ∀ row ∈ before, row.name = name → ¬ ∃ values, row.Gives values

/-- Creation takes the first row of a name that gives counters. -/
theorem exists_of_lookup_seedRows {location name : String} {text : List Char}
    {values : Counters} (seed : (seedRows location text).lookup name = some values) :
    ∃ before row after, rows text = before ++ row :: after ∧ row.name = name ∧
      row.Gives values ∧ Unread name before := by
  simp only [seedRows, NameMap.lookup_filterMap_eq_some_iff, ne_eq, Option.map_eq_some_iff,
    Row.toOption_counters_eq_some_iff] at seed
  obtain ⟨before, row, after, split, ⟨_, gives, same⟩, others⟩ := seed
  cases same
  refine ⟨before, row, after, split, rfl, gives, fun other mem named ⟨hidden, given⟩ => ?_⟩
  exact others other mem hidden ⟨hidden, given, by rw [named]⟩

/-! ## The two choices -/

theorem firstRow?_of_forall_ne {name : String} {text : List Char} {before after : List Row}
    {row : Row} (split : rows text = before ++ row :: after) (named : row.name = name)
    (alone : ∀ other ∈ before, other.name ≠ name) : firstRow? name text = some row := by
  rw [firstRow?, List.find?_eq_some_iff_append]
  exact ⟨beq_iff_eq.2 named, before, after, split, fun other mem => by simpa using alone other mem⟩

/-- A row of the device above the one that creation takes is the first one, and gives nothing. -/
theorem not_gives_of_firstRow? {name : String} {text : List Char} {before after : List Row}
    {row first : Row} (split : rows text = before ++ row :: after) (unread : Unread name before)
    (shadowed : ∃ other ∈ before, other.name = name) (h : firstRow? name text = some first) :
    ¬ ∃ values, first.Gives values := by
  have above : (before.find? (·.name == name)).isSome := by
    simpa [List.find?_isSome] using shadowed
  obtain ⟨other, found⟩ := Option.isSome_iff_exists.1 above
  rw [firstRow?, split, List.find?_append, found] at h
  cases h
  exact unread first (List.mem_of_find?_eq_some found) (by simpa using List.find?_some found)

/-- Where creation and refresh take the same row. A device that creation lists is seeded by the
first row of its name that gives counters. If no other row of its name stands above, a refresh over
the same text marks the device, in any collector that knows it, with the increase to this seed,
from which it counts on: each meter with what its counter gained, or not at all if the counter went
backwards. If one does, the refresh leaves the device as it was. -/
theorem refresh_follows_first_row {host later : Host} {procRoot sysRoot : String}
    {fresh disks : BlockDevices} {text name : String} {seeded known : BlockDevice}
    (created : (create host procRoot sysRoot).value = .ok fresh)
    (source : host.readSource fresh.path = .ok text)
    (listed : fresh.find? name = some seeded)
    (again : later.readSource disks.path = .ok text)
    (knows : disks.find? name = some known) :
    ∃ before row after, rows text.toList = before ++ row :: after ∧ row.name = name ∧
      row.Gives seeded.baseline ∧ Unread name before ∧
      ((∀ other ∈ before, other.name ≠ name) →
        let next := known.mark later.now seeded.baseline
        (Collector.next disks later).find? name = some next ∧
          next.name = name ∧ next.blockSize = known.blockSize ∧
          next.baseline = seeded.baseline ∧
          ∀ activity : Activity, next.meter activity =
            let prev := activity.counter known.baseline
            let curr := activity.counter seeded.baseline
            if curr < prev then known.meter activity
            else (known.meter activity).mark later.now
              (Int64.ofNat (gain (activity.unit known.blockSize) prev curr))) ∧
      ((∃ other ∈ before, other.name = name) →
        (Collector.next disks later).find? name = some known) := by
  obtain ⟨_, source', devices⟩ := of_create created
  cases source.symm.trans source'
  have named : seeded.name = name := by simpa [find?] using List.find?_some listed
  obtain ⟨values, seed, made⟩ := devices.seeds seeded (List.mem_of_find?_eq_some listed)
  rw [named] at seed
  have baseline : seeded.baseline = values := by rw [made]; rfl
  obtain ⟨before, row, after, split, rowNamed, gives, unread⟩ := exists_of_lookup_seedRows seed
  refine ⟨before, row, after, split, rowNamed, baseline ▸ gives, unread, fun alone => ?_,
    fun shadowed => ?_⟩
  · have taken : takenCounters? name later disks = some values :=
      (takenCounters?_eq_some_iff again).2
        ⟨row, firstRow?_of_forall_ne split rowNamed alone, gives⟩
    have marked : (Collector.next disks later).find? name =
        some (known.mark later.now seeded.baseline) := by
      rw [find?_next, taken, knows, baseline]
      rfl
    have knownNamed : known.name = name := by simpa [find?] using List.find?_some knows
    exact ⟨marked, knownNamed, rfl, rfl, known.meter_mark later.now seeded.baseline⟩
  · have taken : takenCounters? name later disks = none :=
      (takenCounters?_eq_none_iff again).2 fun first h =>
        not_gives_of_firstRow? split unread shadowed h
    rw [find?_next, taken, knows]
    rfl

/-- A table that lists a disk once. -/
def plainTable : String :=
  "8 0 sda 100 0 200 0 10 0 20\n"

/-- A table in which a row that gives no counters stands above the row of the disk. -/
def shadowedTable : String :=
  "8 0 sda x 0 200 0 10 0 20\n8 0 sda 150 0 260 0 11 0 24\n"

/-- The devices of the one table. -/
def plainDevices : BlockDevices :=
  (create (diskHost 0 plainTable) "proc" "sys").value.toOption.getD ⟨"", []⟩

/-- The devices of the other table, made later. -/
def shadowedDevices : BlockDevices :=
  (create (diskHost 1 shadowedTable) "proc" "sys").value.toOption.getD ⟨"", []⟩

theorem create_shadowed :
    (create (diskHost 1 shadowedTable) "proc" "sys").value = .ok shadowedDevices :=
  Collector.eq_ok_getD _ (by decide +kernel)

theorem readSource_shadowed :
    (diskHost 1 shadowedTable).readSource shadowedDevices.path = .ok shadowedTable ∧
    (diskHost 1 shadowedTable).readSource plainDevices.path = .ok shadowedTable :=
  ⟨(Collector.eq_ok_getD "" (by decide +kernel)).trans (congrArg Except.ok (by decide +kernel)),
    (Collector.eq_ok_getD "" (by decide +kernel)).trans (congrArg Except.ok (by decide +kernel))⟩

/-- Both tables list the disk, but after a refresh it does not count on from the second one. -/
theorem refresh_follows_first_row_shadowed :
    (create (diskHost 1 shadowedTable) "proc" "sys").value = .ok shadowedDevices ∧
    ∃ seeded known, shadowedDevices.find? "sda" = some seeded ∧
      plainDevices.find? "sda" = some known ∧ seeded.baseline = ⟨150, 260, 11, 24⟩ ∧
      known.baseline = ⟨100, 200, 10, 20⟩ ∧
      (Collector.next plainDevices (diskHost 1 shadowedTable)).find? "sda" = some known := by
  obtain ⟨seeded, listed⟩ : ∃ seeded, shadowedDevices.find? "sda" = some seeded :=
    Option.isSome_iff_exists.1 (by decide +kernel)
  obtain ⟨known, knows⟩ : ∃ known, plainDevices.find? "sda" = some known :=
    Option.isSome_iff_exists.1 (by decide +kernel)
  obtain ⟨source, again⟩ := readSource_shadowed
  obtain ⟨before, row, after, split, named, gives, _, _, shadowed⟩ :=
    refresh_follows_first_row create_shadowed source listed again knows
  have seed : (shadowedDevices.find? "sda").map (·.baseline) = some ⟨150, 260, 11, 24⟩ := by
    decide +kernel
  have old : (plainDevices.find? "sda").map (·.baseline) = some ⟨100, 200, 10, 20⟩ := by
    decide +kernel
  rw [listed, Option.map_some, Option.some.injEq] at seed
  rw [knows, Option.map_some, Option.some.injEq] at old
  refine ⟨create_shadowed, seeded, known, listed, knows, seed, old, shadowed ?_⟩
  have top : (rows shadowedTable.toList).head?.map (fun row => (row.name, row.reads)) =
      some ("sda", ['x']) := by decide +kernel
  rw [split] at top
  cases before with
  | nil =>
    -- The row that creation takes gives counters, and the first row of the table gives none.
    rw [List.nil_append, List.head?_cons, Option.map_some, Option.some.injEq] at top
    have reads := (readUnsigned_eq_ok_iff (by decide)).2 gives.reads
    have fault : (readUnsigned counterBound ['x']).toOption = none := by decide +kernel
    rw [← (Prod.mk.inj top).2, reads] at fault
    cases fault
  | cons other before =>
    rw [List.cons_append, List.head?_cons, Option.map_some, Option.some.injEq] at top
    exact ⟨other, List.mem_cons_self, (Prod.mk.inj top).1⟩

/-- Not every device that creation lists counts on from its seed after a refresh. -/
theorem refresh_misses_seed :
    ¬ ∀ (host later : Host) (procRoot sysRoot : String) (fresh disks : BlockDevices)
        (text name : String) (seeded known : BlockDevice),
      (create host procRoot sysRoot).value = .ok fresh → host.readSource fresh.path = .ok text →
      fresh.find? name = some seeded → later.readSource disks.path = .ok text →
      disks.find? name = some known →
      ∃ after, (Collector.next disks later).find? name = some after ∧
        after.baseline = seeded.baseline := by
  intro all
  obtain ⟨seeded, listed⟩ : ∃ seeded, shadowedDevices.find? "sda" = some seeded :=
    Option.isSome_iff_exists.1 (by decide +kernel)
  obtain ⟨known, knows⟩ : ∃ known, plainDevices.find? "sda" = some known :=
    Option.isSome_iff_exists.1 (by decide +kernel)
  obtain ⟨source, again⟩ := readSource_shadowed
  obtain ⟨after, found, same⟩ := all _ _ _ _ _ _ _ _ _ _ create_shadowed source listed again knows
  have differ : ((Collector.next plainDevices (diskHost 1 shadowedTable)).find? "sda").map
      (·.baseline) ≠ (shadowedDevices.find? "sda").map (·.baseline) := by decide +kernel
  rw [found, listed] at differ
  exact differ (congrArg some same)

end BlockDevices

end HostVitals
