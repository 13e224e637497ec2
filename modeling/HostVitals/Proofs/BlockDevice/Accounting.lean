import HostVitals.BlockDevice.Devices
import HostVitals.Proofs.Collector.Run
import HostVitals.Proofs.Counter.Gain

/-!
# Accounting for block device counters

Over any run of refreshes each meter of a block device counts what the readings of its
counter amount to, operations one by one and bytes in blocks of the size that the device had
when it was created.

* `seedRows`, `Seeded`: what creation reads, and the devices that it makes of it.
* `takenCounters?`: what a refresh reads of a device.
* `BlockDevice.tally`: an activity's count beside the counter that it follows.

`meter_mark` says what one reading does to the four meters, `tally_mark` what that comes to in
their tallies, and `disk_run_accounts` what a run does to all devices.
-/

namespace HostVitals

open Logged

/-! ## Activities -/

namespace Activity

/-- The counter that an activity follows. -/
def counter : Activity → BlockDevice.Counters → Nat
  | .readOps => (·.reads)
  | .bytesRead => (·.sectorsRead)
  | .writeOps => (·.writes)
  | .bytesWritten => (·.sectorsWritten)

/-- How much one step of that counter is worth. -/
def unit (blockSize : Nat) : Activity → Nat
  | .readOps | .writeOps => 1
  | .bytesRead | .bytesWritten => blockSize

end Activity

namespace BlockDevice

/-- Counters are equal when every activity sees the same. -/
theorem Counters.ext_activity {a b : Counters} (h : ∀ activity : Activity,
    activity.counter a = activity.counter b) : a = b := by
  cases a
  cases b
  have reads := h .readOps
  have sectorsRead := h .bytesRead
  have writes := h .writeOps
  have sectorsWritten := h .bytesWritten
  simp only [Activity.counter] at reads sectorsRead writes sectorsWritten
  rw [reads, sectorsRead, writes, sectorsWritten]

theorem markOps_eq (now : Nat) (meter : Meter) (prev curr : Nat) :
    markOps now meter prev curr =
      if curr < prev then meter else meter.mark now (Int64.ofNat (gain 1 prev curr)) := by
  unfold markOps
  rw [increase?_eq]
  by_cases back : curr < prev <;> simp [back]

theorem markBytes_eq (now blockSize : Nat) (meter : Meter) (prev curr : Nat) :
    markBytes now blockSize meter prev curr =
      if curr < prev then meter else meter.mark now (Int64.ofNat (gain blockSize prev curr)) := by
  unfold markBytes increase?
  by_cases back : curr < prev
  · rw [if_pos back, if_pos back]
  · rw [if_neg back, if_neg back, gain_of_le (Nat.not_lt.1 back), ← scaled_increase]

/-- Each activity is marked with what its own counter gained, in its own unit. -/
theorem meter_mark (now : Nat) (device : BlockDevice) (values : Counters) (activity : Activity) :
    (device.mark now values).meter activity =
      let prev := activity.counter device.baseline
      let curr := activity.counter values
      if curr < prev then device.meter activity
      else (device.meter activity).mark now
        (Int64.ofNat (gain (activity.unit device.blockSize) prev curr)) := by
  cases activity with
  | readOps | writeOps => exact markOps_eq now _ _ _
  | bytesRead | bytesWritten => exact markBytes_eq now _ _ _ _

/-- The count of an activity and the value from which it counts on. -/
def tally (activity : Activity) (device : BlockDevice) : Tally where
  count := (device.meter activity).count
  baseline := activity.counter device.baseline

/-- Each activity takes its own counter, in its own unit. -/
theorem tally_mark (now : Nat) (device : BlockDevice) (values : Counters) (activity : Activity) :
    (device.mark now values).tally activity =
      (device.tally activity).take (activity.unit device.blockSize) (activity.counter values) := by
  refine congrArg (Tally.mk · _) ?_
  rw [meter_mark]
  by_cases back : activity.counter values < activity.counter device.baseline
  · simp [back, tally, gain_of_lt]
  · simp [back, tally]

@[simp] theorem name_mark (now : Nat) (device : BlockDevice) (values : Counters) :
    (device.mark now values).name = device.name := rfl

@[simp] theorem blockSize_mark (now : Nat) (device : BlockDevice) (values : Counters) :
    (device.mark now values).blockSize = device.blockSize := rfl

end BlockDevice

namespace BlockDevices

open BlockDevice (Counters Row)

/-! ## Creation -/

/-- The rows of a text whose counters are numbers, by name. -/
def seedRows (location : String) (text : List Char) : List (String × Counters) :=
  (rows text).filterMap fun row =>
    (row.counters location).toOption.map fun values => (row.name, values)

/-- Devices made of rows: one for each name, in the order of the first row of each, which
seeds it. -/
structure Seeded (now : Nat) (size : String → Nat) (seen : List (String × Counters))
    (devices : List BlockDevice) : Prop where
  names : devices.map (·.name) = (seen.map (·.1)).eraseDups
  distinct : (devices.map (·.name)).Nodup
  seeds : ∀ device ∈ devices, ∃ values, seen.lookup device.name = some values ∧
    device = .seeded now device.name (size device.name) values

/-- Of a list that grows at its end only new elements are added to those kept once. -/
theorem eraseDups_concat (names : List String) (name : String) :
    (names ++ [name]).eraseDups =
      if name ∈ names then names.eraseDups else names.eraseDups ++ [name] := by
  rw [List.eraseDups_append]
  by_cases known : name ∈ names <;> simp [List.removeAll, known, List.eraseDups_cons]

namespace Seeded

variable {now : Nat} {size : String → Nat} {seen : List (String × Counters)}
  {devices : List BlockDevice}

theorem empty (now : Nat) (size : String → Nat) : Seeded now size [] [] where
  names := rfl
  distinct := .nil
  seeds := fun _ mem => absurd mem List.not_mem_nil

theorem any_name_iff (h : Seeded now size seen devices) (name : String) :
    devices.any (·.name == name) = true ↔ name ∈ seen.map (·.1) := by
  rw [← List.mem_eraseDups, ← h.names]
  simp [List.any_eq_true]

/-- A row with a name that is taken adds no device. -/
theorem skip (h : Seeded now size seen devices) {name : String} (values : Counters)
    (taken : devices.any (·.name == name) = true) :
    Seeded now size (seen ++ [(name, values)]) devices where
  names := by
    rw [List.map_append, List.map_singleton, eraseDups_concat,
      if_pos ((h.any_name_iff name).1 taken)]
    exact h.names
  distinct := h.distinct
  seeds := by
    intro device mem
    obtain ⟨found, first, made⟩ := h.seeds device mem
    exact ⟨found, by rw [List.lookup_append, first]; rfl, made⟩

/-- A row with a new name adds its device. -/
theorem add (h : Seeded now size seen devices) {name : String} (values : Counters)
    (free : ¬devices.any (·.name == name) = true) :
    Seeded now size (seen ++ [(name, values)])
      (devices ++ [.seeded now name (size name) values]) where
  names := by
    rw [List.map_append, List.map_append, List.map_singleton, List.map_singleton,
      eraseDups_concat, if_neg fun known => free ((h.any_name_iff name).2 known), h.names]
    rfl
  distinct := by
    rw [List.map_append, List.map_singleton]
    refine List.nodup_append.2 ⟨h.distinct, List.pairwise_singleton _ _, ?_⟩
    rintro other mem _ new rfl
    rw [List.mem_singleton.1 new, h.names, List.mem_eraseDups] at mem
    exact free ((h.any_name_iff name).2 mem)
  seeds := by
    intro device mem
    rcases List.mem_append.1 mem with old | new
    · obtain ⟨found, first, made⟩ := h.seeds device old
      exact ⟨found, by rw [List.lookup_append, first]; rfl, made⟩
    · rw [List.mem_singleton.1 new]
      have unseen : seen.lookup name = none := by
        refine List.lookup_eq_none_iff.2 fun entry mem => ?_
        refine bne_iff_ne.2 fun same => free ((h.any_name_iff name).2 ?_)
        exact same ▸ List.mem_map_of_mem mem
      refine ⟨values, ?_, rfl⟩
      show (seen ++ [(name, values)]).lookup name = some values
      rw [List.lookup_append, unseen]
      simp

/-- A device is found under its name. -/
theorem find?_name (h : Seeded now size seen devices) {device : BlockDevice}
    (mem : device ∈ devices) : devices.find? (·.name == device.name) = some device := by
  have distinct := h.distinct
  clear h
  induction devices with
  | nil => cases mem
  | cons head rest ih =>
    rw [List.map_cons, List.nodup_cons] at distinct
    rw [List.find?_cons]
    rcases List.mem_cons.1 mem with rfl | later
    · rw [beq_self_eq_true]
    · have other : head.name ≠ device.name := fun same =>
        distinct.1 (same ▸ List.mem_map_of_mem later)
      rw [beq_eq_false_iff_ne.2 other]
      exact ih later distinct.2

end Seeded

/-- A row adds its device if its counters are numbers and its name is new. -/
theorem value_addRow (host : Host) (sysRoot location : String) (devices : List BlockDevice)
    (row : Row) :
    (addRow host sysRoot location devices row).value =
      (row.counters location).toOption.elim devices fun values =>
        if devices.any (·.name == row.name) then devices
        else devices ++ [.seeded host.now row.name
          (BlockDevice.readBlockSize host sysRoot row.name).value values] := by
  unfold addRow
  cases taken : devices.any (·.name == row.name) with
  | true => cases row.counters location <;> simp [Except.toOption]
  | false => cases row.counters location <;> simp [Except.toOption]

/-- The rows of a text make the devices of those whose counters are numbers. -/
theorem seeded_addRows (host : Host) (sysRoot location : String) {seen : List (String × Counters)}
    {devices : List BlockDevice} {size : String → Nat}
    (sized : size = fun name => (BlockDevice.readBlockSize host sysRoot name).value)
    (h : Seeded host.now size seen devices) (rows : List Row) :
    Seeded host.now size
      (seen ++ rows.filterMap fun row =>
        (row.counters location).toOption.map fun values => (row.name, values))
      (rows.foldlM (addRow host sysRoot location) devices).value := by
  subst sized
  induction rows generalizing seen devices with
  | nil => simpa using h
  | cons row rows ih =>
    rw [List.foldlM_cons, value_bind, value_addRow, List.filterMap_cons]
    cases row.counters location with
    | error fault => exact ih h
    | ok values =>
      simp only [Except.toOption, Option.elim_some, Option.map_some]
      rw [List.append_cons]
      split
      · next taken => exact ih (h.skip values taken)
      · next free => exact ih (h.add values free)

/-- Creation makes the devices of the rows whose counters are numbers. -/
theorem of_create {host : Host} {procRoot sysRoot : String} {disks : BlockDevices}
    (created : (create host procRoot sysRoot).value = .ok disks) :
    ∃ text, host.readSource disks.path = .ok text ∧
      Seeded host.now (fun name => (BlockDevice.readBlockSize host sysRoot name).value)
        (seedRows disks.path text.toList) disks.devices := by
  unfold create at created
  simp only at created
  split at created
  · cases created
  · next text source =>
    cases created
    exact ⟨text, source,
      seeded_addRows host sysRoot _ rfl (.empty host.now _) (rows text.toList)⟩

/-! ## One refresh -/

/-- The counters that a refresh takes for a device: those of the first row with its name,
if the source can be read and they are numbers. -/
def takenCounters? (name : String) (host : Host) (disks : BlockDevices) : Option Counters :=
  match host.readSource disks.path with
  | .error _ => none
  | .ok text =>
    ((rows text.toList).find? (·.name == name)).bind fun row =>
      (row.counters disks.path).toOption

theorem value_refreshDevice (now : Nat) (location : String) (rows : List Row)
    (device : BlockDevice) :
    (refreshDevice now location rows device).value =
      (((rows.find? (·.name == device.name)).bind fun row =>
        (row.counters location).toOption).elim device (device.mark now)) := by
  unfold refreshDevice
  cases rows.find? (·.name == device.name) with
  | none => rfl
  | some row => simp only [Option.bind_some]; cases row.counters location <;> rfl

/-- A device after a refresh: marked with the counters that are taken for it, if any. -/
def refreshed (host : Host) (disks : BlockDevices) (device : BlockDevice) : BlockDevice :=
  (takenCounters? device.name host disks).elim device (device.mark host.now)

@[simp] theorem name_refreshed (host : Host) (disks : BlockDevices) (device : BlockDevice) :
    (refreshed host disks device).name = device.name := by
  unfold refreshed
  cases takenCounters? device.name host disks <;> rfl

@[simp] theorem blockSize_refreshed (host : Host) (disks : BlockDevices) (device : BlockDevice) :
    (refreshed host disks device).blockSize = device.blockSize := by
  unfold refreshed
  cases takenCounters? device.name host disks <;> rfl

/-- All that a refresh does: the devices are refreshed one by one. -/
theorem next_eq (disks : BlockDevices) (host : Host) :
    Collector.next disks host =
      { disks with devices := disks.devices.map (refreshed host disks) } := by
  unfold Collector.next
  cases source : host.readSource disks.path with
  | error fault =>
    have same : refreshed host disks = id := by
      funext device
      rw [refreshed, takenCounters?, source]
      rfl
    simp [Collector.refresh, source, same]
  | ok text =>
    have marked : (fun device =>
        (refreshDevice host.now disks.path (rows text.toList) device).value) =
          refreshed host disks := by
      funext device
      rw [value_refreshDevice, refreshed, takenCounters?, source]
    simp [Collector.refresh, source, value_mapM, marked]

@[simp] theorem path_next (disks : BlockDevices) (host : Host) :
    (Collector.next disks host).path = disks.path := by
  rw [next_eq]

theorem name_of_find? {disks : BlockDevices} {name : String} {device : BlockDevice}
    (listed : disks.find? name = some device) : device.name = name := by
  simpa [find?] using List.find?_some listed

theorem find?_next (disks : BlockDevices) (host : Host) (name : String) :
    (Collector.next disks host).find? name =
      (takenCounters? name host disks).elim (disks.find? name) fun values =>
        (disks.find? name).map (·.mark host.now values) := by
  rw [next_eq, find?, List.find?_map]
  simp only [Function.comp_def, name_refreshed]
  show (disks.find? name).map _ = _
  cases known : disks.find? name with
  | none => cases takenCounters? name host disks <;> rfl
  | some device =>
    rw [Option.map_some, refreshed, name_of_find? known]
    cases takenCounters? name host disks <;> rfl

/-! ## Runs -/

/-- The counters that a run takes for a device. -/
def takenCounters (name : String) (disks : BlockDevices) (hosts : List Host) : List Counters :=
  Collector.found (takenCounters? name) disks hosts

/-- Names and block sizes stay as they are. -/
theorem labels_run (disks : BlockDevices) (hosts : List Host) :
    (Collector.run disks hosts).devices.map (fun device => (device.name, device.blockSize)) =
      disks.devices.map fun device => (device.name, device.blockSize) := by
  refine Collector.run_keeps
    (P := fun d : BlockDevices => d.devices.map (fun device => (device.name, device.blockSize)) =
      disks.devices.map fun device => (device.name, device.blockSize)) (fun d host h => ?_) rfl
    hosts
  simp [← h, next_eq]

/-- The device with the name, if there is one, has blocks of this size. -/
def Sized (name : String) (size : Nat) (disks : BlockDevices) : Prop :=
  ∀ device, disks.find? name = some device → device.blockSize = size

theorem sized_next {name : String} {size : Nat} (disks : BlockDevices) (host : Host)
    (sized : Sized name size disks) : Sized name size (Collector.next disks host) := by
  intro found next
  rw [find?_next] at next
  cases taken : takenCounters? name host disks with
  | none => exact sized found (by rwa [taken] at next)
  | some values =>
    rw [taken] at next
    obtain ⟨before, was, rfl⟩ := Option.map_eq_some_iff.1 next
    exact sized before was

/-- A refresh takes the counters of a device into the tallies of its activities. -/
theorem tally_next (activity : Activity) {name : String} {size : Nat} (disks : BlockDevices)
    (host : Host) (sized : Sized name size disks) :
    ((Collector.next disks host).find? name).map (BlockDevice.tally activity) =
      (takenCounters? name host disks).elim
        ((disks.find? name).map (BlockDevice.tally activity)) fun values =>
        ((disks.find? name).map (BlockDevice.tally activity)).map
          (·.take (activity.unit size) (activity.counter values)) := by
  rw [find?_next]
  cases takenCounters? name host disks with
  | none => rfl
  | some values =>
    cases was : disks.find? name with
    | none => rfl
    | some before =>
      refine congrArg some ?_
      rw [BlockDevice.tally_mark, sized before was]

/-- A run takes the counters of a device into the tallies of its activities. -/
theorem tally_run {disks : BlockDevices} {name : String} {device : BlockDevice}
    (known : disks.find? name = some device) (hosts : List Host) (activity : Activity) :
    ((Collector.run disks hosts).find? name).map (BlockDevice.tally activity) =
      some (((takenCounters name disks hosts).map activity.counter).foldl
        (Tally.take (activity.unit device.blockSize)) (device.tally activity)) := by
  -- The unit of the tallies is the block size, which no refresh changes.
  have sized : Sized name device.blockSize disks := fun found was => by
    rw [known] at was
    cases was
    rfl
  rw [Collector.view_run (takenCounters? name)
    (fun d : BlockDevices => (d.find? name).map (BlockDevice.tally activity))
    (fun t values => t.take (activity.unit device.blockSize) (activity.counter values))
    sized_next (tally_next activity) sized hosts, known, List.foldl_map]
  rfl

/-- Every block device is accounted for exactly. Whatever the refreshes of a run meet, the
devices, in the order of the first row of each that gives numbers, and their block sizes stay
those of the creation, and every device ends with the last counters taken for it. Each of its
meters holds the gains of its own counter: operations one by one, and bytes in blocks, where
the exact product of an increase and the block size is capped once. -/
theorem disk_run_accounts {first : Host} {procRoot sysRoot : String} {disks : BlockDevices}
    (created : (create first procRoot sysRoot).value = .ok disks) (hosts : List Host) :
    (Collector.run disks hosts).devices.map (fun device => (device.name, device.blockSize)) =
      disks.devices.map (fun device => (device.name, device.blockSize)) ∧
    ∃ text, first.readSource disks.path = .ok text ∧
      disks.devices.map (·.name) =
        ((seedRows disks.path text.toList).map (·.1)).eraseDups ∧
      (disks.devices.map (·.name)).Nodup ∧
      ∀ device ∈ disks.devices, ∃ seed final,
        (seedRows disks.path text.toList).lookup device.name = some seed ∧
        (Collector.run disks hosts).find? device.name = some final ∧
        final.baseline = (takenCounters device.name disks hosts).getLastD seed ∧
        (∀ activity, (final.tally activity).Accounts (activity.unit device.blockSize)
          (activity.counter seed)
          ((takenCounters device.name disks hosts).map activity.counter)) ∧
        (device.blockSize = 0 → final.bytesRead.count = 0 ∧ final.bytesWritten.count = 0) := by
  obtain ⟨text, source, seeded⟩ := of_create created
  refine ⟨labels_run disks hosts, text, source, seeded.names, seeded.distinct, ?_⟩
  intro device mem
  obtain ⟨seed, firstRow, made⟩ := seeded.seeds device mem
  have known : disks.find? device.name = some device := seeded.find?_name mem
  obtain ⟨final, found, _⟩ := Option.map_eq_some_iff.1 (tally_run known hosts .readOps)
  have accounts : ∀ activity : Activity, (final.tally activity).Accounts
      (activity.unit device.blockSize) (activity.counter seed)
      ((takenCounters device.name disks hosts).map activity.counter) := by
    intro activity
    have tallied := tally_run known hosts activity
    rw [found, Option.map_some, Option.some.injEq] at tallied
    rw [tallied, made]
    cases activity <;> exact Tally.accounts_foldl_take _ _ _
  refine ⟨seed, final, firstRow, found, ?_, accounts, fun unsized => ?_⟩
  · refine BlockDevice.Counters.ext_activity fun activity => ?_
    exact (accounts activity).baseline.trans (getLastD_map activity.counter seed _)
  · have bytes := fun activity => (accounts activity).count
    simp only [unsized] at bytes
    exact ⟨(bytes .bytesRead).trans (congrArg Int64.ofNat (gains_size_zero _ _)),
      (bytes .bytesWritten).trans (congrArg Int64.ofNat (gains_size_zero _ _))⟩

/-- A host with this disk table, and a disk with blocks of 512 bytes. -/
def diskHost (now : Nat) (lines : String) : Host where
  now := now
  files :=
    (FileTree.empty.write "proc/diskstats" lines.toUTF8).write
      "sys/block/sda/queue/physical_block_size" "512\n".toUTF8
  mounts := .empty

/-- A disk that is listed twice, and a line that is too short. -/
def diskTable : String :=
  "8 0 sda 9 0 20 0 3 0 40\n8 0 sda 1 0 1 0 1 0 1\n8 1 sdb 1\n"

/-- The devices of this table. -/
def diskDevices : BlockDevices :=
  (create (diskHost 0 diskTable) "proc" "sys").value.toOption.getD ⟨"", []⟩

/-- A line with a counter that is no number, a missing file, and a line in which the first
counter has started again. -/
def diskHosts : List Host :=
  [diskHost 1 "8 0 sda x 0 21 0 4 0 41\n", { diskHost 2 "" with files := .empty },
    diskHost 3 "8 0 sda 2 0 24 0 5 0 40\n"]

/-- The counter that started again counts nothing, and sectors count as blocks. -/
theorem disk_run_accounts_reset :
    (create (diskHost 0 diskTable) "proc" "sys").value = .ok diskDevices ∧
    ∃ final, (Collector.run diskDevices diskHosts).find? "sda" = some final ∧
      final.baseline = ⟨2, 24, 5, 40⟩ ∧
      final.readOps.count = 0 ∧ final.bytesRead.count = 2048 ∧
      final.writeOps.count = 2 ∧ final.bytesWritten.count = 0 := by
  have created : (create (diskHost 0 diskTable) "proc" "sys").value = .ok diskDevices :=
    Collector.eq_ok_getD _ (by decide +kernel)
  obtain ⟨_, text, source, _, _, devices⟩ := disk_run_accounts created diskHosts
  have labels : diskDevices.devices.map (fun device => (device.name, device.blockSize)) =
      [("sda", 512)] := by decide +kernel
  obtain ⟨device, mem, label⟩ := List.mem_map.1 (labels ▸ List.mem_singleton_self ("sda", 512))
  obtain ⟨name, blockSize⟩ := Prod.mk.inj label
  obtain ⟨seed, final, first, found, baseline, accounts, _⟩ := devices device mem
  rw [name] at first found baseline accounts
  rw [blockSize] at accounts
  have sourceText : ((diskHost 0 diskTable).readSource diskDevices.path).toOption =
      some diskTable := by decide +kernel
  rw [source] at sourceText
  cases sourceText
  have firstRow : (seedRows diskDevices.path diskTable.toList).lookup "sda" =
      some ⟨9, 20, 3, 40⟩ := by decide +kernel
  cases first.symm.trans firstRow
  have taken : takenCounters "sda" diskDevices diskHosts = [⟨2, 24, 5, 40⟩] := by
    decide +kernel
  rw [taken] at baseline accounts
  exact ⟨created, final, found, baseline, (accounts .readOps).count, (accounts .bytesRead).count,
    (accounts .writeOps).count, (accounts .bytesWritten).count⟩

end BlockDevices

end HostVitals
