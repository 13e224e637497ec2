import HostVitals.Proofs.BlockDevice.Accounting
import HostVitals.Proofs.Text.Numeral
import Mathlib.Data.List.TakeWhile

/-!
# Block sizes of partitions

A partition that has no size file takes the block size of its disk, which is found by its name.

* `Partition`: a disk and the number of a partition on it; `parentName_name` finds the disk again
  by the name that is put together from them.
* `SetOff`: a name that ends in the `p` of a partition, but has no number after it.
* `SizeIn`: the block size that a file gives, said without the reader.

`partition_takes_size_of_disk` says which size a partition has. A name that ends in no digit is
that of no partition: `undivided_size` says that it borrows a size only if it is set off, and
`undivided_borrows` that then it does.
-/

namespace HostVitals

open Logged Text

namespace BlockDevice

/-! ## Names -/

def endsInDigit (name : List Char) : Bool :=
  name.getLast?.any Char.isDigit

/-- A name that ends in a digit, and a `p` after it. -/
def SetOff (base name : List Char) : Prop :=
  name = base ++ ['p'] ∧ endsInDigit base = true

/-- A partition: a disk and the number of the partition on it. -/
structure Partition where
  disk : List Char
  number : List Char
  named : disk ≠ []
  undivided : ∀ base, ¬ SetOff base disk
  numbered : number ≠ []
  digits : ∀ c ∈ number, c.isDigit = true

/-- The name of a partition. A `p` sets its number off from a disk that ends in a digit. -/
def Partition.name (partition : Partition) : List Char :=
  if endsInDigit partition.disk then partition.disk ++ 'p' :: partition.number
  else partition.disk ++ partition.number

/-- Digits at the end make no difference to the parent. -/
theorem parentName_append_digits (name : List Char) {digits : List Char}
    (only : ∀ c ∈ digits, c.isDigit = true) : parentName (name ++ digits) = parentName name := by
  have stripped : (name ++ digits).reverse.dropWhile Char.isDigit =
      name.reverse.dropWhile Char.isDigit := by
    rw [List.reverse_append, List.dropWhile_append_of_pos]
    exact fun c mem => only c (List.mem_reverse.1 mem)
  rw [parentName, parentName, stripped]

theorem endsInDigit_iff {name : List Char} :
    endsInDigit name = true ↔ ∃ front d, name = front ++ [d] ∧ d.isDigit = true := by
  rw [endsInDigit, Option.any_eq_true]
  constructor
  · rintro ⟨d, last, digit⟩
    obtain ⟨front, split⟩ := List.getLast?_eq_some_iff.1 last
    exact ⟨front, d, split, digit⟩
  · rintro ⟨front, d, rfl, digit⟩
    exact ⟨d, List.getLast?_concat, digit⟩

/-- Where no digit ends a name nothing is stripped. -/
theorem dropWhile_isDigit_reverse {name : List Char} (last : endsInDigit name = false) :
    name.reverse.dropWhile Char.isDigit = name.reverse := by
  cases backwards : name.reverse with
  | nil => rfl
  | cons c front =>
    refine List.dropWhile_cons_of_neg fun digit => ?_
    have ends : endsInDigit name = true :=
      endsInDigit_iff.2 ⟨front.reverse, c, by rw [← List.reverse_cons, ← backwards,
        List.reverse_reverse], digit⟩
    exact absurd (last.symm.trans ends) Bool.false_ne_true

theorem SetOff.getLast?_eq {base name : List Char} (h : SetOff base name) :
    name.getLast? = some 'p' := by
  rw [h.1, List.getLast?_concat]

theorem SetOff.endsInDigit_eq_false {base name : List Char} (h : SetOff base name) :
    endsInDigit name = false := by
  rw [endsInDigit, h.getLast?_eq]
  rfl

/-- A name that is set off has the part before its `p` as parent. -/
theorem parentName_of_setOff {base name : List Char} (h : SetOff base name) :
    parentName name = base := by
  have stripped := dropWhile_isDigit_reverse h.endsInDigit_eq_false
  obtain ⟨rfl, ends⟩ := h
  obtain ⟨front, d, rfl, digit⟩ := endsInDigit_iff.1 ends
  rw [List.reverse_append, List.reverse_append] at stripped
  rw [parentName, List.reverse_append, List.reverse_append, stripped]
  simp [digit]

/-- Any other name that ends in no digit is its own parent. -/
theorem parentName_of_forall_not_setOff {name : List Char} (last : endsInDigit name = false)
    (alone : ∀ base, ¬ SetOff base name) : parentName name = name := by
  rw [parentName, dropWhile_isDigit_reverse last]
  split
  · next d rest backwards =>
    have split : name = (d :: rest).reverse ++ ['p'] := by
      rw [← List.reverse_cons, ← backwards, List.reverse_reverse]
    split
    · next digit =>
      refine absurd ⟨split, endsInDigit_iff.2 ⟨rest.reverse, d, ?_, digit⟩⟩ (alone _)
      rw [List.reverse_cons]
    · rw [split, List.reverse_cons]
  · exact List.reverse_reverse name

/-- The parent of a partition is its disk. -/
theorem parentName_name (partition : Partition) : parentName partition.name = partition.disk := by
  rw [Partition.name]
  split
  · next ends =>
    rw [List.append_cons, parentName_append_digits _ partition.digits]
    exact parentName_of_setOff ⟨rfl, ends⟩
  · next last =>
    rw [parentName_append_digits _ partition.digits]
    exact parentName_of_forall_not_setOff (Bool.not_eq_true _ ▸ last) partition.undivided

/-! ## Sizes -/

/-- The block size that a file gives: the numeral that it holds between blanks, or zero. -/
inductive SizeIn : Except IoFault String → Nat → Prop where
  | size {text : String} {n : Nat} (number : Numeral blockSizeBound (trim text.toList) n) :
    SizeIn (.ok text) n
  | noNumber {text : String} (none : ∀ n, ¬ Numeral blockSizeBound (trim text.toList) n) :
    SizeIn (.ok text) 0
  | unreadable (fault : IoFault) : SizeIn (.error fault) 0

theorem value_readSizeFile_eq_iff {host : Host} {path : String} {n : Nat} :
    (readSizeFile host path).value = n ↔ SizeIn (host.files.readText path) n := by
  unfold readSizeFile
  cases host.files.readText path with
  | error fault =>
    constructor
    · rintro rfl
      exact .unreadable fault
    · rintro ⟨⟩
      rfl
  | ok text =>
    simp only
    cases read : readUnsigned blockSizeBound (trim text.toList) with
    | error fault =>
      have none : ∀ n, ¬ Numeral blockSizeBound (trim text.toList) n := by
        intro n number
        cases read.symm.trans ((readUnsigned_eq_ok_iff (by decide)).2 number)
      constructor
      · rintro rfl
        exact .noNumber none
      · rintro (number | _)
        · exact absurd number (none n)
        · rfl
    | ok size =>
      have number := (readUnsigned_eq_ok_iff (by decide)).1 read
      constructor
      · rintro rfl
        exact .size number
      · rintro (other | none)
        · exact Except.ok.inj (read.symm.trans ((readUnsigned_eq_ok_iff (by decide)).2 other))
        · exact absurd number (none size)

variable {host : Host} {sysRoot device : String}

theorem readBlockSize_of_own (own : host.files.holds (sizePath sysRoot device) = true) :
    readBlockSize host sysRoot device = readSizeFile host (sizePath sysRoot device) := by
  simp [readBlockSize, own]

theorem readBlockSize_of_parent {parent : List Char}
    (own : host.files.holds (sizePath sysRoot device) = false)
    (named : parentName device.toList = parent)
    (held : host.files.holds (sizePath sysRoot (String.ofList parent)) = true) :
    readBlockSize host sysRoot device =
      readSizeFile host (sizePath sysRoot (String.ofList parent)) := by
  simp [readBlockSize, own, named, held]

theorem value_readBlockSize_of_none {parent : List Char}
    (own : host.files.holds (sizePath sysRoot device) = false)
    (named : parentName device.toList = parent)
    (held : host.files.holds (sizePath sysRoot (String.ofList parent)) = false) :
    (readBlockSize host sysRoot device).value = 0 := by
  simp [readBlockSize, own, named, held]

/-- Which block size a partition has. Its name leads back to its disk. Without a size file of its own
it has the size of the disk, if that has one; with one it has the size that this file gives, whatever
else there is on the host. -/
theorem partition_takes_size_of_disk (partition : Partition) (host : Host) (sysRoot : String) :
    let part := String.ofList partition.name
    let disk := String.ofList partition.disk
    parentName partition.name = partition.disk ∧
    (host.files.holds (sizePath sysRoot part) = false →
      host.files.holds (sizePath sysRoot disk) = true →
      readBlockSize host sysRoot part = readBlockSize host sysRoot disk) ∧
    (host.files.holds (sizePath sysRoot part) = true →
      (∀ size, (readBlockSize host sysRoot part).value = size ↔
        SizeIn (host.files.readText (sizePath sysRoot part)) size) ∧
      ∀ other : Host, other.files.holds (sizePath sysRoot part) = true →
        other.files.readText (sizePath sysRoot part) =
          host.files.readText (sizePath sysRoot part) →
        readBlockSize other sysRoot part = readBlockSize host sysRoot part) := by
  intro part disk
  have parent : parentName part.toList = partition.disk := by
    rw [String.toList_ofList, parentName_name]
  refine ⟨parentName_name partition, fun none held => ?_, fun own => ⟨fun size => ?_, ?_⟩⟩
  · rw [readBlockSize_of_parent none parent held, readBlockSize_of_own held]
  · rw [readBlockSize_of_own own, value_readSizeFile_eq_iff]
  · intro other own' same
    rw [readBlockSize_of_own own, readBlockSize_of_own own', readSizeFile, readSizeFile, same]

/-- The second partition of a disk whose name ends in a digit. -/
def secondPartition : Partition where
  disk := "nvme0n1".toList
  number := ['2']
  named := by decide
  undivided := fun _ setOff => absurd setOff.getLast?_eq (by decide)
  numbered := by decide
  digits := List.forall_mem_singleton.2 rfl

/-- A host with the size files of some devices. -/
def sizedHost (sizes : List (String × String)) : Host where
  now := 0
  files := sizes.foldl (fun tree e => tree.write (sizePath "sys" e.1) e.2.toUTF8) .empty
  mounts := .empty

/-- The partition has the size of its disk, until it has a file of its own, be it of no use. -/
theorem partition_takes_size_of_disk_second :
    secondPartition.name = "nvme0n1p2".toList ∧
    (readBlockSize (sizedHost [("nvme0n1", "4096\n")]) "sys" "nvme0n1p2").value = 4096 ∧
    (readBlockSize (sizedHost [("nvme0n1", "4096\n"), ("nvme0n1p2", "4294967296")]) "sys"
      "nvme0n1p2").value = 0 := by
  obtain ⟨_, inherits, _⟩ := partition_takes_size_of_disk secondPartition
    (sizedHost [("nvme0n1", "4096\n")]) "sys"
  obtain ⟨_, _, tooLarge⟩ := partition_takes_size_of_disk secondPartition
    (sizedHost [("nvme0n1", "4096\n"), ("nvme0n1p2", "4294967296")]) "sys"
  have name : String.ofList secondPartition.name = "nvme0n1p2" := by decide +kernel
  rw [name] at inherits tooLarge
  refine ⟨by decide +kernel, ?_, ?_⟩
  · rw [inherits (by decide +kernel) (by decide +kernel)]
    decide +kernel
  · exact ((tooLarge (by decide +kernel)).1 0).2 (value_readSizeFile_eq_iff.1 (by decide +kernel))

end BlockDevice

namespace BlockDevices

open BlockDevice

/-! ## Bytes of a device without a block size -/

theorem blockSize_seeded (now : Nat) (name : String) (size : Nat) (values : Counters) :
    (BlockDevice.seeded now name size values).blockSize = size := rfl

theorem bytes_seeded (now : Nat) (name : String) (size : Nat) (values : Counters) :
    (BlockDevice.seeded now name size values).bytesRead.count = 0 ∧
      (BlockDevice.seeded now name size values).bytesWritten.count = 0 := ⟨rfl, rfl⟩

/-- A device of a new collector has the block size that is read for it, and has counted nothing. -/
theorem device_of_create {host : Host} {procRoot sysRoot name : String} {disks : BlockDevices}
    {device : BlockDevice} (created : (create host procRoot sysRoot).value = .ok disks)
    (listed : disks.find? name = some device) :
    device.blockSize = (readBlockSize host sysRoot name).value ∧
      device.bytesRead.count = 0 ∧ device.bytesWritten.count = 0 := by
  obtain ⟨text, _, devices⟩ := of_create created
  obtain ⟨values, _, made⟩ := devices.seeds device (List.mem_of_find?_eq_some listed)
  rw [name_of_find? listed] at made
  rw [made, blockSize_seeded]
  exact ⟨rfl, bytes_seeded _ _ _ _⟩

/-- In blocks of no size no bytes are counted. -/
theorem bytes_run_of_unsized {disks : BlockDevices} {name : String} {device : BlockDevice}
    (known : disks.find? name = some device) (unsized : device.blockSize = 0)
    (hosts : List Host) :
    ∃ final, (Collector.run disks hosts).find? name = some final ∧
      final.bytesRead.count = device.bytesRead.count ∧
      final.bytesWritten.count = device.bytesWritten.count := by
  have tallied := tally_run known hosts
  obtain ⟨final, found, _⟩ := Option.map_eq_some_iff.1 (tallied .bytesRead)
  have same : ∀ activity : Activity, activity.unit 0 = 0 →
      (final.tally activity).count = (device.tally activity).count := by
    intro activity unit
    have ends := tallied activity
    rw [found, Option.map_some, Option.some.injEq, unsized, unit, Tally.foldl_take,
      gains_size_zero] at ends
    rw [ends]
    exact Int64.add_zero _
  exact ⟨final, found, same .bytesRead rfl, same .bytesWritten rfl⟩

/-- What block size a device has that is no partition by its name, in that it ends in no digit, and
has no size file of its own. It is zero, unless the name is set off: then it is taken for a partition
of the device named before the `p` and has the block size of that one, if that one has a size file.
The device keeps the size that it is created with, and where this is zero it never counts a byte,
whatever the refreshes meet. -/
theorem undivided_size {host : Host} {sysRoot name : String}
    (last : endsInDigit name.toList = false)
    (unsized : host.files.holds (sizePath sysRoot name) = false) :
    ((∀ base, ¬ SetOff base name.toList) → (readBlockSize host sysRoot name).value = 0) ∧
    (∀ base, SetOff base name.toList →
      (host.files.holds (sizePath sysRoot (String.ofList base)) = true →
        readBlockSize host sysRoot name = readBlockSize host sysRoot (String.ofList base)) ∧
      (host.files.holds (sizePath sysRoot (String.ofList base)) = false →
        (readBlockSize host sysRoot name).value = 0)) ∧
    ∀ procRoot disks device, (create host procRoot sysRoot).value = .ok disks →
      disks.find? name = some device →
      device.blockSize = (readBlockSize host sysRoot name).value ∧
      ((readBlockSize host sysRoot name).value = 0 → ∀ hosts,
        ∃ final, (Collector.run disks hosts).find? name = some final ∧
          final.bytesRead.count = 0 ∧ final.bytesWritten.count = 0) := by
  refine ⟨fun alone => ?_, fun base setOff => ⟨fun held => ?_, fun none => ?_⟩,
    fun procRoot disks device created listed => ?_⟩
  · have parent : parentName name.toList = name.toList :=
      parentName_of_forall_not_setOff last alone
    refine value_readBlockSize_of_none unsized parent ?_
    rw [String.ofList_toList]
    exact unsized
  · rw [readBlockSize_of_parent unsized (parentName_of_setOff setOff) held,
      readBlockSize_of_own held]
  · exact value_readBlockSize_of_none unsized (parentName_of_setOff setOff) none
  · obtain ⟨size, read, written⟩ := device_of_create created listed
    refine ⟨size, fun zero hosts => ?_⟩
    obtain ⟨final, found, sameRead, sameWritten⟩ :=
      bytes_run_of_unsized listed (size.trans zero) hosts
    exact ⟨final, found, sameRead.trans read, sameWritten.trans written⟩

/-- A host with a size file of `md0`, and with this disk table. -/
def arrayHost (now : Nat) (table : String) : Host where
  now := now
  files := (sizedHost [("md0", "512\n")]).files.write "proc/diskstats" table.toUTF8
  mounts := .empty

/-- A disk without a size file, and a device that is named like a partition without a number. -/
def arrayTable : String :=
  "8 0 sda 1 0 2 0 3 0 4\n9 0 md0p 1 0 2 0 3 0 4\n"

/-- The devices of this table. -/
def arrayDevices : BlockDevices :=
  (create (arrayHost 0 arrayTable) "proc" "sys").value.toOption.getD ⟨"", []⟩

theorem create_array :
    (create (arrayHost 0 arrayTable) "proc" "sys").value = .ok arrayDevices :=
  Collector.eq_ok_getD _ (by decide +kernel)

theorem unsized_array :
    (arrayHost 0 arrayTable).files.holds (sizePath "sys" "md0p") = false := by
  decide +kernel

/-- A later table, in which both have read and written. -/
def arrayHosts : List Host :=
  [arrayHost 1 "8 0 sda 2 0 12 0 4 0 24\n9 0 md0p 2 0 12 0 4 0 24\n"]

/-- The disk counts no byte, and the other device counts in the blocks of `md0`. -/
theorem undivided_size_array :
    (∃ final, (Collector.run arrayDevices arrayHosts).find? "sda" = some final ∧
      final.bytesRead.count = 0 ∧ final.bytesWritten.count = 0) ∧
    readBlockSize (arrayHost 0 arrayTable) "sys" "md0p" =
      readBlockSize (arrayHost 0 arrayTable) "sys" "md0" ∧
    (arrayDevices.find? "md0p").map (·.blockSize) = some 512 := by
  obtain ⟨zero, _, devices⟩ : _ ∧ _ ∧ _ :=
    @undivided_size (arrayHost 0 arrayTable) "sys" "sda" (by decide +kernel) (by decide +kernel)
  obtain ⟨_, borrows, sized⟩ : _ ∧ _ ∧ _ :=
    @undivided_size (arrayHost 0 arrayTable) "sys" "md0p" (by decide +kernel) unsized_array
  have alone : ∀ base, ¬ SetOff base "sda".toList := fun _ setOff =>
    absurd setOff.getLast?_eq (by decide)
  have setOff : SetOff "md0".toList "md0p".toList := ⟨by decide +kernel, by decide +kernel⟩
  obtain ⟨disk, listed⟩ := Option.isSome_iff_exists.1
    (show (arrayDevices.find? "sda").isSome = true by decide +kernel)
  obtain ⟨array, listed'⟩ := Option.isSome_iff_exists.1
    (show (arrayDevices.find? "md0p").isSome = true by decide +kernel)
  have same := (borrows _ setOff).1 (by decide +kernel)
  rw [String.ofList_toList] at same
  refine ⟨(devices _ _ disk create_array listed).2 (zero alone) arrayHosts, same, ?_⟩
  rw [listed', Option.map_some, (sized _ _ array create_array listed').1, same]
  decide +kernel

/-- A device whose name ends in no digit can have the block size of another one, and count bytes. -/
theorem undivided_borrows :
    (¬ ∀ (host : Host) (sysRoot name : String), endsInDigit name.toList = false →
      host.files.holds (sizePath sysRoot name) = false →
      (readBlockSize host sysRoot name).value = 0) ∧
    ¬ ∀ (host : Host) (procRoot sysRoot name : String) (disks : BlockDevices) (hosts : List Host)
      (final : BlockDevice), endsInDigit name.toList = false →
      host.files.holds (sizePath sysRoot name) = false →
      (create host procRoot sysRoot).value = .ok disks →
      (Collector.run disks hosts).find? name = some final →
      final.bytesRead.count = 0 ∧ final.bytesWritten.count = 0 := by
  have last : endsInDigit "md0p".toList = false := by decide +kernel
  constructor
  · intro all
    exact absurd (all _ _ _ last unsized_array) (by decide +kernel)
  · intro all
    -- Ten sectors were read, in blocks of 512 bytes.
    have read : ((Collector.run arrayDevices arrayHosts).find? "md0p").map (·.bytesRead.count) =
        some 5120 := by decide +kernel
    obtain ⟨final, found, count⟩ := Option.map_eq_some_iff.1 read
    obtain ⟨none, _⟩ := all _ _ _ _ _ _ _ last unsized_array create_array found
    exact absurd (none.symm.trans count) (by decide)

end BlockDevices

end HostVitals
