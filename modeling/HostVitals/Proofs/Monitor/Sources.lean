import HostVitals.Monitor.Instruments
import HostVitals.Proofs.Collector.Run
import HostVitals.Proofs.FileTree.Apart

/-!
# The sources of a monitor

Each collector consults files of its own, and what it makes of them depends on nothing else of
the file tree.

* `Source`, `Source.Consults`: the sources, and the paths that the collector of each looks up.
* `Host.SameApart`: two hosts look the same to all collectors but one.

`sameApart_of_sameBut` is the case of two trees that differ in the files of one source. The
`create_congr` and `next_congr` of a collector say that it is created and refreshed alike where
its own files look the same.
-/

namespace HostVitals

open Text (join)
open FileTree (seen)

/-- What the collectors of a monitor read. -/
inductive Source where
  | load
  | memory
  | network
  | disks
  deriving DecidableEq, Repr

namespace Source

/-- All sources, in the order in which they are refreshed. -/
def all : List Source := [.load, .memory, .network, .disks]

/-- The names of the files of a source. -/
def names : Source → List String
  | .load => ["loadavg", "uptime"]
  | .memory => ["meminfo"]
  | .network => ["dev"]
  | .disks => ["diskstats"]

/-- The directory of the files of a source. -/
def directory (procRoot : String) : Source → String
  | .network => join procRoot "net"
  | _ => procRoot

/-- The files of a source. -/
def files (procRoot : String) (source : Source) : List String :=
  source.names.map (join (source.directory procRoot))

/-- The paths that the collector of a source looks up: its files and, for block devices, the
files with their block sizes. -/
inductive Consults (procRoot sysRoot : String) : Source → String → Prop where
  | own {source : Source} {path : String} (listed : path ∈ source.files procRoot) :
    Consults procRoot sysRoot source path
  | blockSize (device : String) :
    Consults procRoot sysRoot .disks (BlockDevice.sizePath sysRoot device)

end Source

/-- Two hosts look the same to every collector but that of one source. -/
structure Host.SameApart (procRoot sysRoot : String) (source : Source) (host host' : Host) :
    Prop where
  now : host.now = host'.now
  mounts : host.mounts = host'.mounts
  files : ∀ other, other ≠ source → ∀ path, other.Consults procRoot sysRoot path →
    seen (host.files.resolve path) = seen (host'.files.resolve path)

namespace Source

/-- The name says nothing but which entry of a directory it is. -/
def Plain (name : String) : Prop :=
  '/' ∉ name.toList ∧ ¬ (name = "" ∨ name = ".") ∧ name ≠ ".."

instance (name : String) : Decidable (Plain name) :=
  inferInstanceAs (Decidable (_ ∧ _))

theorem plain_of_mem_names {source : Source} : ∀ name ∈ source.names, Plain name := by
  cases source <;> decide +kernel

/-- No two sources have files of one name. -/
theorem names_disjoint {source other : Source} (ne : other ≠ source) :
    ∀ name ∈ other.names, name ∉ source.names := by
  revert ne
  cases source <;> cases other <;> decide +kernel

/-- A path that a collector looks up ends in a name of no file of another source. -/
theorem Consults.last_name {procRoot sysRoot : String} {source other : Source} {path : String}
    (consults : other.Consults procRoot sysRoot path) (ne : other ≠ source) :
    ∃ name, (FileTree.components path).getLast? = some name ∧ name ∉ source.names := by
  cases consults with
  | own listed =>
    obtain ⟨name, mem, rfl⟩ := List.mem_map.1 listed
    exact ⟨name, FileTree.getLast?_components_join _ (plain_of_mem_names name mem).1,
      names_disjoint ne name mem⟩
  | blockSize device =>
    refine ⟨"physical_block_size", FileTree.getLast?_components_join _ (by decide), ?_⟩
    cases source <;> decide +kernel

end Source

/-- Trees that are the same but for the files of one source look the same to the other
collectors. -/
theorem Host.sameApart_of_sameBut {procRoot sysRoot : String} {source : Source}
    {files files' : FileTree} (same : FileTree.SameBut (source.files procRoot) files files')
    (now : Nat) (mounts : MountTable) :
    Host.SameApart procRoot sysRoot source ⟨now, files, mounts⟩ ⟨now, files', mounts⟩ := by
  refine ⟨rfl, rfl, fun other ne path consults => same.seen_resolve fun own listed => ?_⟩
  obtain ⟨name, last, foreign⟩ := consults.last_name ne
  obtain ⟨file, mem, rfl⟩ := List.mem_map.1 listed
  obtain ⟨plain, leads, down⟩ := Source.plain_of_mem_names file mem
  refine ⟨file, fun tree => tree.getLast?_trail_join _ plain leads down, fun same => ?_⟩
  rw [last, Option.some.injEq] at same
  exact foreign (same ▸ mem)

/-! ## What a collector makes of its source -/

theorem Host.readSource_of_seen {host host' : Host} {path : String}
    (same : seen (host.files.resolve path) = seen (host'.files.resolve path)) :
    (∃ text, host.readSource path = .ok text ∧ host'.readSource path = .ok text) ∨
    ∃ fault fault', host.readSource path = .error fault ∧
      host'.readSource path = .error fault' := by
  simp only [Host.readSource]
  obtain ⟨text, one, two⟩ | ⟨fault, fault', one, two⟩ := FileTree.readText_of_seen same
  · rw [one, two]
    exact .inl ⟨text, rfl, rfl⟩
  · rw [one, two]
    exact .inr ⟨_, _, rfl, rfl⟩

namespace LoadAverage

theorem readFields_congr {host host' : Host} {path : String}
    (same : seen (host.files.resolve path) = seen (host'.files.resolve path)) (n : Nat) :
    (readFields n host path).value = (readFields n host' path).value := by
  obtain ⟨text, one, two⟩ | ⟨fault, fault', one, two⟩ := FileTree.readText_of_seen same
  · simp only [readFields, one, two]
  · simp only [readFields, one, two]
    rfl

theorem read_congr {host host' : Host} {load : LoadAverage} (now : host.now = host'.now)
    (loads : seen (host.files.resolve load.loadPath) = seen (host'.files.resolve load.loadPath))
    (uptimes :
      seen (host.files.resolve load.uptimePath) = seen (host'.files.resolve load.uptimePath)) :
    (load.read host).value = (load.read host').value := by
  unfold read
  rw [now]
  split
  · rfl
  · simp only [Logged.value_bind, parse, readFields_congr loads, readFields_congr uptimes]

end LoadAverage

namespace MemoryInfo

theorem create_congr {host host' : Host} {procRoot : String}
    (same : seen (host.files.resolve (join procRoot "meminfo")) =
      seen (host'.files.resolve (join procRoot "meminfo"))) (keys : List String) :
    (create host procRoot keys).value.toOption = (create host' procRoot keys).value.toOption := by
  obtain ⟨text, one, two⟩ | ⟨fault, fault', one, two⟩ := Host.readSource_of_seen same <;>
    simp [create, one, two, Except.toOption]

theorem next_congr {host host' : Host} {memory : MemoryInfo}
    (same : seen (host.files.resolve memory.path) = seen (host'.files.resolve memory.path)) :
    Collector.next memory host = Collector.next memory host' := by
  obtain ⟨text, one, two⟩ | ⟨fault, fault', one, two⟩ := Host.readSource_of_seen same <;>
    simp [Collector.next, Collector.refresh, one, two]

end MemoryInfo

namespace NetworkDevices

theorem create_congr {host host' : Host} {procRoot : String} (now : host.now = host'.now)
    (same : seen (host.files.resolve (join (join procRoot "net") "dev")) =
      seen (host'.files.resolve (join (join procRoot "net") "dev"))) :
    (create host procRoot).value.toOption = (create host' procRoot).value.toOption := by
  -- Two faults may differ in their cause; that there is no collector is the same in both.
  obtain ⟨text, one, two⟩ | ⟨fault, fault', one, two⟩ := Host.readSource_of_seen same
  · unfold create
    dsimp only
    rw [one, two, now]
  · unfold create
    dsimp only
    rw [one, two]
    rfl

theorem next_congr {host host' : Host} {devices : NetworkDevices} (now : host.now = host'.now)
    (same : seen (host.files.resolve devices.path) = seen (host'.files.resolve devices.path)) :
    Collector.next devices host = Collector.next devices host' := by
  obtain ⟨text, one, two⟩ | ⟨fault, fault', one, two⟩ := Host.readSource_of_seen same
  · simp only [Collector.next, Collector.refresh, currentRows, one, two, now]
  · simp [Collector.next, Collector.refresh, currentRows, one, two, bind, Except.bind]

end NetworkDevices

namespace BlockDevices

theorem readBlockSize_congr {host host' : Host} {sysRoot : String}
    (same : ∀ device, seen (host.files.resolve (BlockDevice.sizePath sysRoot device)) =
      seen (host'.files.resolve (BlockDevice.sizePath sysRoot device))) (device : String) :
    (BlockDevice.readBlockSize host sysRoot device).value =
      (BlockDevice.readBlockSize host' sysRoot device).value := by
  have sizes : ∀ device,
      (BlockDevice.readSizeFile host (BlockDevice.sizePath sysRoot device)).value =
        (BlockDevice.readSizeFile host' (BlockDevice.sizePath sysRoot device)).value := by
    intro device
    obtain ⟨text, one, two⟩ | ⟨fault, fault', one, two⟩ := FileTree.readText_of_seen (same device)
    · simp only [BlockDevice.readSizeFile, one, two]
    · simp only [BlockDevice.readSizeFile, one, two]
      rfl
  simp only [BlockDevice.readBlockSize, FileTree.holds_of_seen (same _)]
  split
  · exact sizes _
  · split
    · exact sizes _
    · rfl

theorem create_congr {host host' : Host} {procRoot sysRoot : String} (now : host.now = host'.now)
    (same : seen (host.files.resolve (join procRoot "diskstats")) =
      seen (host'.files.resolve (join procRoot "diskstats")))
    (sizes : ∀ device, seen (host.files.resolve (BlockDevice.sizePath sysRoot device)) =
      seen (host'.files.resolve (BlockDevice.sizePath sysRoot device))) :
    (create host procRoot sysRoot).value.toOption =
      (create host' procRoot sysRoot).value.toOption := by
  have rows : ∀ location devices row, (addRow host sysRoot location devices row).value =
      (addRow host' sysRoot location devices row).value := by
    intro location devices row
    unfold addRow
    split
    · rfl
    · split
      · rfl
      · simp only [Logged.value_bind, readBlockSize_congr sizes, now]
  obtain ⟨text, one, two⟩ | ⟨fault, fault', one, two⟩ := Host.readSource_of_seen same
  · simp only [create, one, two, Logged.value_bind, Logged.value_foldlM, rows]
  · simp [create, one, two, Except.toOption]

theorem next_congr {host host' : Host} {disks : BlockDevices} (now : host.now = host'.now)
    (same : seen (host.files.resolve disks.path) = seen (host'.files.resolve disks.path)) :
    Collector.next disks host = Collector.next disks host' := by
  obtain ⟨text, one, two⟩ | ⟨fault, fault', one, two⟩ := Host.readSource_of_seen same <;>
    simp [Collector.next, Collector.refresh, one, two, now]

end BlockDevices

end HostVitals
