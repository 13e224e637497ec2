import HostVitals.Proofs.BlockDevice.Accounting
import HostVitals.Proofs.Monitor.Sources
import HostVitals.Proofs.Network.Accounting

/-!
# Collectors side by side

The collectors of one monitor do not see each other. A pass or a reading that meets a difference
in one source leaves it where it is, and the order of a pass makes no difference at all.

* `MetricRef.source?`: the source that a metric belongs to.
* `Instruments.Placed`: every collector reads the files of its own source.
* `Instruments.SameApart`: two sets of collectors are the same but for one.

`SameApart.poll`, `SameApart.value` and `SameApart.sample` compare two sets of collectors step by
step, `sameApart_value` and `sameApart_sample` say what a reading leaves alone, and
`value_pollInOrder` lets a pass refresh in any order.
-/

namespace HostVitals

open Logged
open Text (join)
open FileTree (seen)

/-- The source that a metric belongs to. The capacity of a filesystem belongs to none. -/
def MetricRef.source? : MetricRef → Option Source
  | .gauge (.load _) => some .load
  | .gauge (.memory _) => some .memory
  | .gauge (.capacity _ _) => none
  | .meter (.interface _ _) => some .network
  | .meter (.disk _ _) => some .disks

namespace Instruments

/-- Every collector reads the files of its own source. -/
structure Placed (procRoot : String) (i : Instruments) : Prop where
  load : i.load.loadPath = join procRoot "loadavg"
  uptime : i.load.uptimePath = join procRoot "uptime"
  memory : ∀ memory ∈ i.memory, memory.path = join procRoot "meminfo"
  network : ∀ network ∈ i.network, network.path = join (join procRoot "net") "dev"
  disks : ∀ disks ∈ i.disks, disks.path = join procRoot "diskstats"

/-- The same collectors, but for that of one source. -/
structure SameApart (source : Source) (i i' : Instruments) : Prop where
  load : source ≠ .load → i.load = i'.load
  memory : source ≠ .memory → i.memory = i'.memory
  network : source ≠ .network → i.network = i'.network
  disks : source ≠ .disks → i.disks = i'.disks

variable {procRoot sysRoot : String} {source : Source} {host host' : Host} {i i' i'' : Instruments}

theorem SameApart.refl (source : Source) (i : Instruments) : SameApart source i i :=
  ⟨fun _ => rfl, fun _ => rfl, fun _ => rfl, fun _ => rfl⟩

theorem SameApart.symm (same : SameApart source i i') : SameApart source i' i :=
  ⟨fun ne => (same.load ne).symm, fun ne => (same.memory ne).symm,
    fun ne => (same.network ne).symm, fun ne => (same.disks ne).symm⟩

theorem SameApart.trans (same : SameApart source i i') (same' : SameApart source i' i'') :
    SameApart source i i'' :=
  ⟨fun ne => (same.load ne).trans (same'.load ne),
    fun ne => (same.memory ne).trans (same'.memory ne),
    fun ne => (same.network ne).trans (same'.network ne),
    fun ne => (same.disks ne).trans (same'.disks ne)⟩

/-! ## A pass -/

theorem value_mapM_option {α β : Type} (f : α → Logged β) (a? : Option α) :
    (a?.mapM f).value = a?.map fun a => (f a).value := by
  cases a? <;> rfl

/-- A pass refreshes every collector from its own state only. -/
theorem value_poll (host : Host) (i : Instruments) :
    (i.poll host).value =
      { load := Collector.next i.load host
        memory := i.memory.map (Collector.next · host)
        network := i.network.map (Collector.next · host)
        disks := i.disks.map (Collector.next · host) } := by
  simp only [poll, value_bind, value_pure, value_mapM_option, Collector.value_poll]
  rfl

/-- Hosts that look the same to the collector of a source show it the same files. -/
theorem seen_of_mem_files (alike : Host.SameApart procRoot sysRoot source host host')
    {other : Source} (ne : source ≠ other) {path : String}
    (listed : path ∈ other.files procRoot) :
    seen (host.files.resolve path) = seen (host'.files.resolve path) :=
  alike.files other ne.symm path (.own listed)

theorem read_eq_of_placed (alike : Host.SameApart procRoot sysRoot source host host')
    (placed : i.Placed procRoot) (ne : source ≠ .load) :
    (i.load.read host).value = (i.load.read host').value := by
  refine LoadAverage.read_congr alike.now ?_ ?_
  · rw [placed.load]
    exact seen_of_mem_files alike ne (by simp [Source.files, Source.names, Source.directory])
  · rw [placed.uptime]
    exact seen_of_mem_files alike ne (by simp [Source.files, Source.names, Source.directory])

/-- A pass spreads no difference. -/
theorem SameApart.poll (alike : Host.SameApart procRoot sysRoot source host host')
    (placed : i.Placed procRoot) (same : SameApart source i i') :
    SameApart source (i.poll host).value (i'.poll host').value := by
  rw [value_poll, value_poll]
  refine ⟨fun ne => ?_, fun ne => ?_, fun ne => ?_, fun ne => ?_⟩
  · rw [← same.load ne]
    exact congrArg Prod.snd (read_eq_of_placed alike placed ne)
  · rw [← same.memory ne]
    refine Option.map_congr fun memory mem => MemoryInfo.next_congr ?_
    rw [placed.memory memory mem]
    exact seen_of_mem_files alike ne List.mem_cons_self
  · rw [← same.network ne]
    refine Option.map_congr fun network mem => NetworkDevices.next_congr alike.now ?_
    rw [placed.network network mem]
    exact seen_of_mem_files alike ne List.mem_cons_self
  · rw [← same.disks ne]
    refine Option.map_congr fun disks mem => BlockDevices.next_congr alike.now ?_
    rw [placed.disks disks mem]
    exact seen_of_mem_files alike ne List.mem_cons_self

/-! ## A reading -/

theorem meter?_eq_of_sameApart (same : SameApart source i i') {ref : MeterRef}
    (foreign : (MetricRef.meter ref).source? ≠ some source) : i.meter? ref = i'.meter? ref := by
  cases ref with
  | interface name column =>
    rw [meter?, same.network fun own => foreign (own ▸ rfl)]
    rfl
  | disk device activity =>
    rw [meter?, same.disks fun own => foreign (own ▸ rfl)]
    rfl

theorem SameApart.setMeter (same : SameApart source i i') (ref : MeterRef) (meter : Meter) :
    SameApart source (i.setMeter ref meter) (i'.setMeter ref meter) := by
  cases ref with
  | interface name column =>
    exact ⟨same.load, same.memory, fun ne => congrArg (Option.map _) (same.network ne),
      same.disks⟩
  | disk device activity =>
    exact ⟨same.load, same.memory, same.network,
      fun ne => congrArg (Option.map _) (same.disks ne)⟩

theorem sameApart_setMeter {ref : MeterRef} (own : (MetricRef.meter ref).source? = some source)
    (i : Instruments) (meter : Meter) : SameApart source i (i.setMeter ref meter) := by
  cases ref with
  | interface name column =>
    cases own
    exact ⟨fun _ => rfl, fun _ => rfl, fun ne => absurd rfl ne, fun _ => rfl⟩
  | disk device activity =>
    cases own
    exact ⟨fun _ => rfl, fun _ => rfl, fun _ => rfl, fun ne => absurd rfl ne⟩

/-- A gauge shows the same, and reading it spreads no difference. -/
theorem SameApart.readGauge (alike : Host.SameApart procRoot sysRoot source host host')
    (placed : i.Placed procRoot) (same : SameApart source i i') {ref : GaugeRef}
    (foreign : (MetricRef.gauge ref).source? ≠ some source) :
    (i.readGauge host ref).value.1 = (i'.readGauge host' ref).value.1 ∧
      SameApart source (i.readGauge host ref).value.2 (i'.readGauge host' ref).value.2 := by
  cases ref with
  | load gauge =>
    have ne : source ≠ .load := fun own => foreign (own ▸ rfl)
    have read := read_eq_of_placed alike placed ne
    simp only [Instruments.readGauge, value_bind, value_pure, ← same.load ne, read]
    exact ⟨trivial, fun _ => rfl, same.memory, same.network, same.disks⟩
  | memory key =>
    have ne : source ≠ .memory := fun own => foreign (own ▸ rfl)
    simp only [Instruments.readGauge, value_pure, same.memory ne]
    exact ⟨trivial, same⟩
  | capacity store figure =>
    simp only [Instruments.readGauge, value_bind, value_pure, alike.mounts]
    exact ⟨trivial, same⟩

/-- A metric of another source has the same value, and reading it spreads no difference. -/
theorem SameApart.value (alike : Host.SameApart procRoot sysRoot source host host')
    (placed : i.Placed procRoot) (same : SameApart source i i') {ref : MetricRef}
    (foreign : ref.source? ≠ some source) :
    (i.value host ref).value.1 = (i'.value host' ref).value.1 ∧
      SameApart source (i.value host ref).value.2 (i'.value host' ref).value.2 := by
  cases ref with
  | gauge ref =>
    obtain ⟨shown, after⟩ := same.readGauge alike placed foreign
    exact ⟨congrArg MetricValue.gauge shown, after⟩
  | meter ref =>
    simp only [Instruments.value, value_pure, meter?_eq_of_sameApart same foreign]
    exact ⟨trivial, same⟩

/-- What is served for a metric of another source is the same, whole snapshot and all. -/
theorem SameApart.sample (alike : Host.SameApart procRoot sysRoot source host host')
    (placed : i.Placed procRoot) (same : SameApart source i i') {ref : MetricRef}
    (foreign : ref.source? ≠ some source) :
    (i.sample host ref).value.1 = (i'.sample host' ref).value.1 ∧
      SameApart source (i.sample host ref).value.2 (i'.sample host' ref).value.2 := by
  cases ref with
  | gauge ref =>
    obtain ⟨shown, after⟩ := same.readGauge alike placed foreign
    exact ⟨congrArg Sample.gauge shown, after⟩
  | meter ref =>
    simp only [Instruments.sample, value_pure, meter?_eq_of_sameApart same foreign, alike.now]
    exact ⟨trivial, same.setMeter ref _⟩

theorem sameApart_readGauge {ref : GaugeRef} (own : (MetricRef.gauge ref).source? = some source)
    (host : Host) (i : Instruments) : SameApart source i (i.readGauge host ref).value.2 := by
  cases ref with
  | load gauge =>
    cases own
    exact ⟨fun ne => absurd rfl ne, fun _ => rfl, fun _ => rfl, fun _ => rfl⟩
  | memory key => exact .refl source i
  | capacity store figure => exact .refl source i

/-- Reading a metric changes no collector but its own. -/
theorem sameApart_value {ref : MetricRef} (own : ref.source? = some source) (host : Host)
    (i : Instruments) : SameApart source i (i.value host ref).value.2 := by
  cases ref with
  | gauge ref => exact sameApart_readGauge own host i
  | meter ref => exact .refl source i

theorem sameApart_sample {ref : MetricRef} (own : ref.source? = some source) (host : Host)
    (i : Instruments) : SameApart source i (i.sample host ref).value.2 := by
  cases ref with
  | gauge ref => exact sameApart_readGauge own host i
  | meter ref => exact sameApart_setMeter own i _

/-! ## Where collectors read -/

theorem paths_read (host : Host) (load : LoadAverage) :
    (load.read host).value.2.loadPath = load.loadPath ∧
      (load.read host).value.2.uptimePath = load.uptimePath := by
  unfold LoadAverage.read
  split <;> exact ⟨rfl, rfl⟩

theorem path_of_create_memory {keys : List String} {memory : MemoryInfo}
    (created : (MemoryInfo.create host procRoot keys).value.toOption = some memory) :
    memory.path = join procRoot "meminfo" := by
  unfold MemoryInfo.create at created
  simp only at created
  split at created <;> cases created
  rfl

theorem path_of_create_network {network : NetworkDevices}
    (created : (NetworkDevices.create host procRoot).value.toOption = some network) :
    network.path = join (join procRoot "net") "dev" := by
  unfold NetworkDevices.create at created
  simp only at created
  split at created
  · cases created
  · split at created
    · split at created <;> cases created
      rfl
    · cases created

theorem path_of_create_disks {disks : BlockDevices}
    (created : (BlockDevices.create host procRoot sysRoot).value.toOption = some disks) :
    disks.path = join procRoot "diskstats" := by
  unfold BlockDevices.create at created
  simp only at created
  split at created <;> cases created
  rfl

theorem path_next_memory (host : Host) (memory : MemoryInfo) :
    (Collector.next memory host).path = memory.path := by
  simp only [Collector.next, Collector.refresh]
  split <;> rfl

theorem Placed.poll (placed : i.Placed procRoot) (host : Host) :
    (i.poll host).value.Placed procRoot := by
  obtain ⟨loadPath, uptimePath⟩ := paths_read host i.load
  rw [value_poll]
  refine ⟨loadPath.trans placed.load, uptimePath.trans placed.uptime, ?_, ?_, ?_⟩
  · intro memory mem
    obtain ⟨before, was, rfl⟩ := Option.map_eq_some_iff.1 mem
    exact (path_next_memory host before).trans (placed.memory before was)
  · intro network mem
    obtain ⟨before, was, rfl⟩ := Option.map_eq_some_iff.1 mem
    exact (NetworkDevices.path_next before host).trans (placed.network before was)
  · intro disks mem
    obtain ⟨before, was, rfl⟩ := Option.map_eq_some_iff.1 mem
    exact (BlockDevices.path_next before host).trans (placed.disks before was)

theorem Placed.readGauge (placed : i.Placed procRoot) (host : Host) (ref : GaugeRef) :
    (i.readGauge host ref).value.2.Placed procRoot := by
  cases ref with
  | load gauge =>
    obtain ⟨loadPath, uptimePath⟩ := paths_read host i.load
    exact ⟨loadPath.trans placed.load, uptimePath.trans placed.uptime, placed.memory,
      placed.network, placed.disks⟩
  | memory key => exact placed
  | capacity store figure => exact placed

theorem Placed.setMeter (placed : i.Placed procRoot) (ref : MeterRef) (meter : Meter) :
    (i.setMeter ref meter).Placed procRoot := by
  cases ref with
  | interface name column =>
    refine ⟨placed.load, placed.uptime, placed.memory, fun network mem => ?_, placed.disks⟩
    obtain ⟨before, was, rfl⟩ := Option.map_eq_some_iff.1 mem
    exact placed.network before was
  | disk device activity =>
    refine ⟨placed.load, placed.uptime, placed.memory, placed.network, fun disks mem => ?_⟩
    obtain ⟨before, was, rfl⟩ := Option.map_eq_some_iff.1 mem
    exact placed.disks before was

theorem Placed.value (placed : i.Placed procRoot) (host : Host) (ref : MetricRef) :
    (i.value host ref).value.2.Placed procRoot := by
  cases ref with
  | gauge ref => exact placed.readGauge host ref
  | meter ref => exact placed

theorem Placed.sample (placed : i.Placed procRoot) (host : Host) (ref : MetricRef) :
    (i.sample host ref).value.2.Placed procRoot := by
  cases ref with
  | gauge ref => exact placed.readGauge host ref
  | meter ref => exact placed.setMeter ref _

/-! ## The order of a pass -/

/-- Refreshes the collector of one source, if there is one. -/
def pollOne (host : Host) (i : Instruments) : Source → Logged Instruments
  | .load => do
    let load ← Collector.poll host i.load
    return { i with load }
  | .memory => do
    let memory ← i.memory.mapM (Collector.poll host)
    return { i with memory }
  | .network => do
    let network ← i.network.mapM (Collector.poll host)
    return { i with network }
  | .disks => do
    let disks ← i.disks.mapM (Collector.poll host)
    return { i with disks }

/-- Refreshes the collectors of some sources, one after the other. -/
def pollInOrder (host : Host) (order : List Source) (i : Instruments) : Logged Instruments :=
  order.foldlM (pollOne host) i

/-- Two refreshes do not see each other. -/
theorem value_pollOne_comm (host : Host) (first second : Source) (i : Instruments) :
    (pollOne host (pollOne host i first).value second).value =
      (pollOne host (pollOne host i second).value first).value := by
  cases first <;> cases second <;> rfl

/-- In whatever order a pass takes the collectors, it ends with the same state of each. -/
theorem value_pollInOrder {order : List Source} (each : order.Perm Source.all) (host : Host)
    (i : Instruments) : (pollInOrder host order i).value = (i.poll host).value := by
  rw [pollInOrder, value_foldlM,
    each.foldl_eq' (fun first _ second _ i => value_pollOne_comm host first second i) i]
  rfl

end Instruments

end HostVitals
