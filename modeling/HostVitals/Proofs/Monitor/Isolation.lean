import HostVitals.Proofs.Monitor.Exchange

/-!
# Faults stay in their source

Two runs of a monitor that differ in the files of one source only, at whatever moments and in
whatever way, differ in the metrics of that source only.

* `Act`, `run`: what is done with a monitor, each act on the host as it is by then.
* `Monitor.SameApart`: two monitors are the same but for one source.
* `Alongside`: two runs of the same acts, on hosts that differ in one source.

`sameApart_build` is the case of a monitor that has just been built, `SameApart.act` that of one
act, and `sources_isolated` that of two whole runs.
-/

namespace HostVitals.Monitor

variable {source : Source} {host host' : Host} {config : MonitorConfig}

/-! ## Runs -/

/-- The metric under a key and a name. -/
def metric? (monitor : Monitor) (key name : String) : Option MetricRef :=
  (monitor.bundles.find? key).bind (·.find? name)

/-- A way to read a metric. -/
inductive Look where
  | value
  | sample
  deriving DecidableEq, Repr

/-- The monitor after a metric was read. -/
def look (host : Host) (monitor : Monitor) (ref : MetricRef) : Look → Monitor
  | .value => (monitor.value host ref).value.2
  | .sample => (monitor.sample host ref).value.2

/-- Something that is done with a monitor. -/
inductive Act where
  | poll
  | read (look : Look) (key name : String)
  deriving DecidableEq, Repr

/-- The monitor after an act. A metric that is not there is not read. -/
def act (host : Host) (monitor : Monitor) : Act → Monitor
  | .poll => (monitor.poll host).value
  | .read how key name =>
    match monitor.metric? key name with
    | none => monitor
    | some ref => monitor.look host ref how

/-- The monitor after many acts, each on the host as it is by then. -/
def run (monitor : Monitor) (moments : List (Act × Host)) : Monitor :=
  moments.foldl (fun monitor moment => monitor.act moment.2 moment.1) monitor

/-- The same monitors, but for the metrics and the collector of one source. -/
structure SameApart (procRoot : String) (source : Source) (monitor monitor' : Monitor) :
    Prop where
  metrics : ∀ key name ref, ref.source? ≠ some source →
    (monitor.metric? key name = some ref ↔ monitor'.metric? key name = some ref)
  instruments : monitor.instruments.SameApart source monitor'.instruments
  placed : monitor.instruments.Placed procRoot
  placed' : monitor'.instruments.Placed procRoot

theorem placed_build (host : Host) (config : MonitorConfig) :
    (build host config).value.instruments.Placed config.procRoot := by
  rw [value_build]
  refine ⟨?_, ?_, fun memory made => ?_, fun network made => ?_, fun disks made => ?_⟩
  · rw [LoadAverage.value_create]
  · rw [LoadAverage.value_create]
  · exact Instruments.path_of_create_memory made
  · exact Instruments.path_of_create_network made
  · exact Instruments.path_of_create_disks made

theorem sameApart_build (alike : Host.SameApart config.procRoot config.sysRoot source host host')
    (clear : KeepsClear (accepted config.storageFilter (stores host config.storage))) :
    SameApart config.procRoot source (build host config).value (build host' config).value := by
  refine ⟨fun key name ref foreign => ?_, ?_, placed_build host config, placed_build host' config⟩
  · rw [value_build, value_build, metric?, metric?, find?_merge, find?_merge]
    rcases sameOffers_offers alike clear key with same | ⟨own, own'⟩
    · rw [same]
    · constructor
      · intro found
        obtain ⟨bundle, offered, mem⟩ := Option.bind_eq_some_iff.1 found
        exact absurd (own bundle offered name ref mem) foreign
      · intro found
        obtain ⟨bundle, offered, mem⟩ := Option.bind_eq_some_iff.1 found
        exact absurd (own' bundle offered name ref mem) foreign
  · rw [value_build, value_build]
    refine ⟨fun _ => ?_, memory?_congr alike, network?_congr alike, disks?_congr alike⟩
    rw [LoadAverage.value_create, LoadAverage.value_create]

/-- A metric of another source reads the same in both monitors, and reading it spreads no
difference. -/
theorem SameApart.look {monitor monitor' : Monitor} {procRoot sysRoot : String}
    (alike : Host.SameApart procRoot sysRoot source host host')
    (same : SameApart procRoot source monitor monitor') {ref : MetricRef}
    (foreign : ref.source? ≠ some source) (how : Look) :
    SameApart procRoot source (monitor.look host ref how) (monitor'.look host' ref how) := by
  cases how with
  | value =>
    exact ⟨same.metrics, (same.instruments.value alike same.placed foreign).2,
      same.placed.value host ref, same.placed'.value host' ref⟩
  | sample =>
    exact ⟨same.metrics, (same.instruments.sample alike same.placed foreign).2,
      same.placed.sample host ref, same.placed'.sample host' ref⟩

/-- Reading a metric of the source in one of the monitors makes no difference elsewhere. -/
theorem SameApart.look_own {monitor monitor' : Monitor} {procRoot : String}
    (same : SameApart procRoot source monitor monitor') {ref : MetricRef}
    (own : ref.source? = some source) (host : Host) (how : Look) :
    SameApart procRoot source (monitor.look host ref how) monitor' := by
  cases how with
  | value =>
    exact ⟨same.metrics, (Instruments.sameApart_value own host _).symm.trans same.instruments,
      same.placed.value host ref, same.placed'⟩
  | sample =>
    exact ⟨same.metrics, (Instruments.sameApart_sample own host _).symm.trans same.instruments,
      same.placed.sample host ref, same.placed'⟩

theorem SameApart.symm {monitor monitor' : Monitor} {procRoot : String}
    (same : SameApart procRoot source monitor monitor') :
    SameApart procRoot source monitor' monitor :=
  ⟨fun key name ref foreign => (same.metrics key name ref foreign).symm, same.instruments.symm,
    same.placed', same.placed⟩

theorem SameApart.read_own {monitor monitor' : Monitor} {procRoot key name : String}
    (same : SameApart procRoot source monitor monitor')
    (own : ∀ ref, monitor.metric? key name = some ref → ref.source? = some source) (host : Host)
    (how : Look) : SameApart procRoot source (monitor.act host (.read how key name)) monitor' := by
  simp only [Monitor.act]
  split
  · exact same
  · next ref found => exact same.look_own (own ref found) host how

/-- No act spreads a difference. -/
theorem SameApart.act {monitor monitor' : Monitor} {procRoot sysRoot : String}
    (alike : Host.SameApart procRoot sysRoot source host host')
    (same : SameApart procRoot source monitor monitor') (what : Act) :
    SameApart procRoot source (monitor.act host what) (monitor'.act host' what) := by
  cases what with
  | poll =>
    exact ⟨same.metrics, same.instruments.poll alike same.placed, same.placed.poll host,
      same.placed'.poll host'⟩
  | read how key name =>
    have metrics := same.metrics key name
    -- Either both read one metric of another source, or neither reads any such metric.
    by_cases foreign : ∃ ref, ref.source? ≠ some source ∧ monitor.metric? key name = some ref
    · obtain ⟨ref, foreign, one⟩ := foreign
      simp only [Monitor.act, one, (metrics ref foreign).1 one]
      exact same.look alike foreign how
    · have own : ∀ ref, monitor.metric? key name = some ref → ref.source? = some source :=
        fun ref one => Decidable.byContradiction fun other => foreign ⟨ref, other, one⟩
      have own' : ∀ ref, monitor'.metric? key name = some ref → ref.source? = some source :=
        fun ref two => Decidable.byContradiction fun other =>
          foreign ⟨ref, other, (metrics ref other).2 two⟩
      exact ((same.read_own own host how).symm.read_own own' host' how).symm

/-- Two runs side by side: the same acts, on hosts that differ in one source. -/
def Alongside (procRoot sysRoot : String) (source : Source) :
    List (Act × Host) → List (Act × Host) → Prop :=
  List.Forall₂ fun moment moment' =>
    moment.1 = moment'.1 ∧ Host.SameApart procRoot sysRoot source moment.2 moment'.2

theorem SameApart.run {monitor monitor' : Monitor} {procRoot sysRoot : String}
    {moments moments' : List (Act × Host)}
    (alongside : Alongside procRoot sysRoot source moments moments')
    (same : SameApart procRoot source monitor monitor') :
    SameApart procRoot source (monitor.run moments) (monitor'.run moments') := by
  induction alongside generalizing monitor monitor' with
  | nil => exact same
  | @cons moment moment' _ _ both _ ih =>
    obtain ⟨sameAct, alike⟩ := both
    have step := same.act alike moment.1
    exact ih (by simpa only [sameAct] using step)

/-- A fault stays in its source. Two runs that are the same but for the files of one source, when
the monitor is built and at any act after that, expose the same metrics of all other sources and
of the filesystems, with the same values and the same snapshots at every point, whatever became
of that one source. Trees that differ only in its files are a case of this. And the collectors of
a pass may be refreshed in any order. -/
theorem sources_isolated {start start' : Host}
    (clear : KeepsClear (accepted config.storageFilter (stores start config.storage)))
    (alike : Host.SameApart config.procRoot config.sysRoot source start start')
    {moments moments' : List (Act × Host)}
    (alongside : Alongside config.procRoot config.sysRoot source moments moments') :
    let monitor := (build start config).value.run moments
    let monitor' := (build start' config).value.run moments'
    (∀ key name ref, ref.source? ≠ some source →
      (monitor.metric? key name = some ref ↔ monitor'.metric? key name = some ref)) ∧
    (∀ host host', Host.SameApart config.procRoot config.sysRoot source host host' →
      ∀ ref : MetricRef, ref.source? ≠ some source →
        (monitor.value host ref).value.1 = (monitor'.value host' ref).value.1 ∧
        (monitor.sample host ref).value.1 = (monitor'.sample host' ref).value.1) ∧
    (∀ (files files' : FileTree) (now : Nat) (mounts : MountTable),
      FileTree.SameBut (source.files config.procRoot) files files' →
        Host.SameApart config.procRoot config.sysRoot source ⟨now, files, mounts⟩
          ⟨now, files', mounts⟩) ∧
    ∀ (host : Host) (order : List Source), order.Perm Source.all →
      (monitor.instruments.pollInOrder host order).value = (monitor.instruments.poll host).value := by
  have same := (sameApart_build alike clear).run alongside
  refine ⟨same.metrics, fun host host' alike ref foreign => ⟨?_, ?_⟩,
    fun files files' now mounts but => Host.sameApart_of_sameBut but now mounts,
    fun host order each => Instruments.value_pollInOrder each host _⟩
  · exact (same.instruments.value alike same.placed foreign).1
  · exact (same.instruments.sample alike same.placed foreign).1

/-- A monitor with one filesystem, below relative roots. -/
def watched : MonitorConfig :=
  { MonitorConfig.default with
    procRoot := "proc"
    sysRoot := "sys"
    storage := .fixed [⟨"/dev/sda1", "ext4", .fixed (some 1) none none⟩] }

/-- A host with these interfaces, and this memory table. -/
def memoryHost (now : Nat) (rows memory : String) : Host where
  now := now
  files :=
    (FileTree.empty.write "proc/net/dev" ("head\n|bytes|bytes\n" ++ rows).toUTF8).write
      "proc/meminfo" memory.toUTF8
  mounts := .empty

/-- The same host without its memory table. -/
def withoutMemory (host : Host) : Host :=
  { host with files := host.files.remove "proc/meminfo" }

/-- The memory table is missing when the second monitor is built and malformed when it is polled.
Its interface shows the traffic that the first one shows. -/
theorem sources_isolated_without_memory :
    let start := memoryHost 0 "eth0: 5 1\n" "MemTotal: 8 kB\n"
    let monitor := (build start watched).value.run
      [(.poll, memoryHost 1 "eth0: 9 1\n" "MemTotal: 7 kB\n")]
    let monitor' := (build (withoutMemory start) watched).value.run
      [(.poll, memoryHost 1 "eth0: 9 1\n" "MemTotal\n")]
    let traffic : MetricRef := .meter (.interface "eth0" 0)
    monitor.metric? "memory" "memtotal" = some (.gauge (.memory "MemTotal")) ∧
    monitor'.metric? "memory" "memtotal" = none ∧
    monitor'.metric? "iface.eth0" "receive.bytes" = some traffic ∧
    (monitor'.value start traffic).value.1 = .count 4 ∧
    (monitor.sample start traffic).value.1 = (monitor'.sample start traffic).value.1 := by
  intro start monitor monitor' traffic
  have listed : "proc/meminfo" ∈ Source.memory.files "proc" := by decide +kernel
  have built : Host.SameApart "proc" "sys" .memory start (withoutMemory start) :=
    Host.sameApart_of_sameBut (FileTree.sameBut_remove listed _ _) 0 .empty
  have polled : Host.SameApart "proc" "sys" .memory
      (memoryHost 1 "eth0: 9 1\n" "MemTotal: 7 kB\n") (memoryHost 1 "eth0: 9 1\n" "MemTotal\n") :=
    Host.sameApart_of_sameBut (FileTree.sameBut_write listed _ _ _) 1 .empty
  have alongside : Alongside "proc" "sys" .memory
      [(.poll, memoryHost 1 "eth0: 9 1\n" "MemTotal: 7 kB\n")]
      [(.poll, memoryHost 1 "eth0: 9 1\n" "MemTotal\n")] := .cons ⟨rfl, polled⟩ .nil
  have clear : KeepsClear (accepted watched.storageFilter (stores start watched.storage)) := by
    intro store mem
    have key : store.key = "dev/sda1" := by
      revert store
      decide +kernel
    rw [key]
    exact ⟨by decide, fun name =>
      ne_of_head? (c := 'd') (by decide) (head?_interfaceKey name) (by decide)⟩
  obtain ⟨metrics, readings, _⟩ := sources_isolated clear built alongside
  refine ⟨by decide +kernel, by decide +kernel, ?_, by decide +kernel, ?_⟩
  · exact (metrics _ _ _ (by decide)).1 (by decide +kernel)
  · exact (readings start start (Host.sameApart_of_sameBut .refl 0 .empty) traffic (by decide)).2

end HostVitals.Monitor
