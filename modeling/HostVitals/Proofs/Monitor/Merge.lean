import HostVitals.Monitor.Basic
import HostVitals.Proofs.Storage.Backing

/-!
# The namespace of a monitor

What a monitor exposes is a merge in which the first bundle of each key stays. What is merged
is said here as one list of bundles with their keys, in order.

* `merge`: the merge of a list.
* `memoryOffers`, `interfaceOffers`, `storeOffers`, `diskOffers`: what each source offers.
* `offers`: all that is offered to a monitor, in order.

`find?_merge` reads a merge, `value_addInterfaces`, `value_addStores` and
`value_addBlockDevices` say what each step of the building adds, `value_build` what a monitor
is built to, and `build_merges` what it exposes.
-/

namespace HostVitals

open Logged

namespace Monitor

/-! ## Merging -/

/-- Adds bundles in order, each unless its key is taken. -/
def mergeInto (ns : Namespace) (offers : List (String × Bundle)) : Namespace :=
  offers.foldl (fun ns offer => ns.insertNew offer.1 offer.2) ns

/-- The namespace of bundles that are added in order. -/
def merge (offers : List (String × Bundle)) : Namespace :=
  mergeInto .empty offers

theorem mergeInto_append (ns : Namespace) (first later : List (String × Bundle)) :
    mergeInto ns (first ++ later) = mergeInto (mergeInto ns first) later :=
  List.foldl_append

theorem find?_mergeInto (ns : Namespace) (offers : List (String × Bundle)) (key : String) :
    (mergeInto ns offers).find? key = (ns.find? key).or (offers.lookup key) := by
  rw [mergeInto, NameMap.find?_foldl_insertNew]
  congr 1
  induction offers with
  | nil => rfl
  | cons offer offers ih =>
    rw [List.find?_cons, NameMap.lookup_cons, ← ih]
    by_cases same : key = offer.1
    · rw [if_pos same, same, beq_self_eq_true]
      rfl
    · rw [if_neg same, beq_eq_false_iff_ne.2 (Ne.symm same)]

/-- Each key has the first bundle offered under it. -/
theorem find?_merge (offers : List (String × Bundle)) (key : String) :
    (merge offers).find? key = offers.lookup key := by
  rw [merge, find?_mergeInto, NameMap.find?_empty, Option.none_or]

theorem contains_merge (offers : List (String × Bundle)) (key : String) :
    (merge offers).contains key = true ↔ key ∈ offers.map (·.1) := by
  rw [NameMap.contains, find?_merge]
  simp

theorem value_addBundle (key : String) (bundle : Bundle) (ns : Namespace) :
    (addBundle key bundle ns).value = ns.insertNew key bundle := by
  unfold addBundle NameMap.insertNew
  cases ns.contains key <;> rfl

/-! ## What is merged -/

/-- The one bundle of the memory collector. -/
def memoryOffers (memory : MemoryInfo) : List (String × Bundle) :=
  [(memoryKey, memoryBundle memory)]

/-- The bundles of the interfaces that a filter accepts. -/
def interfaceOffers (filter : NameFilter) (network : NetworkDevices) : List (String × Bundle) :=
  (network.interfaces.names.filter filter.accepts).map fun name =>
    (interfaceKey name, interfaceBundle network name)

/-- The bundles of filesystems, under their names without one leading slash. -/
def storeOffers (stores : List Store) : List (String × Bundle) :=
  stores.map fun store => (store.key, storeBundle store)

/-- The bundles of the block devices behind filesystems that win their keys. -/
def diskOffers (taken : List String) (stores : List Store) (disks : BlockDevices) :
    List (String × Bundle) :=
  (disks.devices.filter fun device => Store.Backed taken stores device.name).map fun device =>
    (blockDeviceKey device.name, blockDeviceBundle device.name)

/-- The filesystems whose type a filter accepts. -/
def accepted (filter : NameFilter) (stores : List Store) : List Store :=
  stores.filter fun store => filter.accepts store.fsType

theorem value_addInterfaces (filter : NameFilter) (network : NetworkDevices) (ns : Namespace) :
    (addInterfaces filter network ns).value = mergeInto ns (interfaceOffers filter network) := by
  rw [addInterfaces, value_foldlM, mergeInto, interfaceOffers, List.foldl_map, List.foldl_filter]
  congr 1
  funext ns name
  split
  · exact value_addBundle _ _ _
  · rfl

theorem value_addStore (filter : NameFilter) (ns : Namespace) (backing : List String)
    (store : Store) :
    (addStore filter (ns, backing) store).value =
      if filter.accepts store.fsType then
        (ns.insertNew store.key (storeBundle store),
          if ns.contains store.key then backing else backing ++ [store.deviceName])
      else (ns, backing) := by
  unfold addStore
  cases filter.accepts store.fsType with
  | false => rfl
  | true => cases taken : ns.contains store.key <;> simp [value_addBundle, taken]

/-- The filesystems of a list are merged, and those that win their keys give the devices behind
them. -/
theorem value_addStores (filter : NameFilter) (stores : List Store) (ns : Namespace)
    (backing taken : List String) (keys : ∀ key, ns.contains key = true ↔ key ∈ taken) :
    let after := (stores.foldlM (addStore filter) (ns, backing)).value
    after.1 = mergeInto ns (storeOffers (accepted filter stores)) ∧
    ∀ device, device ∈ after.2 ↔
      device ∈ backing ∨ Store.Backed taken (accepted filter stores) device := by
  induction stores generalizing ns backing taken with
  | nil => simp [accepted, storeOffers, mergeInto, Store.backed_iff]
  | cons store stores ih =>
    rw [List.foldlM_cons, value_bind, value_addStore]
    cases type : filter.accepts store.fsType with
    | false =>
      have skipped : accepted filter (store :: stores) = accepted filter stores := by
        simp [accepted, type]
      rw [skipped, if_neg Bool.false_ne_true]
      exact ih ns backing taken keys
    | true =>
      have kept : accepted filter (store :: stores) = store :: accepted filter stores := by
        simp [accepted, type]
      have keysAfter : ∀ key, (ns.insertNew store.key (storeBundle store)).contains key = true ↔
          key ∈ store.key :: taken := by
        intro key
        rw [List.mem_cons, ← keys, NameMap.contains, NameMap.find?_insertNew, NameMap.contains]
        by_cases same : key = store.key <;> simp [same]
      rw [kept, if_pos rfl]
      -- Its key is taken from now on, whether it wins it here or has lost it before.
      obtain ⟨merged, devices⟩ := ih _
        (if ns.contains store.key then backing else backing ++ [store.deviceName]) _ keysAfter
      refine ⟨merged, fun device => (devices device).trans ?_⟩
      rw [Store.backed_cons, ← keys]
      cases ns.contains store.key <;> simp [or_assoc, eq_comm]

theorem value_addBlockDevices {taken backing : List String} {stores : List Store}
    (behind : ∀ device, device ∈ backing ↔ Store.Backed taken stores device)
    (disks : BlockDevices) (ns : Namespace) :
    (addBlockDevices backing disks ns).value = mergeInto ns (diskOffers taken stores disks) := by
  have backed : ∀ device : BlockDevice,
      backing.contains device.name = decide (Store.Backed taken stores device.name) := by
    intro device
    rw [Bool.eq_iff_iff, List.contains_iff_mem, decide_eq_true_iff]
    exact behind device.name
  rw [addBlockDevices, value_foldlM, mergeInto, diskOffers, List.foldl_map]
  simp only [backed, value_addBundle]

theorem value_addMemory (memory : MemoryInfo) (ns : Namespace) :
    (addBundle memoryKey (memoryBundle memory) ns).value = mergeInto ns (memoryOffers memory) :=
  value_addBundle _ _ _

/-- A collector that could be built adds what it offers. -/
theorem value_addFrom {κ : Type} {add : κ → Namespace → Logged Namespace}
    {offersOf : κ → List (String × Bundle)}
    (added : ∀ c ns, (add c ns).value = mergeInto ns (offersOf c)) (collector : Option κ)
    (ns : Namespace) :
    (addFrom add collector ns).value = mergeInto ns (collector.toList.flatMap offersOf) := by
  cases collector with
  | none => rfl
  | some c =>
    rw [Option.toList_some, List.flatMap_cons, List.flatMap_nil, List.append_nil, ← added]
    rfl

theorem value_orLeaveOut {κ : Type} (event : CollectorFault → Event)
    (outcome : Except CollectorFault κ) :
    (orLeaveOut event outcome).value = outcome.toOption := by
  cases outcome <;> rfl

/-! ## What is built -/

/-- The memory collector, if its source can be read. -/
def memory? (host : Host) (config : MonitorConfig) : Option MemoryInfo :=
  (MemoryInfo.create host config.procRoot config.memoryKeys).value.toOption

/-- The network collector, if it can be created. -/
def network? (host : Host) (config : MonitorConfig) : Option NetworkDevices :=
  (NetworkDevices.create host config.procRoot).value.toOption

/-- The block device collector, if it can be created. -/
def disks? (host : Host) (config : MonitorConfig) : Option BlockDevices :=
  (BlockDevices.create host config.procRoot config.sysRoot).value.toOption

/-- What is merged before the filesystems: load, memory, and interfaces. -/
def earlyOffers (host : Host) (config : MonitorConfig) : List (String × Bundle) :=
  (systemKey, loadBundle) ::
    (memory? host config).toList.flatMap memoryOffers ++
    (network? host config).toList.flatMap (interfaceOffers config.interfaceFilter)

/-- All that is merged, in order. -/
def offers (host : Host) (config : MonitorConfig) : List (String × Bundle) :=
  let stores := accepted config.storageFilter (stores host config.storage)
  let early := earlyOffers host config
  early ++ storeOffers stores ++
    (disks? host config).toList.flatMap (diskOffers (early.map (·.1)) stores)

/-- Memory is watched if its source can be read. -/
theorem isSome_memory?_iff (host : Host) (config : MonitorConfig) :
    (memory? host config).isSome ↔
      ∃ text, host.readSource (Text.join config.procRoot "meminfo") = .ok text := by
  simp only [memory?, MemoryInfo.create]
  split
  · next fault source => simp [source, Except.toOption]
  · next text source => simp [source, Except.toOption]

/-- All that is built. -/
theorem value_build (host : Host) (config : MonitorConfig) :
    (build host config).value =
      { instruments :=
          { load := (LoadAverage.create host config.procRoot config.loadMinAge).value
            memory := memory? host config
            network := network? host config
            disks := disks? host config }
        bundles := merge (offers host config)
        period := config.period
        loop := none } := by
  have early : merge (earlyOffers host config) =
      mergeInto (mergeInto ((NameMap.empty : Namespace).insertNew systemKey loadBundle)
        ((memory? host config).toList.flatMap memoryOffers))
        ((network? host config).toList.flatMap (interfaceOffers config.interfaceFilter)) := by
    rw [earlyOffers, merge, mergeInto_append]
    rfl
  obtain ⟨merged, backing⟩ := value_addStores config.storageFilter (stores host config.storage)
    (merge (earlyOffers host config)) [] _ (contains_merge (earlyOffers host config))
  simp only [List.not_mem_nil, false_or] at backing
  rw [offers, merge, mergeInto_append, mergeInto_append, ← merge, ← merged,
    ← value_addFrom (value_addBlockDevices backing), early,
    ← value_addFrom (value_addInterfaces config.interfaceFilter), ← value_addFrom value_addMemory,
    ← value_addBundle]
  simp only [build, value_bind, value_orLeaveOut, value_pure]
  rfl

/-! ## What is in a bundle -/

/-- The load bundle has the five load gauges. -/
theorem find?_loadBundle (gauge : LoadGauge) :
    loadBundle.find? gauge.name = some (.gauge (.load gauge)) := by
  cases gauge <;> decide +kernel

/-- The bundle of a filesystem has its three figures. -/
theorem find?_storeBundle (store : Store) (figure : Figure) :
    (storeBundle store).find? figure.name = some (.gauge (.capacity store figure)) := by
  have listed : Store.metrics.find? figure.name = some figure := by
    cases figure <;> decide +kernel
  rw [storeBundle, NameMap.find?_map, listed, Option.map_some]

/-- The bundle of a block device has its four activities. -/
theorem find?_blockDeviceBundle (name : String) (activity : Activity) :
    (blockDeviceBundle name).find? activity.name = some (.meter (.disk name activity)) := by
  have listed : BlockDevice.metrics.find? activity.name = some activity := by
    cases activity <;> decide +kernel
  rw [blockDeviceBundle, NameMap.find?_map, listed, Option.map_some]

/-! ## The namespace -/

/-- What a monitor exposes is exactly a merge in which the first bundle of each key stays: of
the load gauges, the memory gauges if their source can be read, the accepted interfaces, the
accepted filesystems under their names without one leading slash, and the block devices behind
those of them that win their keys. No other key has a bundle, and each bundle has all metrics of
its source. The collectors are those that could be created, whatever was filtered out. -/
theorem build_merges (host : Host) (config : MonitorConfig) :
    let monitor := (build host config).value
    let kept := (stores host config.storage).filter fun store =>
      config.storageFilter.accepts store.fsType
    let early := [("system", loadBundle)] ++
      (memory? host config).toList.map (fun memory => ("memory", memoryBundle memory)) ++
      (network? host config).toList.flatMap fun network =>
        (network.interfaces.names.filter config.interfaceFilter.accepts).map fun name =>
          ("iface." ++ name, interfaceBundle network name)
    offers host config =
      early ++ kept.map (fun store => (store.key, storeBundle store)) ++
        (disks? host config).toList.flatMap (fun disks =>
          (disks.devices.filter fun device =>
            Store.Backed (early.map (·.1)) kept device.name).map fun device =>
              ("blockdev." ++ device.name, blockDeviceBundle device.name)) ∧
    (∀ store : Store, store.name = "/" ++ store.key ∨
      store.key = store.name ∧ store.name.toList.head? ≠ some '/') ∧
    monitor.bundles = merge (offers host config) ∧
    (∀ key, monitor.bundles.find? key = (offers host config).lookup key) ∧
    (loadBundle.size = 5 ∧
      ∀ gauge : LoadGauge, loadBundle.find? gauge.name = some (.gauge (.load gauge))) ∧
    (∀ memory name, (memoryBundle memory).find? name =
      (memory.gauges.find? name).map fun key => .gauge (.memory key)) ∧
    (∀ network name metric, (interfaceBundle network name).find? metric =
      (network.metrics.find? metric).map fun column => .meter (.interface name column)) ∧
    (∀ store, (storeBundle store).size = 3 ∧
      ∀ figure : Figure, (storeBundle store).find? figure.name =
        some (.gauge (.capacity store figure))) ∧
    (∀ name, (blockDeviceBundle name).size = 4 ∧
      ∀ activity : Activity, (blockDeviceBundle name).find? activity.name =
        some (.meter (.disk name activity))) ∧
    ((memory? host config).isSome ↔
      ∃ text, host.readSource (Text.join config.procRoot "meminfo") = .ok text) ∧
    monitor.instruments.memory = memory? host config ∧
    monitor.instruments.network = network? host config ∧
    monitor.instruments.disks = disks? host config ∧
    monitor.instruments.collectors =
      ["load_average"] ++ (if (memory? host config).isSome then ["memory_info"] else []) ++
        (if (network? host config).isSome then ["network_devices"] else []) ++
        (if (disks? host config).isSome then ["block_devices"] else []) := by
  rw [value_build]
  dsimp only
  have gauges : loadBundle.size = 5 := by decide +kernel
  have figures : Store.metrics.size = 3 := by decide +kernel
  have activities : BlockDevice.metrics.size = 4 := by decide +kernel
  refine ⟨?_, Store.name_eq, rfl, ?_, ⟨gauges, find?_loadBundle⟩,
    fun memory name => NameMap.find?_map _ _ _, fun network name metric => NameMap.find?_map _ _ _,
    fun store => ⟨(NameMap.size_map _ _).trans figures, find?_storeBundle store⟩,
    fun name => ⟨(NameMap.size_map _ _).trans activities, find?_blockDeviceBundle name⟩,
    ?_, rfl, rfl, rfl, ?_⟩
  · have memory : (memory? host config).toList.flatMap memoryOffers =
        (memory? host config).toList.map fun memory => ("memory", memoryBundle memory) := by
      cases memory? host config <;> rfl
    rw [offers, earlyOffers, memory]
    rfl
  · exact find?_merge (offers host config)
  · exact isSome_memory?_iff host config
  · unfold Instruments.collectors
    cases memory? host config <;> cases network? host config <;> cases disks? host config <;> rfl

/-- A monitor of these filesystems, below relative roots. -/
def storeConfig (stores : List Store) : MonitorConfig :=
  { MonitorConfig.default with
    procRoot := "proc"
    sysRoot := "sys"
    storage := .fixed stores }

/-- Filesystems whose names differ by their slashes only, and two more, one of which has the key of
the memory gauges. -/
def slashedStores : List Store :=
  [⟨"/dev/sda1", "ext4", .fixed (some 1) none none⟩,
    ⟨"dev/sda1", "ext4", .fixed (some 2) none none⟩,
    ⟨"//dev/sda1", "ext4", .fixed (some 3) none none⟩,
    ⟨"memory", "ext4", .fixed none none none⟩, ⟨"/dev/sdb", "ramfs", .fixed none none none⟩]

/-- A host with a memory table, two interfaces and three block devices. -/
def slashedHost : Host where
  now := 0
  files :=
    ((FileTree.empty.write "proc/meminfo" "MemTotal: 8 kB\n".toUTF8).write "proc/net/dev"
      "head\n|bytes|bytes\neth0: 5 1\nveth: 5 1\n".toUTF8).write "proc/diskstats"
      "8 0 sda1 1 0 2 0 3 0 4\n8 1 memory 1 0 2 0 3 0 4\n8 2 sdb 1 0 2 0 3 0 4\n".toUTF8
  mounts := .empty

/-- The first filesystem keeps the key that the second one would have too, and of the third name
only one slash goes. The fourth one loses its key, so the device with its name is not shown, and
neither is the one behind the filesystem of another type. -/
theorem build_merges_slashed :
    let bundles := (build slashedHost (storeConfig slashedStores)).value.bundles
    bundles.names = ["/dev/sda1", "blockdev.sda1", "dev/sda1", "iface.eth0", "memory", "system"] ∧
    (bundles.find? "dev/sda1").bind (·.find? "total") =
      some (.gauge (.capacity ⟨"/dev/sda1", "ext4", .fixed (some 1) none none⟩ .total)) ∧
    (bundles.find? "/dev/sda1").bind (·.find? "total") =
      some (.gauge (.capacity ⟨"//dev/sda1", "ext4", .fixed (some 3) none none⟩ .total)) ∧
    (bundles.find? "memory").bind (·.find? "memtotal") = some (.gauge (.memory "MemTotal")) ∧
    (bundles.find? "blockdev.sda1").bind (·.find? "bytes-read") =
      some (.meter (.disk "sda1" .bytesRead)) ∧
    bundles.find? "blockdev.memory" = none := by
  intro bundles
  obtain ⟨_, _, merged, found, _⟩ := build_merges slashedHost (storeConfig slashedStores)
  refine ⟨?_, ?_⟩
  · rw [show bundles = _ from merged]
    decide +kernel
  · simp only [show ∀ key, bundles.find? key = _ from found]
    decide +kernel

end Monitor

end HostVitals
