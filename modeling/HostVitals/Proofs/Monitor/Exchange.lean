import HostVitals.Proofs.Monitor.Frame
import HostVitals.Proofs.Monitor.Merge

/-!
# Namespaces that differ in one source

What a source offers stands together in the list of bundles that a monitor merges, and nothing
after it is offered under the same keys. So a source that is missing, or offers other bundles,
uncovers no others and hides none.

* `BelongsTo`: every metric of a bundle belongs to one source.
* `SameOffers`: two lists of bundles hand out the same under every key, but for one source.
* `offersOf`: all that is offered, collector by collector.

`sameOffers_exchange` is the argument, `sameOffers_memory`, `sameOffers_network` and
`sameOffers_disks` are its cases, and `sameOffers_offers` compares what two hosts offer.
-/

namespace HostVitals.Monitor

variable {source : Source} {host host' : Host} {config : MonitorConfig}

/-! ## Namespaces -/

/-- Every metric of the bundle belongs to the source. -/
def BelongsTo (source : Source) (bundle : Bundle) : Prop :=
  ∀ name ref, bundle.find? name = some ref → ref.source? = some source

/-- Under every key two lists offer the same bundle first, or none but of one source. -/
def SameOffers (source : Source) (offers offers' : List (String × Bundle)) : Prop :=
  ∀ key, offers.lookup key = offers'.lookup key ∨
    (∀ bundle ∈ offers.lookup key, BelongsTo source bundle) ∧
      ∀ bundle ∈ offers'.lookup key, BelongsTo source bundle

theorem belongsTo_map {α : Type} {refs : NameMap α} {ref : String → α → MetricRef}
    (each : ∀ name a, (ref name a).source? = some source) : BelongsTo source (refs.map ref) := by
  intro name found mem
  rw [NameMap.find?_map] at mem
  obtain ⟨a, _, rfl⟩ := Option.map_eq_some_iff.1 mem
  exact each name a

theorem lookup_eq_none_of_not_mem {offers : List (String × Bundle)} {key : String}
    (free : key ∉ offers.map (·.1)) : offers.lookup key = none := by
  rw [← find?_merge, ← Option.not_isSome_iff_eq_none]
  exact fun found => free ((contains_merge offers key).1 found)

theorem mem_of_lookup {offers : List (String × Bundle)} {key : String} {bundle : Bundle}
    (found : offers.lookup key = some bundle) : (key, bundle) ∈ offers := by
  obtain ⟨before, after, rfl, _⟩ := List.lookup_eq_some_iff.1 found
  simp

/-- Bundles of one source may be exchanged if nothing after them is offered under their keys. -/
theorem sameOffers_exchange (before : List (String × Bundle))
    {own own' after : List (String × Bundle)}
    (belong : ∀ offer ∈ own, BelongsTo source offer.2)
    (belong' : ∀ offer ∈ own', BelongsTo source offer.2)
    (clear : ∀ offer ∈ own ++ own', offer.1 ∉ after.map (·.1)) :
    SameOffers source (before ++ (own ++ after)) (before ++ (own' ++ after)) := by
  intro key
  simp only [List.lookup_append]
  cases before.lookup key with
  | some bundle => exact .inl rfl
  | none =>
    -- A key of either exchanged part is offered by nothing after it, so none is uncovered.
    by_cases used : key ∈ (own ++ own').map (·.1)
    · obtain ⟨offer, mem, rfl⟩ := List.mem_map.1 used
      rw [lookup_eq_none_of_not_mem (clear offer mem), Option.none_or, Option.none_or,
        Option.or_none, Option.or_none]
      exact .inr ⟨fun bundle found => belong _ (mem_of_lookup found),
        fun bundle found => belong' _ (mem_of_lookup found)⟩
    · rw [List.map_append, List.mem_append, not_or] at used
      rw [lookup_eq_none_of_not_mem used.1, lookup_eq_none_of_not_mem used.2]
      exact .inl rfl

/-! ## Keys -/

theorem head?_interfaceKey (name : String) : (interfaceKey name).toList.head? = some 'i' := by
  simp [interfaceKey]

theorem head?_blockDeviceKey (name : String) : (blockDeviceKey name).toList.head? = some 'b' := by
  simp [blockDeviceKey]

theorem ne_of_head? {key other : String} {c d : Char} (first : key.toList.head? = some c)
    (second : other.toList.head? = some d) (ne : c ≠ d) : key ≠ other := by
  rintro rfl
  rw [first, Option.some.injEq] at second
  exact ne second

theorem interfaceKey_ne_memoryKey (name : String) : interfaceKey name ≠ memoryKey :=
  ne_of_head? (head?_interfaceKey name) (d := 'm') (by decide) (by decide)

theorem blockDeviceKey_ne_memoryKey (name : String) : blockDeviceKey name ≠ memoryKey :=
  ne_of_head? (head?_blockDeviceKey name) (d := 'm') (by decide) (by decide)

theorem blockDeviceKey_ne_interfaceKey (device name : String) :
    blockDeviceKey device ≠ interfaceKey name :=
  ne_of_head? (head?_blockDeviceKey device) (head?_interfaceKey name) (by decide)

theorem of_mem_memoryOffers {memory? : Option MemoryInfo} {offer : String × Bundle}
    (mem : offer ∈ memory?.toList.flatMap memoryOffers) :
    offer.1 = memoryKey ∧ BelongsTo .memory offer.2 := by
  obtain ⟨memory, _, listed⟩ := List.mem_flatMap.1 mem
  rw [List.mem_singleton.1 listed]
  exact ⟨rfl, belongsTo_map fun _ _ => rfl⟩

theorem of_mem_interfaceOffers {filter : NameFilter} {network? : Option NetworkDevices}
    {offer : String × Bundle} (mem : offer ∈ network?.toList.flatMap (interfaceOffers filter)) :
    (∃ name, offer.1 = interfaceKey name) ∧ BelongsTo .network offer.2 := by
  obtain ⟨network, _, listed⟩ := List.mem_flatMap.1 mem
  obtain ⟨name, _, rfl⟩ := List.mem_map.1 listed
  exact ⟨⟨name, rfl⟩, belongsTo_map fun _ _ => rfl⟩

theorem of_mem_diskOffers {taken : List String} {stores : List Store}
    {disks? : Option BlockDevices} {offer : String × Bundle}
    (mem : offer ∈ disks?.toList.flatMap (diskOffers taken stores)) :
    (∃ device, offer.1 = blockDeviceKey device) ∧ BelongsTo .disks offer.2 := by
  obtain ⟨disks, _, listed⟩ := List.mem_flatMap.1 mem
  obtain ⟨device, _, rfl⟩ := List.mem_map.1 listed
  exact ⟨⟨device.name, rfl⟩, belongsTo_map fun _ _ => rfl⟩

/-! ## What is offered -/

/-- No filesystem of a list has the key of the memory bundle or of an interface. -/
def KeepsClear (stores : List Store) : Prop :=
  ∀ store ∈ stores, store.key ≠ memoryKey ∧ ∀ name, store.key ≠ interfaceKey name

/-- Which filesystems find their keys taken does not depend on any source. -/
theorem mem_early_iff {stores : List Store} (clear : KeepsClear stores) {store : Store}
    (mem : store ∈ stores) :
    store.key ∈ (earlyOffers host config).map (·.1) ↔ store.key = systemKey := by
  obtain ⟨notMemory, notInterface⟩ := clear store mem
  rw [earlyOffers, List.map_append, List.map_cons, List.mem_append, List.mem_cons]
  constructor
  · rintro ((same | taken) | taken)
    · exact same
    · obtain ⟨offer, listed, same⟩ := List.mem_map.1 taken
      exact absurd (same.symm.trans (of_mem_memoryOffers listed).1) notMemory
    · obtain ⟨offer, listed, same⟩ := List.mem_map.1 taken
      obtain ⟨⟨name, key⟩, _⟩ := of_mem_interfaceOffers listed
      exact absurd (same.symm.trans key) (notInterface name)
  · exact fun same => .inl (.inl same)

theorem diskOffers_congr {taken taken' : List String} {stores : List Store}
    (same : ∀ store ∈ stores, store.key ∈ taken ↔ store.key ∈ taken') :
    diskOffers taken stores = diskOffers taken' stores := by
  funext disks
  have backed : ∀ device, Store.Backed taken stores device ↔ Store.Backed taken' stores device := by
    intro device
    simp only [Store.backed_iff]
    refine exists_congr fun store => and_congr_right fun mem => ?_
    rw [same store mem]
  simp only [diskOffers, backed]

/-- All that is offered by collectors and filesystems, in order. -/
def offersOf (filter : NameFilter) (taken : List String) (stores : List Store)
    (memory? : Option MemoryInfo) (network? : Option NetworkDevices)
    (disks? : Option BlockDevices) : List (String × Bundle) :=
  (systemKey, loadBundle) :: (memory?.toList.flatMap memoryOffers ++
    (network?.toList.flatMap (interfaceOffers filter) ++
      (storeOffers stores ++ disks?.toList.flatMap (diskOffers taken stores))))

theorem offers_eq (host : Host) (config : MonitorConfig) :
    offers host config = offersOf config.interfaceFilter ((earlyOffers host config).map (·.1))
      (accepted config.storageFilter (stores host config.storage)) (memory? host config)
      (network? host config) (disks? host config) := by
  simp only [offers, offersOf, earlyOffers, List.append_assoc, List.cons_append]

section

variable {filter : NameFilter} {taken : List String} {stores : List Store}
variable {memory? memory?' : Option MemoryInfo} {network? network?' : Option NetworkDevices}
variable {disks? disks?' : Option BlockDevices}

theorem offersOf_congr {taken' : List String}
    (same : ∀ store ∈ stores, store.key ∈ taken ↔ store.key ∈ taken') :
    offersOf filter taken stores memory? network? disks? =
      offersOf filter taken' stores memory? network? disks? := by
  rw [offersOf, offersOf, diskOffers_congr same]

theorem sameOffers_memory (clear : KeepsClear stores) :
    SameOffers .memory (offersOf filter taken stores memory? network? disks?)
      (offersOf filter taken stores memory?' network? disks?) := by
  refine sameOffers_exchange [(systemKey, loadBundle)] (fun _ mem => (of_mem_memoryOffers mem).2)
    (fun _ mem => (of_mem_memoryOffers mem).2) fun offer mem later => ?_
  have key : offer.1 = memoryKey := by
    rcases List.mem_append.1 mem with mem | mem <;> exact (of_mem_memoryOffers mem).1
  rw [key] at later
  obtain ⟨other, mem, same⟩ := List.mem_map.1 later
  simp only [List.mem_append] at mem
  obtain mem | mem | mem := mem
  · obtain ⟨⟨name, found⟩, _⟩ := of_mem_interfaceOffers mem
    exact interfaceKey_ne_memoryKey name (found.symm.trans same)
  · obtain ⟨store, listed, rfl⟩ := List.mem_map.1 mem
    exact (clear store listed).1 same
  · obtain ⟨⟨device, found⟩, _⟩ := of_mem_diskOffers mem
    exact blockDeviceKey_ne_memoryKey device (found.symm.trans same)

theorem sameOffers_network (clear : KeepsClear stores) :
    SameOffers .network (offersOf filter taken stores memory? network? disks?)
      (offersOf filter taken stores memory? network?' disks?) := by
  refine sameOffers_exchange ((systemKey, loadBundle) :: memory?.toList.flatMap memoryOffers)
    (fun _ mem => (of_mem_interfaceOffers mem).2) (fun _ mem => (of_mem_interfaceOffers mem).2)
    fun offer mem later => ?_
  obtain ⟨name, key⟩ : ∃ name, offer.1 = interfaceKey name := by
    rcases List.mem_append.1 mem with mem | mem <;> exact (of_mem_interfaceOffers mem).1
  rw [key] at later
  obtain ⟨other, mem, same⟩ := List.mem_map.1 later
  rcases List.mem_append.1 mem with mem | mem
  · obtain ⟨store, listed, rfl⟩ := List.mem_map.1 mem
    exact (clear store listed).2 name same
  · obtain ⟨⟨device, found⟩, _⟩ := of_mem_diskOffers mem
    exact blockDeviceKey_ne_interfaceKey device name (found.symm.trans same)

theorem sameOffers_disks :
    SameOffers .disks (offersOf filter taken stores memory? network? disks?)
      (offersOf filter taken stores memory? network? disks?') := by
  have exchange : ∀ before : List (String × Bundle), SameOffers .disks
      (before ++ (disks?.toList.flatMap (diskOffers taken stores) ++ []))
      (before ++ (disks?'.toList.flatMap (diskOffers taken stores) ++ [])) :=
    fun before => sameOffers_exchange before (fun _ mem => (of_mem_diskOffers mem).2)
      (fun _ mem => (of_mem_diskOffers mem).2) fun _ _ => List.not_mem_nil
  have last := exchange ((systemKey, loadBundle) :: (memory?.toList.flatMap memoryOffers ++
    (network?.toList.flatMap (interfaceOffers filter) ++ storeOffers stores)))
  simpa only [offersOf, List.append_nil, List.cons_append, List.append_assoc] using last

end

section

variable (alike : Host.SameApart config.procRoot config.sysRoot source host host')
include alike

theorem memory?_congr (ne : source ≠ .memory) : memory? host config = memory? host' config :=
  MemoryInfo.create_congr (Instruments.seen_of_mem_files alike ne List.mem_cons_self) _

theorem network?_congr (ne : source ≠ .network) : network? host config = network? host' config :=
  NetworkDevices.create_congr alike.now
    (Instruments.seen_of_mem_files alike ne List.mem_cons_self)

theorem disks?_congr (ne : source ≠ .disks) : disks? host config = disks? host' config :=
  BlockDevices.create_congr alike.now
    (Instruments.seen_of_mem_files alike ne List.mem_cons_self)
    (fun device => alike.files .disks ne.symm _ (.blockSize device))

/-- Hosts that differ in one source offer the same bundles under every key, but for those of
the source. -/
theorem sameOffers_offers
    (clear : KeepsClear (accepted config.storageFilter (stores host config.storage))) :
    SameOffers source (offers host config) (offers host' config) := by
  have sameStores : stores host config.storage = stores host' config.storage := by
    unfold stores
    rw [alike.mounts]
  have sameTaken : ∀ store ∈ accepted config.storageFilter (stores host config.storage),
      store.key ∈ (earlyOffers host config).map (·.1) ↔
        store.key ∈ (earlyOffers host' config).map (·.1) :=
    fun store mem => (mem_early_iff clear mem).trans (mem_early_iff clear mem).symm
  rw [offers_eq, offers_eq, ← sameStores, offersOf_congr sameTaken]
  cases source with
  | load =>
    rw [memory?_congr alike (by decide), network?_congr alike (by decide),
      disks?_congr alike (by decide)]
    exact fun key => .inl rfl
  | memory =>
    rw [network?_congr alike (by decide), disks?_congr alike (by decide)]
    exact sameOffers_memory clear
  | network =>
    rw [memory?_congr alike (by decide), disks?_congr alike (by decide)]
    exact sameOffers_network clear
  | disks =>
    rw [memory?_congr alike (by decide), network?_congr alike (by decide)]
    exact sameOffers_disks

end

end HostVitals.Monitor
