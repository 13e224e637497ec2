import HostVitals.Proofs.Memory.Latest
import HostVitals.Proofs.Monitor.Exchange
import HostVitals.Proofs.NameMap.Listed

/-!
# What a built monitor shows

The interfaces and the memory gauges that a monitor has on a host.

* `Monitor.Shows`: a bundle has a metric of a source.

`shows_network_iff` says which bundles have metrics of interfaces, and `find?_memoryKey` which
memory gauges there are.
-/

namespace HostVitals

open Text (lowerCase)

theorem Network.columns_ne_nil_of_readHeader {location : String} {header : List Char}
    {columns : List String} (read : readHeader location header = .ok columns) : columns ≠ [] := by
  rintro rfl
  unfold readHeader at read
  split at read
  · dsimp only at read
    split at read
    · cases read
    · next some => exact some (by rw [Except.ok.inj read]; rfl)
  · cases read

/-- A network collector has at least one column. -/
theorem NetworkDevices.columns_ne_nil {host : Host} {procRoot : String} {network : NetworkDevices}
    (created : (create host procRoot).value = .ok network) : network.columns ≠ [] := by
  unfold create at created
  simp only at created
  split at created
  · cases created
  · split at created
    · split at created
      · cases created
      · next columns read =>
        cases created
        exact Network.columns_ne_nil_of_readHeader read
    · cases created

namespace Monitor

/-- A metric of the bundle belongs to the source. -/
def Shows (source : Source) (bundle : Bundle) : Prop :=
  ∃ name ref, bundle.find? name = some ref ∧ ref.source? = some source

variable {host : Host} {config : MonitorConfig}

theorem BelongsTo.not_shows {source other : Source} {bundle : Bundle}
    (belongs : BelongsTo other bundle) (ne : other ≠ source) : ¬ Shows source bundle := by
  rintro ⟨name, ref, found, own⟩
  exact ne (Option.some.inj ((belongs name ref found).symm.trans own))

theorem not_shows_storeBundle (source : Source) (store : Store) :
    ¬ Shows source (storeBundle store) := by
  rintro ⟨name, ref, found, own⟩
  rw [storeBundle, NameMap.find?_map] at found
  obtain ⟨figure, _, rfl⟩ := Option.map_eq_some_iff.1 found
  cases own

theorem interfaceKey_inj {name name' : String} (same : interfaceKey name = interfaceKey name') :
    name = name' := by
  rw [interfaceKey, interfaceKey, ← String.toList_inj, String.toList_append,
    String.toList_append] at same
  exact String.toList_inj.1 (List.append_cancel_left same)

theorem shows_interfaceBundle {network : NetworkDevices}
    (made : network? host config = some network) (name : String) :
    Shows .network (interfaceBundle network name) := by
  have created := Collector.toOption_eq_some_iff.1 made
  obtain ⟨column, rest, named⟩ :=
    List.exists_cons_of_ne_nil (NetworkDevices.columns_ne_nil created)
  have listed : (network.metrics.find? column).isSome :=
    NameMap.isSome_find?_ofList_zipIdx.2 (named ▸ List.mem_cons_self)
  obtain ⟨place, found⟩ := Option.isSome_iff_exists.1 listed
  exact ⟨column, .meter (.interface name place),
    by rw [interfaceBundle, NameMap.find?_map, found]; rfl, rfl⟩

/-- What is offered before the filesystems. -/
theorem mem_earlyOffers_iff {offer : String × Bundle} :
    offer ∈ earlyOffers host config ↔ offer = (systemKey, loadBundle) ∨
      (∃ memory, memory? host config = some memory ∧ offer = (memoryKey, memoryBundle memory)) ∨
      ∃ network name, network? host config = some network ∧ name ∈ network.interfaces.names ∧
        config.interfaceFilter.accepts name = true ∧
        offer = (interfaceKey name, interfaceBundle network name) := by
  simp only [earlyOffers, List.mem_append, List.mem_cons, List.mem_flatMap, Option.mem_toList,
    memoryOffers, interfaceOffers, List.mem_map, List.mem_filter, List.not_mem_nil, or_false,
    or_assoc, and_assoc]
  simp only [eq_comm (a := offer), exists_and_left]

/-- A bundle that is the only one before the filesystems with its key is the one that is found. -/
theorem lookup_offers {key : String} {bundle : Bundle}
    (offered : (key, bundle) ∈ earlyOffers host config)
    (only : ∀ other, (key, other) ∈ earlyOffers host config → other = bundle) :
    (offers host config).lookup key = some bundle := by
  have early : (earlyOffers host config).lookup key = some bundle := by
    cases found : (earlyOffers host config).lookup key with
    | none => simpa using List.lookup_eq_none_iff.1 found _ offered
    | some other => rw [only other (mem_of_lookup found)]
  rw [offers, List.lookup_append, List.lookup_append, early, Option.some_or, Option.some_or]

/-- Filesystems and what is behind them show no metric of another source. -/
theorem mem_earlyOffers_of_shows {source : Source} {key : String} {bundle : Bundle}
    (found : (offers host config).lookup key = some bundle) (shows : Shows source bundle)
    (ne : source ≠ .disks) : (key, bundle) ∈ earlyOffers host config := by
  have offered := mem_of_lookup found
  simp only [offers, List.mem_append] at offered
  obtain (early | listed) | disk := offered
  · exact early
  · obtain ⟨store, _, own⟩ := List.mem_map.1 listed
    cases own
    exact absurd shows (not_shows_storeBundle source store)
  · exact absurd shows ((of_mem_diskOffers disk).2.not_shows ne.symm)

theorem not_shows_loadBundle {source : Source} (ne : source ≠ .load) : ¬ Shows source loadBundle :=
  (belongsTo_map fun _ _ => rfl : BelongsTo .load loadBundle).not_shows ne.symm

theorem not_shows_memoryBundle {source : Source} (ne : source ≠ .memory) (memory : MemoryInfo) :
    ¬ Shows source (memoryBundle memory) :=
  (belongsTo_map fun _ _ => rfl : BelongsTo .memory (memoryBundle memory)).not_shows ne.symm

/-- The bundles with metrics of interfaces are those of the accepted ones, each under the key of
its interface. -/
theorem shows_network_iff {key : String} {bundle : Bundle} :
    (build host config).value.bundles.find? key = some bundle ∧ Shows .network bundle ↔
      ∃ network name, (NetworkDevices.create host config.procRoot).value = .ok network ∧
        name ∈ network.interfaces.names ∧ config.interfaceFilter.accepts name = true ∧
        key = interfaceKey name ∧ bundle = interfaceBundle network name := by
  rw [value_build, find?_merge]
  constructor
  · rintro ⟨found, shows⟩
    rcases mem_earlyOffers_iff.1 (mem_earlyOffers_of_shows found shows nofun) with
      load | ⟨memory, _, own⟩ | ⟨network, name, made, listed, accepted, own⟩
    · cases load
      exact absurd shows (not_shows_loadBundle (by decide))
    · cases own
      exact absurd shows (not_shows_memoryBundle (by decide) memory)
    · cases own
      exact ⟨network, name, Collector.toOption_eq_some_iff.1 made, listed, accepted, rfl, rfl⟩
  · rintro ⟨network, name, created, listed, accepted, rfl, rfl⟩
    have made : network? host config = some network := Collector.toOption_eq_some_iff.2 created
    -- An earlier offer with the key would be found in its place; there is none.
    refine ⟨lookup_offers ?_ fun other offered => ?_, shows_interfaceBundle made name⟩
    · exact mem_earlyOffers_iff.2 (.inr (.inr ⟨network, name, made, listed, accepted, rfl⟩))
    · rcases mem_earlyOffers_iff.1 offered with
        load | ⟨memory, _, own⟩ | ⟨network', name', made', _, _, own⟩
      · exact absurd (congrArg Prod.fst load)
          (ne_of_head? (head?_interfaceKey name) (d := 's') (by decide) (by decide))
      · exact absurd (congrArg Prod.fst own) (interfaceKey_ne_memoryKey name)
      · cases made.symm.trans made'
        rw [interfaceKey_inj (congrArg Prod.fst own)]
        exact congrArg Prod.snd own

/-- Memory has its bundle if its source can be read, with a gauge for each lower-case form of a
key, and no other bundle has one. -/
theorem find?_memoryKey {text : String}
    (readable : host.readSource (Text.join config.procRoot "meminfo") = .ok text) :
    ∃ bundle, (build host config).value.bundles.find? memoryKey = some bundle ∧
      bundle.size = (config.memoryKeys.map lowerCase).dedup.length ∧
      (∀ name, bundle.find? name =
        (config.memoryKeys.find? fun key => lowerCase key == name).map fun key =>
          .gauge (.memory key)) ∧
      ∀ key other, (build host config).value.bundles.find? key = some other →
        Shows .memory other → key = memoryKey := by
  obtain ⟨memory, created, gauges⟩ : ∃ memory, memory? host config = some memory ∧
      memory.gauges = MemoryInfo.gaugesOf config.memoryKeys :=
    ⟨_, Collector.toOption_eq_some_iff.2 (MemoryInfo.value_create readable _), rfl⟩
  have finds (name : String) : (memoryBundle memory).find? name =
      (config.memoryKeys.find? fun key => lowerCase key == name).map fun key =>
        .gauge (.memory key) := by
    rw [memoryBundle, NameMap.find?_map, gauges, MemoryInfo.find?_gaugesOf]
  simp only [value_build, find?_merge]
  refine ⟨memoryBundle memory, ?_, NameMap.size_eq_length_dedup fun name => ?_, finds,
    fun key other found shows => ?_⟩
  · refine lookup_offers (mem_earlyOffers_iff.2 (.inr (.inl ⟨memory, created, rfl⟩)))
      fun other offered => ?_
    rcases mem_earlyOffers_iff.1 offered with
      load | ⟨memory', created', own⟩ | ⟨_, name, _, _, _, own⟩
    · have differ : memoryKey ≠ systemKey := by decide
      exact absurd (congrArg Prod.fst load) differ
    · cases created.symm.trans created'
      exact congrArg Prod.snd own
    · exact absurd (congrArg Prod.fst own).symm (interfaceKey_ne_memoryKey name)
  · rw [finds, Option.isSome_map, List.find?_isSome, List.mem_map]
    simp only [beq_iff_eq]
  · rcases mem_earlyOffers_iff.1 (mem_earlyOffers_of_shows found shows nofun) with
      load | ⟨_, _, own⟩ | ⟨network, name, _, _, _, own⟩
    · cases load
      exact absurd shows (not_shows_loadBundle (by decide))
    · exact congrArg Prod.fst own
    · cases own
      have own : BelongsTo .network (interfaceBundle network name) := belongsTo_map fun _ _ => rfl
      exact absurd shows (own.not_shows (by decide))

end Monitor

end HostVitals
