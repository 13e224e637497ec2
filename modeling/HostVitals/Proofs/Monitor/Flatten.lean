import HostVitals.Proofs.Monitor.Isolation
import HostVitals.Proofs.Station.Publish

/-!
# Flattening a namespace

Keys and names of metrics may hold dots, so that two metrics of a monitor may have one dotted
name. Then the one with the longer key is published and the other one is lost.

* `dotted`: the name of a metric in the flattened namespace.
* `Leaf`, `leaves`: the metrics of a monitor, each with its key and its name.
* `Longest`: a metric with the longest key of all that have its dotted name.

`dotted_eq_iff` says when two metrics have one dotted name, `find?_metrics_iff` which of them is
kept, `size_metrics_eq_iff` when none is lost, and `publish_keeps_longest_key` what that makes of a
registry. `publish_loses_metric` is a monitor that loses one.
-/

namespace HostVitals.Monitor

/-! ## Dotted names -/

/-- The name of a metric in the flattened namespace. -/
def dotted (key name : String) : String :=
  key ++ "." ++ name

theorem toList_dotted (key name : String) :
    (dotted key name).toList = key.toList ++ '.' :: name.toList := by
  simp [dotted]

theorem length_dotted (key name : String) :
    (dotted key name).length = key.length + name.length + 1 := by
  rw [← String.length_toList, toList_dotted, List.length_append, List.length_cons,
    String.length_toList, String.length_toList, Nat.add_assoc]

theorem dotted_assoc (key mid name : String) :
    dotted (dotted key mid) name = dotted key (dotted mid name) := by
  simp only [dotted, String.append_assoc]

/-- Of two keys that begin one dotted name the longer continues the other one after a dot. -/
theorem dotted_eq_of_append {key name key' name' : String} {rest : List Char}
    (longer : key'.toList = key.toList ++ rest)
    (same : '.' :: name.toList = rest ++ '.' :: name'.toList) :
    (key = key' ∧ name = name') ∨ ∃ mid, key' = dotted key mid ∧ name = dotted mid name' := by
  cases rest with
  | nil =>
    rw [List.append_nil] at longer
    rw [List.nil_append, List.cons_inj_right] at same
    exact .inl ⟨String.toList_inj.1 longer.symm, String.toList_inj.1 same⟩
  | cons c mid =>
    obtain ⟨rfl, rest⟩ := List.cons.inj same
    refine .inr ⟨String.ofList mid, String.toList_inj.1 ?_, String.toList_inj.1 ?_⟩
    · rw [longer, toList_dotted, String.toList_ofList]
    · rw [rest, toList_dotted, String.toList_ofList]
      rfl

/-- Two metrics have one dotted name if a part of it may belong to the key as well as to the
name. -/
theorem dotted_eq_iff {key name key' name' : String} :
    dotted key name = dotted key' name' ↔ (key = key' ∧ name = name') ∨
      (∃ mid, key' = dotted key mid ∧ name = dotted mid name') ∨
      ∃ mid, key = dotted key' mid ∧ name' = dotted mid name := by
  constructor
  · intro same
    rw [← String.toList_inj, toList_dotted, toList_dotted] at same
    rcases List.append_eq_append_iff.1 same with ⟨rest, longer, same⟩ | ⟨rest, longer, same⟩
    · exact (dotted_eq_of_append longer same).imp_right .inl
    · rcases dotted_eq_of_append longer same with ⟨rfl, rfl⟩ | other
      · exact .inl ⟨rfl, rfl⟩
      · exact .inr (.inr other)
  · rintro (⟨rfl, rfl⟩ | ⟨mid, rfl, rfl⟩ | ⟨mid, rfl, rfl⟩)
    · rfl
    · exact (dotted_assoc key mid name').symm
    · exact dotted_assoc key' mid name

theorem not_dotted_lt (key mid : String) : ¬ dotted key mid < key := by
  rw [String.lt_iff, toList_dotted]
  exact List.not_lt.2 List.le_append_left

/-- Of two keys that begin one dotted name the greater is the longer one. -/
theorem length_le_of_dotted_eq {key name key' name' : String}
    (same : dotted key name = dotted key' name') (less : key < key') : key.length ≤ key'.length := by
  rcases dotted_eq_iff.1 same with ⟨rfl, _⟩ | ⟨mid, rfl, _⟩ | ⟨mid, rfl, _⟩
  · exact Nat.le_refl _
  · rw [length_dotted]
    omega
  · exact absurd less (not_dotted_lt key' mid)

/-! ## Leaves -/

/-- A metric of a monitor, with the key of its bundle and its name there. -/
structure Leaf where
  key : String
  name : String
  ref : MetricRef
  deriving DecidableEq

/-- Its name in the flattened namespace. -/
def Leaf.full (leaf : Leaf) : String :=
  dotted leaf.key leaf.name

/-- The metrics of a monitor, in the order of their keys and names. -/
def leaves (monitor : Monitor) : List Leaf :=
  monitor.bundles.entries.flatMap fun (key, bundle) =>
    bundle.entries.map fun (name, ref) => { key, name, ref }

/-- The number of all metrics, bundle by bundle. -/
def bundleSizes (monitor : Monitor) : Nat :=
  monitor.bundles.values.foldr (fun bundle total => bundle.size + total) 0

variable (monitor : Monitor)

theorem mem_leaves_iff {monitor : Monitor} {leaf : Leaf} :
    leaf ∈ monitor.leaves ↔ monitor.metric? leaf.key leaf.name = some leaf.ref := by
  simp only [leaves, List.mem_flatMap, List.mem_map, Prod.exists, metric?, Option.bind_eq_some_iff,
    ← NameMap.mem_entries_iff]
  constructor
  · rintro ⟨key, bundle, listed, name, ref, found, rfl⟩
    exact ⟨bundle, listed, found⟩
  · rintro ⟨bundle, listed, found⟩
    exact ⟨leaf.key, bundle, listed, leaf.name, leaf.ref, found, rfl⟩

theorem length_leaves : monitor.leaves.length = monitor.bundleSizes := by
  simp only [leaves, bundleSizes, NameMap.values, List.length_flatMap, List.length_map,
    List.sum_eq_foldr, List.foldr_map]
  rfl

/-- A leaf comes before another one. -/
def Leaf.Before (leaf other : Leaf) : Prop :=
  leaf.key < other.key ∨ leaf.key = other.key ∧ leaf.name < other.name

theorem pairwise_leaves : monitor.leaves.Pairwise Leaf.Before := by
  rw [leaves, List.pairwise_flatMap]
  refine ⟨fun entry _ => List.pairwise_map.2 (entry.2.sorted.imp fun less => .inr ⟨rfl, less⟩), ?_⟩
  refine monitor.bundles.sorted.imp fun less => ?_
  intro leaf mem other mem'
  obtain ⟨_, _, rfl⟩ := List.mem_map.1 mem
  obtain ⟨_, _, rfl⟩ := List.mem_map.1 mem'
  exact .inl less

/-! ## Which metrics are kept -/

/-- Of the leaves with one dotted name the last one is kept. -/
theorem find?_metrics (full : String) :
    monitor.metrics.find? full =
      (monitor.leaves.reverse.find? (·.full == full)).map (·.ref) := by
  have flat : monitor.metrics =
      .ofList (monitor.leaves.map fun leaf => (leaf.full, leaf.ref)) := by
    simp only [metrics, leaves, List.map_flatMap, List.map_map]
    rfl
  rw [flat, NameMap.find?_ofList, ← List.map_reverse, NameMap.lookup_eq_find?, List.find?_map,
    Option.map_map]
  rfl

/-- The leaf has the longest key of all that have its dotted name. -/
def Longest (leaf : Leaf) : Prop :=
  leaf ∈ monitor.leaves ∧
    ∀ other ∈ monitor.leaves, other.full = leaf.full → other.key.length ≤ leaf.key.length

variable {monitor}

theorem longest_of_find? {full : String} {leaf : Leaf}
    (last : monitor.leaves.reverse.find? (·.full == full) = some leaf) :
    monitor.Longest leaf ∧ leaf.full = full := by
  obtain ⟨named, later, earlier, split, others⟩ := List.find?_eq_some_iff_append.1 last
  have named : leaf.full = full := by simpa using named
  refine ⟨⟨List.mem_reverse.1 (List.mem_of_find?_eq_some last), fun other mem same => ?_⟩, named⟩
  rw [← List.mem_reverse, split, List.mem_append, List.mem_cons] at mem
  have sorted := List.pairwise_reverse.2 monitor.pairwise_leaves
  rw [split] at sorted
  rcases mem with after | rfl | before
  · simpa [same, named] using others other after
  · exact Nat.le_refl _
  · rcases (List.pairwise_cons.1 (List.pairwise_append.1 sorted).2.1).1 other before with
      less | ⟨key, _⟩
    · exact length_le_of_dotted_eq same less
    · exact Nat.le_of_eq (congrArg String.length key)

theorem eq_of_full_eq {leaf other : Leaf} (mem : leaf ∈ monitor.leaves)
    (mem' : other ∈ monitor.leaves) (same : leaf.full = other.full)
    (length : leaf.key.length = other.key.length) : leaf = other := by
  have shorter : ∀ key mid : String, key.length < (dotted key mid).length := fun key mid => by
    rw [length_dotted]
    omega
  have found := mem_leaves_iff.1 mem
  have found' := mem_leaves_iff.1 mem'
  rcases dotted_eq_iff.1 same with ⟨key, name⟩ | ⟨mid, key, _⟩ | ⟨mid, key, _⟩
  · rw [key, name, found'] at found
    cases leaf
    cases other
    cases found
    cases key
    cases name
    rfl
  · exact absurd length (Nat.ne_of_lt (key ▸ shorter leaf.key mid))
  · exact absurd length.symm (Nat.ne_of_lt (key ▸ shorter other.key mid))

/-- Of the metrics with one dotted name that with the longest key is kept. -/
theorem find?_metrics_iff {full : String} {ref : MetricRef} :
    monitor.metrics.find? full = some ref ↔
      ∃ leaf, monitor.Longest leaf ∧ leaf.full = full ∧ leaf.ref = ref := by
  rw [find?_metrics, Option.map_eq_some_iff]
  constructor
  · rintro ⟨leaf, last, read⟩
    exact ⟨leaf, (longest_of_find? last).1, (longest_of_find? last).2, read⟩
  · rintro ⟨leaf, ⟨mem, longest⟩, rfl, read⟩
    have found : (monitor.leaves.reverse.find? (·.full == leaf.full)).isSome := by
      rw [List.find?_isSome]
      exact ⟨leaf, List.mem_reverse.2 mem, beq_self_eq_true _⟩
    obtain ⟨other, last⟩ := Option.isSome_iff_exists.1 found
    obtain ⟨⟨mem', longest'⟩, same⟩ := longest_of_find? last
    obtain rfl := eq_of_full_eq mem' mem same
      (Nat.le_antisymm (longest other mem' same) (longest' leaf mem same.symm))
    exact ⟨other, last, read⟩

theorem isSome_find?_metrics_iff {full : String} :
    (monitor.metrics.find? full).isSome ↔ ∃ leaf ∈ monitor.leaves, leaf.full = full := by
  rw [find?_metrics, Option.isSome_map, List.find?_isSome]
  simp only [List.mem_reverse, beq_iff_eq]

/-! ## How many are kept -/

theorem nodup_leaves (monitor : Monitor) : monitor.leaves.Nodup := by
  refine monitor.pairwise_leaves.imp ?_
  rintro leaf _ (less | ⟨_, less⟩) rfl
  · exact String.lt_irrefl _ less
  · exact String.lt_irrefl _ less

/-- As many metrics are kept as there are dotted names. -/
theorem size_metrics (monitor : Monitor) :
    monitor.metrics.size = (monitor.leaves.map (·.full)).dedup.length := by
  refine NameMap.size_eq_length_dedup fun full => ?_
  rw [isSome_find?_metrics_iff, List.mem_map]

/-- No more metrics are kept than there are. -/
theorem size_metrics_le (monitor : Monitor) : monitor.metrics.size ≤ monitor.leaves.length := by
  rw [size_metrics]
  exact Nat.le_trans (List.dedup_sublist _).length_le (Nat.le_of_eq (List.length_map _))

/-- All metrics are kept if no two of them have one dotted name. -/
theorem size_metrics_eq_iff_injective :
    monitor.metrics.size = monitor.leaves.length ↔
      ∀ leaf ∈ monitor.leaves, ∀ other ∈ monitor.leaves, leaf.full = other.full → leaf = other := by
  have count : (monitor.leaves.map Leaf.full).length = monitor.leaves.length := List.length_map _
  rw [← List.nodup_map_iff_inj_on monitor.nodup_leaves, ← count]
  exact NameMap.size_eq_length_iff fun full => by rw [isSome_find?_metrics_iff, List.mem_map]

/-- All metrics are kept exactly if no part of a dotted name can be moved from the name of a metric
to the key of another one. -/
theorem size_metrics_eq_iff :
    monitor.metrics.size = monitor.leaves.length ↔ ∀ key mid name,
      (monitor.metric? key (dotted mid name)).isSome →
        monitor.metric? (dotted key mid) name = none := by
  rw [size_metrics_eq_iff_injective]
  constructor
  · intro injective key mid name found
    obtain ⟨ref, found⟩ := Option.isSome_iff_exists.1 found
    refine Option.eq_none_iff_forall_ne_some.2 fun ref' found' => ?_
    have same := injective ⟨key, dotted mid name, ref⟩ (mem_leaves_iff.2 found)
      ⟨dotted key mid, name, ref'⟩ (mem_leaves_iff.2 found') (dotted_assoc key mid name).symm
    have : key.length = (dotted key mid).length := congrArg (·.key.length) same
    rw [length_dotted] at this
    omega
  · intro apart leaf mem other mem' same
    have found := mem_leaves_iff.1 mem
    have found' := mem_leaves_iff.1 mem'
    rcases dotted_eq_iff.1 same with ⟨key, _⟩ | ⟨mid, key, name⟩ | ⟨mid, key, name⟩
    · exact eq_of_full_eq mem mem' same (congrArg String.length key)
    · have none := apart leaf.key mid other.name (by rw [← name, found]; rfl)
      rw [← key, found'] at none
      cases none
    · have none := apart other.key mid leaf.name (by rw [← name, found']; rfl)
      rw [← key, found] at none
      cases none

/-! ## Publishing -/

theorem longest_iff {leaf : Leaf} :
    monitor.Longest leaf ↔ monitor.metric? leaf.key leaf.name = some leaf.ref ∧
      ∀ key name, (monitor.metric? key name).isSome → dotted key name = leaf.full →
        key.length ≤ leaf.key.length := by
  rw [Longest, mem_leaves_iff]
  refine and_congr_right fun _ => ⟨fun longest key name there same => ?_, fun longest other mem => ?_⟩
  · obtain ⟨ref, found⟩ := Option.isSome_iff_exists.1 there
    exact longest ⟨key, name, ref⟩ (mem_leaves_iff.2 found) same
  · exact longest other.key other.name (by rw [mem_leaves_iff.1 mem]; rfl)

/-- What is registered when a monitor is published to an empty registry. Every dotted name of a
metric is registered, and with the metric that has the longest key of all that have this name.
There are no more entries than metrics in the bundles, and as many exactly if there are no two of
them such that a part of the name of one is the end of the key of the other. Then each metric has
an entry of its own. Of a metric that is lost nothing is reported. -/
theorem publish_keeps_longest_key {s : Station} {id : Nat}
    (there : s.monitors[id]? = some monitor) (nothing : s.registry = .empty) :
    let registry := (s.publish id).value.registry
    (∀ key name, (monitor.metric? key name).isSome →
      (registry.find? (dotted key name)).isSome) ∧
    (∀ full handle, registry.find? full = some handle ↔
      ∃ key name ref, handle = .published id ref ∧ monitor.metric? key name = some ref ∧
        dotted key name = full ∧ ∀ key' name', (monitor.metric? key' name').isSome →
          dotted key' name' = full → key'.length ≤ key.length) ∧
    registry.size ≤ monitor.bundleSizes ∧
    (registry.size = monitor.bundleSizes ↔ ∀ key mid name,
      (monitor.metric? key (dotted mid name)).isSome →
        monitor.metric? (dotted key mid) name = none) ∧
    (registry.size = monitor.bundleSizes → ∀ key name ref,
      monitor.metric? key name = some ref →
        registry.find? (dotted key name) = some (.published id ref)) ∧
    (s.publish id).events = [] := by
  intro registry
  have entry : ∀ full, registry.find? full = (monitor.metrics.find? full).map (.published id) := by
    intro full
    rw [Station.find?_publish there, nothing, NameMap.find?_empty, Option.none_or]
  have size : registry.size = monitor.metrics.size := by
    rw [size_metrics]
    refine NameMap.size_eq_length_dedup fun full => ?_
    rw [entry, Option.isSome_map, isSome_find?_metrics_iff, List.mem_map]
  rw [size, ← length_leaves]
  refine ⟨fun key name found => ?_, fun full handle => ?_, size_metrics_le monitor,
    size_metrics_eq_iff, fun all key name ref found => ?_, ?_⟩
  · obtain ⟨ref, found⟩ := Option.isSome_iff_exists.1 found
    rw [entry, Option.isSome_map, isSome_find?_metrics_iff]
    exact ⟨⟨key, name, ref⟩, mem_leaves_iff.2 found, rfl⟩
  · simp only [entry, Option.map_eq_some_iff, find?_metrics_iff, longest_iff]
    constructor
    · rintro ⟨ref, ⟨leaf, ⟨found, longest⟩, rfl, rfl⟩, rfl⟩
      exact ⟨leaf.key, leaf.name, leaf.ref, rfl, found, rfl, longest⟩
    · rintro ⟨key, name, ref, rfl, found, rfl, longest⟩
      exact ⟨ref, ⟨⟨key, name, ref⟩, ⟨found, longest⟩, rfl, rfl⟩, rfl⟩
  · have mem : (⟨key, name, ref⟩ : Leaf) ∈ monitor.leaves := mem_leaves_iff.2 found
    have kept : monitor.metrics.find? (dotted key name) = some ref := by
      refine find?_metrics_iff.2 ⟨⟨key, name, ref⟩, ⟨mem, fun other mem' same => ?_⟩, rfl, rfl⟩
      exact Nat.le_of_eq (congrArg (·.key.length)
        (size_metrics_eq_iff_injective.1 all other mem' _ mem same))
    rw [entry, kept]
    rfl
  · have free : s.registry.contains = fun _ => false := by
      funext name
      rw [nothing]
      rfl
    rw [Station.events_publish there, free, List.filter_false]
    rfl

/-- A configured memory key and the name of a filesystem that both hold a dot. -/
def overlapping : MonitorConfig :=
  { MonitorConfig.default with
    procRoot := "proc"
    sysRoot := "sys"
    memoryKeys := ["x.total"]
    storage := .fixed [⟨"memory.x", "ext4", .fixed (some 5) (some 4) (some 3)⟩] }

/-- A host whose memory source has the key. -/
def overlappingHost : Host where
  now := 0
  files := FileTree.empty.write "proc/meminfo" "x.total: 7 kB\n".toUTF8
  mounts := .empty

/-- A station with one monitor, which has not been published. -/
def unpublished (host : Host) (config : MonitorConfig) : Station :=
  { Station.empty with host }.addMonitor (build host config).value

/-- Two metrics of nine are called `memory.x.total`. -/
theorem publish_keeps_longest_key_overlapping :
    let s := unpublished overlappingHost overlapping
    let monitor := (build overlappingHost overlapping).value
    s.monitors[0]? = some monitor ∧ s.registry = .empty ∧ monitor.bundleSizes = 9 ∧
      (s.publish 0).value.registry.size < 9 := by
  intro s monitor
  have total : monitor.bundleSizes = 9 := by decide +kernel
  have there : s.monitors[0]? = some monitor := rfl
  obtain ⟨_, _, most, whole, _⟩ := publish_keeps_longest_key there rfl
  rw [total] at most whole
  refine ⟨there, rfl, total, Nat.lt_of_le_of_ne most fun all => ?_⟩
  have apart := whole.1 all "memory" "x" "total" (by decide +kernel)
  exact absurd apart (by decide +kernel)

/-- Not every metric of every monitor is published. -/
theorem publish_loses_metric :
    ¬ ∀ (host : Host) (config : MonitorConfig),
      let monitor := (build host config).value
      let registry := ((unpublished host config).publish 0).value.registry
      registry.size = monitor.bundleSizes ∧ ∀ key name ref, monitor.metric? key name = some ref →
        registry.find? (dotted key name) = some (.published 0 ref) := by
  intro all
  exact absurd (all overlappingHost overlapping).1 (by decide +kernel)

end HostVitals.Monitor
