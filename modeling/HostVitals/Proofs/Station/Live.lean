import HostVitals.Proofs.Monitor.Operation
import HostVitals.Proofs.Station.Publish
import HostVitals.Proofs.Text.ByteOrder

/-!
# What is registered stays live

The first metric that is registered under a name stays for ever, and it is the metric itself that
is registered: what a monitor does after it was published shows under the names of its metrics.

* `Station.Step`, `Station.run`: what happens to a station.
* `Station.history`: all registrations of a run, in order.
* `Station.Live`: a registration leads to a metric of its monitor, as the monitor is now.

`registry_run` says that a run registers its history and nothing else, `metrics_run` that no
monitor loses or changes a metric, and `registered_stays_live` what that means for everyone who
samples, at any point of any run.
-/

namespace HostVitals.Station

open Logged
open Monitor (Operation)
open Text.Percent (bytes)

/-! ## Runs -/

/-- Something that happens to a station. -/
inductive Step where
  | advance (time : Nat)
  | change (files : FileTree) (mounts : MountTable)
  | addMeter
  | addCounter (first : Nat)
  | mark (id : Nat) (n : Int64)
  | build (config : MonitorConfig)
  | operate (id : Nat) (operation : Operation)
  | register (name : String) (handle : Handle)
  | publish (id : Nat)
  | sample (name : String)

def step (s : Station) : Step → Station
  | .advance time => s.advance time
  | .change files mounts => { s with host := { s.host with files, mounts } }
  | .addMeter => s.addMeter
  | .addCounter first => s.addCounter first
  | .mark id n => s.mark id n
  | .build config => s.addMonitor (Monitor.build s.host config).value
  | .operate id operation =>
    { s with monitors := s.monitors.modify id fun monitor => monitor.operate s.host operation }
  | .register name handle => (s.register name handle).value
  | .publish id => (s.publish id).value
  | .sample name => (sampleNamed name s).value.2

def run (s : Station) (steps : List Step) : Station :=
  steps.foldl step s

/-- The registrations that a step makes, in order. -/
def registrations (s : Station) : Step → List Registration
  | .register name handle => [{ name, handle, monitor? := none }]
  | .publish id => s.monitors[id]?.toList.flatMap (registrationsOf id)
  | _ => []

/-- The registrations of a run, in order. -/
def history (s : Station) : List Step → List Registration
  | [] => []
  | what :: steps => s.registrations what ++ history (s.step what) steps

variable {s : Station} {id : Nat} {monitor : Monitor} {name : String}

theorem run_cons (s : Station) (what : Step) (steps : List Step) :
    run s (what :: steps) = run (s.step what) steps := rfl

theorem run_append (s : Station) (earlier later : List Step) :
    run s (earlier ++ later) = run (run s earlier) later :=
  List.foldl_append

/-! ## Sampling -/

theorem sampleNamed_of_none (free : s.registry.find? name = none) :
    sampleNamed name s = pure (none, s) := by
  show ((s.registry.find? name).mapM sample) s = _
  rw [free]
  rfl

theorem sampleNamed_of_some {handle : Handle} (found : s.registry.find? name = some handle) :
    sampleNamed name s = do
      let (sampled, after) ← sample handle s
      return (some sampled, after) := by
  show ((s.registry.find? name).mapM sample) s = _
  rw [found]
  rfl

/-- A published metric is sampled where it is, in its monitor. -/
theorem sample_published (there : s.monitors[id]? = some monitor) (ref : MetricRef) :
    sample (.published id ref) s = do
      let (sampled, monitor) ← monitor.sample s.host ref
      return (sampled, s.setMonitor id monitor) := by
  simp only [sample, there]

theorem sample_published_of_none (missing : s.monitors[id]? = none) (ref : MetricRef) :
    sample (.published id ref) s = pure (.gauge (.integer 0), s) := by
  simp only [sample, missing]

theorem registry_sample (handle : Handle) (s : Station) :
    (sample handle s).value.2.registry = s.registry := by
  cases handle with
  | published id ref =>
    cases there : s.monitors[id]? with
    | none => rw [sample_published_of_none there, value_pure]
    | some monitor =>
      rw [sample_published there]
      rfl
  | _ => rfl

/-- Sampling takes no monitor away and leaves its metrics as they are. -/
theorem metrics_sample (handle : Handle) (there : s.monitors[id]? = some monitor) :
    ∃ after, (sample handle s).value.2.monitors[id]? = some after ∧
      after.metrics = monitor.metrics := by
  cases handle with
  | published sampled ref =>
    cases found : s.monitors[sampled]? with
    | none => exact ⟨monitor, by rw [sample_published_of_none found, value_pure, there], rfl⟩
    | some before =>
      rw [sample_published found]
      show ∃ after, (s.monitors.set sampled (before.sample s.host ref).value.2)[id]? = some after ∧ _
      by_cases same : sampled = id
      · subst same
        obtain rfl : before = monitor := Option.some.inj (found.symm.trans there)
        have inside := (List.getElem?_eq_some_iff.1 there).1
        exact ⟨_, List.getElem?_set_self inside, rfl⟩
      · exact ⟨monitor, (List.getElem?_set_ne same).trans there, rfl⟩
  | _ => exact ⟨monitor, there, rfl⟩

/-! ## Registrations -/

/-- What a step does to the registry. -/
theorem registry_step (s : Station) (what : Step) :
    (s.step what).registry = enter s.registry (s.registrations what) := by
  cases what with
  | register name handle => exact congrArg registry (value_register s name handle)
  | publish id =>
    simp only [step, registrations]
    cases there : s.monitors[id]? with
    | none =>
      rw [value_publish_of_none there]
      rfl
    | some monitor =>
      rw [value_publish there, Option.toList_some, List.flatMap_singleton]
  | sample name =>
    simp only [step]
    cases found : s.registry.find? name with
    | none =>
      rw [sampleNamed_of_none found]
      rfl
    | some handle =>
      rw [sampleNamed_of_some found]
      exact registry_sample handle s
  | _ => rfl

/-- A run registers its history, and nothing else. -/
theorem registry_run (s : Station) (steps : List Step) :
    (s.run steps).registry = enter s.registry (s.history steps) := by
  induction steps generalizing s with
  | nil => rfl
  | cons what steps ih => rw [run_cons, ih, registry_step, history, enter_append]

theorem history_append (s : Station) (earlier later : List Step) :
    s.history (earlier ++ later) = s.history earlier ++ (s.run earlier).history later := by
  induction earlier generalizing s with
  | nil => rfl
  | cons what earlier ih =>
    rw [List.cons_append, history, history, ih, run_cons, List.append_assoc]

/-! ## Monitors -/

theorem monitor_operate (operation : Operation) (there : s.monitors[id]? = some monitor) :
    (s.step (.operate id operation)).monitors[id]? = some (monitor.operate s.host operation) := by
  simp only [step, List.getElem?_modify, there, if_true]
  rfl

/-- A step takes no monitor away and leaves its metrics as they are. -/
theorem metrics_step (what : Step) (there : s.monitors[id]? = some monitor) :
    ∃ after, (s.step what).monitors[id]? = some after ∧ after.metrics = monitor.metrics := by
  cases what with
  | build config =>
    have inside : id < s.monitors.length := (List.getElem?_eq_some_iff.1 there).1
    exact ⟨monitor, (List.getElem?_append_left inside).trans there, rfl⟩
  | operate changed operation =>
    refine ⟨if changed = id then monitor.operate s.host operation else monitor, ?_, ?_⟩
    · simp only [step, List.getElem?_modify, there]
      split <;> rfl
    · split
      · exact Monitor.metrics_operate s.host monitor operation
      · rfl
  | register name handle =>
    simp only [step, value_register]
    exact ⟨monitor, there, rfl⟩
  | publish published =>
    simp only [step]
    cases other : s.monitors[published]? with
    | none =>
      rw [value_publish_of_none other]
      exact ⟨monitor, there, rfl⟩
    | some _ =>
      rw [value_publish other]
      exact ⟨monitor, there, rfl⟩
  | sample name =>
    simp only [step]
    cases found : s.registry.find? name with
    | none =>
      rw [sampleNamed_of_none found]
      exact ⟨monitor, there, rfl⟩
    | some handle =>
      rw [sampleNamed_of_some found]
      exact metrics_sample handle there
  | _ => exact ⟨monitor, there, rfl⟩

theorem metrics_run (steps : List Step) (there : s.monitors[id]? = some monitor) :
    ∃ after, (s.run steps).monitors[id]? = some after ∧ after.metrics = monitor.metrics := by
  induction steps generalizing s monitor with
  | nil => exact ⟨monitor, there, rfl⟩
  | cons what steps ih =>
    obtain ⟨next, found, same⟩ := metrics_step what there
    obtain ⟨after, there, later⟩ := ih found
    exact ⟨after, there, later.trans same⟩

/-- A registration that was made with a monitor leads to the metric that the monitor, as it is
now, has under the name. -/
def Live (s : Station) (r : Registration) : Prop :=
  ∀ id ∈ r.monitor?, ∃ monitor ref, s.monitors[id]? = some monitor ∧
    monitor.metrics.find? r.name = some ref ∧ r.handle = .published id ref

theorem Live.run {r : Registration} (live : s.Live r) (steps : List Step) :
    (s.run steps).Live r := by
  intro id own
  obtain ⟨monitor, ref, there, found, leads⟩ := live id own
  obtain ⟨after, still, same⟩ := metrics_run steps there
  exact ⟨after, ref, still, same ▸ found, leads⟩

theorem live_of_mem_registrations {what : Step} {r : Registration}
    (made : r ∈ s.registrations what) : s.Live r := by
  cases what with
  | register name handle =>
    rw [List.mem_singleton.1 made]
    exact fun id own => nomatch own
  | publish id =>
    obtain ⟨monitor, there, made⟩ := List.mem_flatMap.1 made
    obtain ⟨ref, found, eq⟩ := mem_registrationsOf_iff.1 made
    intro other own
    rw [eq] at own
    obtain rfl : id = other := Option.some.inj own
    exact ⟨monitor, ref, Option.mem_toList.1 there, found, by rw [eq]; rfl⟩
  | _ => cases made

theorem live_of_mem_history {steps : List Step} {r : Registration} (made : r ∈ s.history steps) :
    (s.run steps).Live r := by
  induction steps generalizing s with
  | nil => cases made
  | cons what steps ih =>
    rcases List.mem_append.1 made with now | later
    · exact (live_of_mem_registrations now).run (what :: steps)
    · exact ih later

/-! ## Runs from the start -/

/-- A station on a host, where nothing is measured or registered. -/
def fresh (host : Host) : Station :=
  { empty with host }

theorem find?_run_fresh (host : Host) (steps : List Step) (name : String) :
    ((fresh host).run steps).registry.find? name =
      (((fresh host).history steps).find? (·.name == name)).map (·.handle) := by
  rw [registry_run, find?_enter]
  exact Option.none_or

theorem mem_names_run_iff {host : Host} {steps : List Step} {name : String} :
    name ∈ ((fresh host).run steps).registry.names ↔
      ∃ r ∈ (fresh host).history steps, r.name = name := by
  rw [NameMap.mem_names_iff, find?_run_fresh, Option.isSome_map, List.find?_isSome]
  simp only [beq_iff_eq]

/-- Publishing a monitor changes nothing if all its metrics were registered before. -/
theorem publish_eq_self {host : Host} {steps : List Step}
    (there : ((fresh host).run steps).monitors[id]? = some monitor)
    (made : ∀ r ∈ registrationsOf id monitor, r ∈ (fresh host).history steps) :
    (((fresh host).run steps).publish id).value = (fresh host).run steps := by
  rw [value_publish there, enter_eq_self]
  exact fun r mem => NameMap.mem_names_iff.1 (mem_names_run_iff.2 ⟨r, made r mem, rfl⟩)

/-- What is registered in any run. The names are those that were registered, each once, in the
order of their bytes, and each of them stays with the metric that was first registered under it.
If that was done with a monitor, then a sample under the name is a sample of the metric that the
monitor, as it is by now, has under this name in its flattened namespace; whatever is done with the
monitor next will show, although nothing is published again. Publishing a monitor a second time
changes nothing, and publishing any monitor adds its metrics under those of their names that are
free, and changes nothing else. -/
theorem registered_stays_live (host : Host) (steps : List Step) :
    let s := (fresh host).run steps
    let past := (fresh host).history steps
    (∀ name, name ∈ s.registry.names ↔ ∃ r ∈ past, r.name = name) ∧
    s.registry.names.Pairwise (fun a b => bytes a < bytes b) ∧
    s.registry.size = (past.map (·.name)).dedup.length ∧
    (∀ name, s.registry.find? name = (past.find? (·.name == name)).map (·.handle)) ∧
    (∀ name r id, past.find? (·.name == name) = some r → r.monitor? = some id →
      ∃ monitor ref, s.monitors[id]? = some monitor ∧ monitor.metrics.find? name = some ref ∧
        sampleNamed name s = (do
          let (sampled, monitor) ← monitor.sample s.host ref
          return (some sampled, s.setMonitor id monitor)) ∧
        ∀ operation, (sampleNamed name (s.step (.operate id operation))).value.1 =
          some ((monitor.operate s.host operation).sample s.host ref).value.1) ∧
    (∀ before after id, steps = before ++ .publish id :: after →
      ((fresh host).run before).monitors[id]?.isSome → (s.publish id).value = s) ∧
    ∀ id monitor, s.monitors[id]? = some monitor →
      let published := (s.publish id).value
      published = { s with registry := published.registry } ∧
      ∀ name, published.registry.find? name =
        (s.registry.find? name).or ((monitor.metrics.find? name).map (.published id)) := by
  intro s past
  refine ⟨fun name => mem_names_run_iff, ?_, ?_, find?_run_fresh host steps, ?_, ?_, ?_⟩
  · exact s.registry.pairwise_names.imp fun less => Text.bytes_lt_bytes_iff.2 less
  · refine NameMap.size_eq_length_dedup fun name => ?_
    rw [← NameMap.mem_names_iff, mem_names_run_iff, List.mem_map]
  · intro name r id first own
    have named : r.name = name := by simpa using List.find?_some first
    obtain ⟨monitor, ref, there, found, leads⟩ :=
      live_of_mem_history (List.mem_of_find?_eq_some first) id own
    have entry : s.registry.find? name = some (.published id ref) := by
      rw [find?_run_fresh, first, ← leads]
      rfl
    refine ⟨monitor, ref, there, named ▸ found, ?_, fun operation => ?_⟩
    · rw [sampleNamed_of_some entry, sample_published there, bind_assoc]
      rfl
    · rw [sampleNamed_of_some (s := s.step (.operate id operation)) entry,
        sample_published (monitor_operate operation there)]
      rfl
  · intro before after id eq there
    obtain ⟨monitor, there⟩ := Option.isSome_iff_exists.1 there
    obtain ⟨later, still, same⟩ := metrics_run (.publish id :: after) there
    rw [← run_append, ← eq] at still
    refine publish_eq_self still fun r mem => ?_
    rw [eq, history_append, history, registrations, there, Option.toList_some,
      List.flatMap_singleton]
    rw [registrationsOf, same] at mem
    exact List.mem_append_right _ (List.mem_append_left _ mem)
  · intro id monitor there
    refine ⟨?_, find?_publish there⟩
    simp only [value_publish there]

/-- A monitor is published when one of its names is taken, and polled on other files later. -/
def pollAfterPublish : List Step :=
  [.build { Monitor.watched with memoryKeys := ["MemTotal", "MemFree"] },
    .register "memory.memfree" (.constant (.integer 1)), .publish 0, .advance 5,
    .change (Monitor.memoryHost 0 "" "MemTotal: 9 kB\nMemFree: 6 kB\n").files .empty,
    .operate 0 (.act .poll)]

/-- The total is that of the new files. The name that was taken stays with the constant. -/
theorem registered_stays_live_poll_after_publish :
    let s := (fresh (Monitor.memoryHost 0 "" "MemTotal: 8 kB\nMemFree: 5 kB\n")).run
      pollAfterPublish
    s.registry.find? "memory.memfree" = some (.constant (.integer 1)) ∧
    (∃ monitor ref, s.monitors[0]? = some monitor ∧
      monitor.metrics.find? "memory.memtotal" = some ref ∧
      (sampleNamed "memory.memtotal" s).value.1 = some (monitor.sample s.host ref).value.1) ∧
    (sampleNamed "memory.memtotal" s).value.1 = some (.gauge (.integer 9)) ∧
    (s.publish 0).value = s := by
  obtain ⟨_, _, _, first, live, again, _⟩ := registered_stays_live
    (Monitor.memoryHost 0 "" "MemTotal: 8 kB\nMemFree: 5 kB\n") pollAfterPublish
  obtain ⟨monitor, ref, there, found, sampled, _⟩ := live "memory.memtotal"
    ⟨"memory.memtotal", .published 0 (.gauge (.memory "MemTotal")), some 0⟩ 0 (by decide +kernel)
    rfl
  refine ⟨(first _).trans (by decide +kernel), ⟨monitor, ref, there, found, ?_⟩,
    by decide +kernel, again (pollAfterPublish.take 2) (pollAfterPublish.drop 3) 0 rfl
      (by decide +kernel)⟩
  rw [sampled]
  rfl

end HostVitals.Station
