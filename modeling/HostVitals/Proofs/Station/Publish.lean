import HostVitals.Proofs.NameMap.Listed
import HostVitals.Station

/-!
# Registering metrics

A registration takes a name that is free and changes nothing if it is taken. Publishing a monitor
is registering the metrics of its flattened namespace, one after the other.

* `Registration`: a name and a metric that is to be registered under it.
* `enter`: what registrations do to a registry, one after the other.
* `registrationsOf`: the registrations by which a monitor is published.

`find?_enter` says which registration counts, `value_publish` what publishing a monitor does to a
station, `find?_publish` what is registered then, and `events_publish` what is reported on the way.
-/

namespace HostVitals

open Logged

/-- A metric that is registered under a name: by itself, or with the monitor of a number. -/
structure Registration where
  name : String
  handle : Handle
  monitor? : Option Nat
  deriving DecidableEq

/-- The registration of a metric of a monitor under its own name. -/
def Registration.ofMetric (id : Nat) (metric : String × MetricRef) : Registration where
  name := metric.1
  handle := .published id metric.2
  monitor? := some id

namespace Station

/-- Registers metrics one after the other, each unless its name is taken. -/
def enter (registry : NameMap Handle) (registrations : List Registration) : NameMap Handle :=
  registrations.foldl (fun registry r => registry.insertNew r.name r.handle) registry

/-- The registrations of all metrics of a monitor. -/
def registrationsOf (id : Nat) (monitor : Monitor) : List Registration :=
  monitor.metrics.entries.map (.ofMetric id)

theorem enter_append (registry : NameMap Handle) (earlier later : List Registration) :
    enter registry (earlier ++ later) = enter (enter registry earlier) later :=
  List.foldl_append

/-- A name that is not taken goes to the first registration of it. -/
theorem find?_enter (registry : NameMap Handle) (registrations : List Registration)
    (name : String) :
    (enter registry registrations).find? name =
      (registry.find? name).or ((registrations.find? (·.name == name)).map (·.handle)) :=
  NameMap.find?_foldl_insertNew Registration.name Registration.handle registrations registry name

/-- A metric is registered by its monitor exactly if it is one of its metrics. -/
theorem mem_registrationsOf_iff {id : Nat} {monitor : Monitor} {r : Registration} :
    r ∈ registrationsOf id monitor ↔
      ∃ ref, monitor.metrics.find? r.name = some ref ∧ r = .ofMetric id (r.name, ref) := by
  simp only [registrationsOf, List.mem_map]
  constructor
  · rintro ⟨⟨name, ref⟩, listed, rfl⟩
    exact ⟨ref, NameMap.mem_entries_iff.1 listed, rfl⟩
  · rintro ⟨ref, found, eq⟩
    exact ⟨(r.name, ref), NameMap.mem_entries_iff.2 found, eq.symm⟩

theorem find?_registrationsOf (id : Nat) (monitor : Monitor) (name : String) :
    ((registrationsOf id monitor).find? (·.name == name)).map (·.handle) =
      (monitor.metrics.find? name).map (.published id) := by
  rw [registrationsOf, List.find?_map, Option.map_map, NameMap.find?, NameMap.lookup_eq_find?,
    Option.map_map]
  rfl

/-! ## Stations -/

variable {s : Station} {id : Nat} {monitor : Monitor}

theorem value_register (s : Station) (name : String) (handle : Handle) :
    (s.register name handle).value = { s with registry := s.registry.insertNew name handle } := by
  unfold register NameMap.insertNew
  split <;> rfl

/-- The metrics of a monitor are registered one after the other. -/
theorem value_registerEach (id : Nat) (metrics : List (String × MetricRef)) (s : Station) :
    (metrics.foldlM (fun s (name, ref) => register s name (.published id ref)) s).value =
      { s with registry := enter s.registry (metrics.map (.ofMetric id)) } := by
  induction metrics generalizing s with
  | nil => rfl
  | cons metric metrics ih =>
    rw [List.foldlM_cons, value_bind, ih, value_register]
    rfl

/-- Publishing a monitor changes the registry only, by the registrations of its metrics. -/
theorem value_publish (there : s.monitors[id]? = some monitor) :
    (s.publish id).value =
      { s with registry := enter s.registry (registrationsOf id monitor) } := by
  rw [publish, there]
  exact value_registerEach id monitor.metrics.entries s

theorem events_register (s : Station) (name : String) (handle : Handle) :
    (s.register name handle).events =
      if s.registry.contains name then [.metricAlreadyRegistered name] else [] := by
  unfold register
  split <;> rfl

/-- Of metrics with different names those are reported whose names were taken before. -/
theorem events_registerEach (id : Nat) {metrics : List (String × MetricRef)}
    (different : (metrics.map (·.1)).Nodup) (s : Station) :
    (metrics.foldlM (fun s (name, ref) => register s name (.published id ref)) s).events =
      ((metrics.map (·.1)).filter s.registry.contains).map .metricAlreadyRegistered := by
  induction metrics generalizing s with
  | nil => rfl
  | cons metric metrics ih =>
    obtain ⟨fresh, different⟩ := List.nodup_cons.1 different
    have others : ∀ name ∈ metrics.map (·.1),
        (s.registry.insertNew metric.1 (.published id metric.2)).contains name =
          s.registry.contains name := by
      intro name mem
      have other : name ≠ metric.1 := ne_of_mem_of_not_mem mem fresh
      rw [NameMap.contains, NameMap.find?_insertNew, if_neg other]
      rfl
    rw [List.foldlM_cons, events_bind, ih different, events_register, value_register,
      List.filter_congr others, List.map_cons, List.filter_cons]
    cases s.registry.contains metric.1 <;> rfl

/-- Publishing a monitor reports those names of its metrics that were taken. -/
theorem events_publish (there : s.monitors[id]? = some monitor) :
    (s.publish id).events =
      (monitor.metrics.names.filter s.registry.contains).map .metricAlreadyRegistered := by
  rw [publish, there]
  exact events_registerEach id monitor.metrics.nodup_names s

theorem value_publish_of_none (missing : s.monitors[id]? = none) : (s.publish id).value = s := by
  rw [publish, missing]
  rfl

/-- A published monitor has its metrics under those of their names that were free. -/
theorem find?_publish (there : s.monitors[id]? = some monitor) (name : String) :
    (s.publish id).value.registry.find? name =
      (s.registry.find? name).or ((monitor.metrics.find? name).map (.published id)) := by
  rw [value_publish there, find?_enter, find?_registrationsOf]

/-- Registering what has its names taken changes nothing. -/
theorem enter_eq_self {registry : NameMap Handle} {registrations : List Registration}
    (taken : ∀ r ∈ registrations, (registry.find? r.name).isSome) :
    enter registry registrations = registry := by
  refine NameMap.ext fun name => ?_
  rw [find?_enter]
  cases found : registry.find? name with
  | some handle => rfl
  | none =>
    have unnamed : registrations.find? (·.name == name) = none := by
      rw [List.find?_eq_none]
      intro r mem same
      have := taken r mem
      rw [beq_iff_eq.1 same, found] at this
      cases this
    rw [unnamed]
    rfl

end Station

end HostVitals
