import HostVitals.Proofs.Monitor.Contents
import HostVitals.Proofs.Monitor.Life
import HostVitals.Proofs.Network.Grammar
import HostVitals.Settings.Basic

/-!
# Checked settings

Settings that pass their check describe a monitor that can always be started, and that shows the
interfaces and the memory keys which they name.

* `Settings.requirements`: what is required of settings, in the order of the check.
* `Checked`: the outcome of a check of requirements.
* `InterfaceSelection.Selects`: the interfaces that a choice means.

`Settings.checked_validate` says that the check is one of the requirements,
`InterfaceSelection.accepts_filter_iff` that the filter is the one that is meant, and
`checked_settings_monitor` what kind of monitor comes of it.
-/

namespace HostVitals

open Text (Blank lowerCase)

/-! ## The check -/

/-- What is required of settings, in the order in which it is checked, each with the fault that is
reported where it is not met. -/
def Settings.requirements (settings : Settings) : List (Prop × SettingsFault) :=
  [(settings.server.port ≠ 0, .port settings.server.port),
   (settings.server.host ≠ "", .host),
   (settings.monitor.pollInterval ≠ 0, .pollInterval settings.monitor.pollInterval),
   (∀ key ∈ settings.monitor.memoryKeys, ¬ Blank key.toList, .memoryKeys),
   (settings.monitor.procRoot ≠ "", .procRoot),
   (settings.monitor.sysRoot ≠ "", .sysRoot)]

/-- The outcome of checking requirements from the first to the last. -/
inductive Checked : List (Prop × SettingsFault) → Except SettingsFault Unit → Prop
  | done : Checked [] (.ok ())
  | met {p : Prop} {fault : SettingsFault} {later : List (Prop × SettingsFault)}
    {outcome : Except SettingsFault Unit} :
    p → Checked later outcome → Checked ((p, fault) :: later) outcome
  | unmet {p : Prop} {fault : SettingsFault} {later : List (Prop × SettingsFault)} :
    ¬p → Checked ((p, fault) :: later) (.error fault)

namespace Checked

variable {required : List (Prop × SettingsFault)} {outcome : Except SettingsFault Unit}

theorem check {p c : Prop} [Decidable c] {fault : SettingsFault} (fails : c ↔ ¬p)
    (later : Checked required outcome) :
    Checked ((p, fault) :: required) (if c then .error fault else outcome) := by
  split
  · next failed => exact .unmet (fails.1 failed)
  · next passed => exact .met (Classical.not_not.1 fun not => passed (fails.2 not)) later

/-- A check succeeds just if everything is met. -/
theorem eq_ok_iff (checked : Checked required outcome) :
    outcome = .ok () ↔ ∀ r ∈ required, r.1 := by
  induction checked with
  | done => exact ⟨fun _ => nofun, fun _ => rfl⟩
  | met holds _ ih => rw [ih, List.forall_mem_cons, and_iff_right holds]
  | unmet fails => exact iff_of_false nofun fun all => fails (all _ List.mem_cons_self)

/-- Otherwise it reports the first requirement that is not met. -/
theorem eq_error_iff (checked : Checked required outcome) (fault : SettingsFault) :
    outcome = .error fault ↔ ∃ met p later, required = met ++ (p, fault) :: later ∧
      (∀ r ∈ met, r.1) ∧ ¬p := by
  induction checked with
  | done =>
    refine iff_of_false nofun ?_
    rintro ⟨met, p, later, split, _⟩
    cases met <;> cases split
  | met holds _ ih =>
    rw [ih]
    constructor
    · rintro ⟨met, p, later, rfl, before, fails⟩
      exact ⟨_ :: met, p, later, rfl, List.forall_mem_cons.2 ⟨holds, before⟩, fails⟩
    · rintro ⟨met, p, later, split, before, fails⟩
      cases met with
      | nil =>
        cases split
        exact absurd holds fails
      | cons first met =>
        cases split
        exact ⟨met, p, later, rfl, (List.forall_mem_cons.1 before).2, fails⟩
  | unmet fails =>
    constructor
    · rintro ⟨⟩
      exact ⟨[], _, _, rfl, nofun, fails⟩
    · rintro ⟨met, p, later, split, before, _⟩
      cases met with
      | nil => cases split; rfl
      | cons first met =>
        cases split
        exact absurd (before _ List.mem_cons_self) fails

end Checked

namespace Settings

theorem isBlankText_iff {s : String} : isBlankText s = true ↔ Blank s.toList := by
  rw [isBlankText, List.isEmpty_iff, Text.trim_eq_nil_iff]

/-- The check goes through the requirements. -/
theorem checked_validate (settings : Settings) :
    Checked settings.requirements settings.validate := by
  have empty {s : String} : s.isEmpty = true ↔ ¬s ≠ "" := by simp
  have blank : settings.monitor.memoryKeys.any isBlankText = true ↔
      ¬∀ key ∈ settings.monitor.memoryKeys, ¬ Blank key.toList := by
    simp [isBlankText_iff]
  exact .check Decidable.not_not.symm <| .check empty <| .check Decidable.not_not.symm <|
    .check blank <| .check empty <| .check empty .done

/-- The monitor of settings that pass the check has a period. -/
theorem period_toConfig_pos {settings : Settings} (valid : settings.validate = .ok ()) :
    0 < settings.monitor.toConfig.period := by
  have interval : settings.monitor.pollInterval ≠ 0 :=
    settings.checked_validate.eq_ok_iff.1 valid (_, .pollInterval settings.monitor.pollInterval)
      (by simp [requirements])
  rw [MonitorSettings.toConfig]
  exact Nat.mul_pos (Nat.pos_of_ne_zero interval) (by decide)

end Settings

/-! ## Interfaces -/

/-- The interfaces that a choice means. -/
inductive InterfaceSelection.Selects : InterfaceSelection → String → Prop
  | loopback : Selects .default "lo"
  | usual {kind rest : String} : kind ∈ ["eth", "bond", "wlan"] → Selects .default (kind ++ rest)
  | all {name : String} : Selects .all name
  | listed {names : List String} {name : String} : name ∈ names → Selects (.only names) name

theorem NameFilter.begins_iff {start name : String} :
    begins start name = true ↔ ∃ rest, name = start ++ rest := by
  rw [begins, List.isPrefixOf_iff_prefix]
  constructor
  · rintro ⟨rest, whole⟩
    exact ⟨String.ofList rest, by rw [← String.toList_inj]; simp [whole]⟩
  · rintro ⟨rest, rfl⟩
    exact ⟨rest.toList, String.toList_append.symm⟩

/-- The filter of a choice accepts what the choice means. -/
theorem InterfaceSelection.accepts_filter_iff (selection : InterfaceSelection) (name : String) :
    selection.filter.accepts name = true ↔ selection.Selects name := by
  cases selection with
  | default =>
    simp only [filter, NameFilter.defaultInterfaces, NameFilter.accepts, Bool.or_eq_true,
      List.contains_iff_mem, List.any_eq_true, NameFilter.begins_iff]
    constructor
    · rintro (listed | ⟨kind, mem, rest, rfl⟩)
      · rw [List.mem_singleton.1 listed]
        exact .loopback
      · exact .usual mem
    · intro selected
      cases selected with
      | loopback => exact .inl List.mem_cons_self
      | usual mem => exact .inr ⟨_, mem, _, rfl⟩
  | all => exact ⟨fun _ => .all, fun _ => rfl⟩
  | none => exact ⟨nofun, nofun⟩
  | only names =>
    rw [filter, NameFilter.accepts, List.contains_iff_mem]
    constructor
    · exact .listed
    · rintro ⟨⟩
      assumption

/-- Checked settings give a monitor that polls, and shows what they name. The check succeeds just if
all requirements are met, and reports the first that is not. Settings that pass it give a monitor
that runs when it is launched, and that can be started at any time in its life, whatever was done
with it before; a start of one that does not run makes a pass. On every host the bundles with
metrics of interfaces are those of the interfaces which the collector has and the settings select,
each under its own key. If the memory source can be read there is one memory gauge for each
different lower-case form of a configured key, and it is in the one bundle that has memory gauges. -/
theorem checked_settings_monitor (settings : Settings) :
    (settings.validate = .ok () ↔ ∀ r ∈ settings.requirements, r.1) ∧
    (∀ fault, settings.validate = .error fault ↔
      ∃ met p later, settings.requirements = met ++ (p, fault) :: later ∧
        (∀ r ∈ met, r.1) ∧ ¬p) ∧
    ∀ host,
      let config := settings.monitor.toConfig
      let built := (Monitor.build host config).value
      (settings.validate = .ok () →
        (Monitor.launch host config).value.isRunning = true ∧
        ∀ done now,
          let monitor := built.operations done
          ∃ started, monitor.start now = .ok started ∧ started.isRunning = true ∧
            (monitor.isRunning = false →
              (started.settle now).instruments = (monitor.instruments.poll now).value)) ∧
      (∀ key bundle, built.bundles.find? key = some bundle ∧ Monitor.Shows .network bundle ↔
        ∃ network name, (NetworkDevices.create host settings.monitor.procRoot).value = .ok network ∧
          name ∈ network.interfaces.names ∧ settings.monitor.interfaces.Selects name ∧
          key = "iface." ++ name ∧ bundle = Monitor.interfaceBundle network name) ∧
      ∀ text, host.readSource (Text.join settings.monitor.procRoot "meminfo") = .ok text →
        ∃ bundle, built.bundles.find? "memory" = some bundle ∧
          bundle.size = (settings.monitor.memoryKeys.map lowerCase).dedup.length ∧
          (∀ name, bundle.find? name =
            (settings.monitor.memoryKeys.find? fun key => lowerCase key == name).map fun key =>
              .gauge (.memory key)) ∧
          ∀ key other, built.bundles.find? key = some other → Monitor.Shows .memory other →
            key = "memory" := by
  have checked := settings.checked_validate
  refine ⟨checked.eq_ok_iff, checked.eq_error_iff, fun host => ?_⟩
  intro config built
  refine ⟨fun valid => ?_, fun key bundle => ?_, fun text readable => ?_⟩
  · have pos : 0 < config.period := Settings.period_toConfig_pos valid
    refine ⟨Monitor.isRunning_launch pos host, fun done now => Monitor.exists_start ?_ now⟩
    rw [Monitor.period_operations, Monitor.period_build]
    exact pos
  · rw [Monitor.shows_network_iff]
    simp only [← InterfaceSelection.accepts_filter_iff]
    rfl
  · exact Monitor.find?_memoryKey readable

/-- Settings with two keys that differ by case only, and with the interfaces that are usual. -/
def usualSettings : Settings where
  server := ⟨8080, "localhost"⟩
  monitor := ⟨10, 5, ["Active", "active", "Cached"], ["ext4"], .default, "proc", "sys"⟩

/-- The settings pass their check, and with a blank key and no roots the key is reported. The
monitor runs, shows one of the two interfaces, and has two memory gauges. -/
theorem checked_settings_monitor_usual :
    let host := Monitor.memoryHost 0 "docker0: 7 1\nwlan1: 2 1\n" "Cached: 9 kB\n"
    let config := usualSettings.monitor.toConfig
    let built := (Monitor.build host config).value
    ({ usualSettings with monitor :=
      { usualSettings.monitor with memoryKeys := ["Cached", " "], procRoot := "" } } :
        Settings).validate = .error .memoryKeys ∧
    (Monitor.launch host config).value.isRunning = true ∧
    (∃ bundle, built.bundles.find? "iface.wlan1" = some bundle ∧ Monitor.Shows .network bundle) ∧
    (∀ key bundle, built.bundles.find? key = some bundle → Monitor.Shows .network bundle →
      key = "iface.wlan1") ∧
    ∃ bundle, built.bundles.find? "memory" = some bundle ∧ bundle.size = 2 := by
  intro host config built
  obtain ⟨valid, _, shown⟩ := checked_settings_monitor usualSettings
  obtain ⟨runs, interfaces, memory⟩ := shown host
  have named : (NetworkDevices.create host "proc").value.map (·.interfaces.names) =
      .ok ["docker0", "wlan1"] := by decide +kernel
  have readable : host.readSource (Text.join "proc" "meminfo") = .ok _ :=
    Collector.eq_ok_getD "" (by decide +kernel)
  have docker : ¬ InterfaceSelection.default.Selects "docker0" := by
    rw [← InterfaceSelection.accepts_filter_iff]
    decide +kernel
  have wlan : InterfaceSelection.default.Selects "wlan1" :=
    (InterfaceSelection.accepts_filter_iff _ _).1 (by decide +kernel)
  cases created : (NetworkDevices.create host "proc").value with
  | error fault =>
    rw [created] at named
    cases named
  | ok network =>
    rw [created] at named
    have names : network.interfaces.names = ["docker0", "wlan1"] := Except.ok.inj named
    refine ⟨by decide +kernel, (runs (by decide +kernel)).1, ?_,
      fun key bundle found shows => ?_, ?_⟩
    · exact ⟨_, (interfaces _ _).2 ⟨network, "wlan1", created, names ▸ by decide, wlan, rfl, rfl⟩⟩
    · obtain ⟨network', name, created', listed, selected, rfl, _⟩ :=
        (interfaces key bundle).1 ⟨found, shows⟩
      cases created.symm.trans created'
      rw [names] at listed
      rcases List.mem_pair.1 listed with rfl | rfl
      · exact absurd selected docker
      · rfl
    · obtain ⟨bundle, found, size, _⟩ := memory _ readable
      exact ⟨bundle, found, size.trans (by decide +kernel)⟩

end HostVitals
