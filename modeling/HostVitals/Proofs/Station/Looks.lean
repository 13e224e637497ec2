import HostVitals.Proofs.LoadAverage.Throttle
import HostVitals.Proofs.Meter.Idle
import HostVitals.Proofs.Station.Live

/-!
# Looks at a station

Sampling changes what is sampled: a meter makes the ticks due, and load averages may be parsed
again. At the same instant nothing shows of that, counters that grow by being read apart, and
of meters nothing shows later either.

* `Station.meter?`: the meter that a handle leads to.
* `Station.shown`: what a sample gives.
* `Handle.isSteady`: reading the metric does not change what it shows.
* `Station.Looked`: since one state of a station its meters have only been looked at.

`meter?_sample` is all that a sample does to any meter, `shown_sample` says that a sample changes
nothing that is shown, and `Looked.meter` what comes of many looks.
-/

namespace HostVitals

open Logged

/-! ## One metric, looked at twice -/

namespace Meter

/-- A second look at the same instant finds no tick due, however many there were. -/
theorem advance_self (m : Meter) (now : Nat) : (m.advance now).advance now = m.advance now := by
  have none : ticksDue (now - (m.advance now).lastTick) = 0 := by
    have left : (now - (m.advance now).lastTick) / tickInterval =
        (now - m.lastTick) / tickInterval -
          (now - m.lastTick) / tickInterval % UInt32.size := by
      rw [← Nat.sub_mul_div, Nat.sub_sub]
      rfl
    rw [ticksDue, left]
    exact Nat.sub_mod_eq_zero_of_mod_eq (Nat.mod_mod _ _).symm
  generalize m.advance now = advanced at none
  simp [advance, none, Average.ticks]

/-- Looks at some instants. -/
def looks (instants : List Nat) : List Use :=
  instants.map .snapshot

theorem count_uses_looks (m : Meter) (instants : List Nat) :
    (m.uses (looks instants)).count = m.count := by
  induction instants generalizing m with
  | nil => rfl
  | cons instant instants ih => exact ih (m.advance instant)

theorem uses_append (m : Meter) (us vs : List Use) : m.uses (us ++ vs) = (m.uses us).uses vs :=
  List.foldl_append

/-- Looks leave no trace in what is shown after them. -/
theorem snapshot_uses_looks {m : Meter} {instants : List Nat} {us : List Use} {late : Nat}
    (ordered : InOrder (looks instants ++ us))
    (before : ∀ u ∈ looks instants ++ us, u.instant ≤ late) (reach : m.InReach late) :
    (((m.uses (looks instants)).uses us).snapshot late).1 = ((m.uses us).snapshot late).1 := by
  have idle : (looks instants).filter (fun u => !u.isIdle) = [] := by
    simp [looks, List.filter_map, Function.comp_def, Use.isIdle]
  have orderedAfter : InOrder us := (List.pairwise_append.1 ordered).2.1
  have beforeAfter : ∀ u ∈ us, u.instant ≤ late := fun u mem =>
    before u (List.mem_append_right _ mem)
  have same : ((m.uses (looks instants)).uses us).advance late = (m.uses us).advance late := by
    rw [← uses_append, advance_uses_filter ordered before reach, List.filter_append, idle,
      List.nil_append, ← advance_uses_filter orderedAfter beforeAfter reach]
  show (((m.uses (looks instants)).uses us).advance late).view late = _
  rw [same]
  rfl

end Meter

namespace LoadAverage

/-- A second reading on the same host gives the same values. -/
theorem read_again (host : Host) (load : LoadAverage) :
    ((load.read host).value.2.read host).value.1 = (load.read host).value.1 := by
  cases fresh : load.fresh? host.now with
  | some values => rw [read_of_fresh fresh, value_pure, read_of_fresh fresh, value_pure]
  | none =>
    -- The values just parsed are used again, or the same sources are parsed again.
    obtain ⟨first, _⟩ := read_of_stale fresh
    rw [first]
    cases still : fresh? _ host.now with
    | some values =>
      rw [read_of_fresh still]
      simp only [fresh?] at still
      split at still
      · exact (Option.some.inj still).symm
      · cases still
    | none => rw [(read_of_stale still).1]

end LoadAverage

namespace NetworkDevices

theorem meter?_setMeter (devices : NetworkDevices) (name : String) (column : Nat) (meter : Meter)
    (name' : String) (column' : Nat) :
    (devices.setMeter name column meter).meter? name' column' =
      if name' = name ∧ column' = column then (devices.meter? name column).map fun _ => meter
      else devices.meter? name' column' := by
  simp only [meter?, setMeter, NameMap.find?_modify]
  by_cases named : name' = name
  · subst named
    cases devices.interfaces.find? name' with
    | none => simp
    | some interface =>
      by_cases same : column' = column
      · subst same
        cases found : interface.columns[column']? <;> simp [found]
      · simp [same, Ne.symm same]
  · simp [named]

end NetworkDevices

theorem BlockDevice.meter_setMeter (device : BlockDevice) (activity activity' : Activity)
    (meter : Meter) :
    (device.setMeter activity meter).meter activity' =
      if activity' = activity then meter else device.meter activity' := by
  cases activity <;> cases activity' <;> rfl

theorem BlockDevices.find?_setMeter (disks : BlockDevices) (name : String) (activity : Activity)
    (meter : Meter) (name' : String) :
    (disks.setMeter name activity meter).find? name' =
      if name' = name then (disks.find? name).map (·.setMeter activity meter)
      else disks.find? name' := by
  have names (device : BlockDevice) :
      (if device.name = name then device.setMeter activity meter else device).name =
        device.name := by
    split
    · cases activity <;> rfl
    · rfl
  simp only [find?, setMeter, List.find?_map, Function.comp_def, names]
  by_cases same : name' = name
  · subst same
    cases found : disks.devices.find? (·.name == name') with
    | none => simp
    | some device =>
      have named : device.name = name' := by simpa using List.find?_some found
      simp [named]
  · cases found : disks.devices.find? (·.name == name') with
    | none => simp [same]
    | some device =>
      have named : device.name = name' := by simpa using List.find?_some found
      simp [same, named]

namespace Instruments

variable {host : Host} {i : Instruments}

theorem meter?_setMeter (ref ref' : MeterRef) (meter : Meter) :
    (i.setMeter ref meter).meter? ref' =
      if ref' = ref then (i.meter? ref).map fun _ => meter else i.meter? ref' := by
  cases ref with
  | interface name column =>
    cases ref' with
    | interface name' column' =>
      cases network : i.network with
      | none => simp [setMeter, meter?, network]
      | some devices =>
        simp [setMeter, meter?, network, NetworkDevices.meter?_setMeter]
    | disk device' activity' => rfl
  | disk device activity =>
    cases ref' with
    | interface name' column' => rfl
    | disk device' activity' =>
      cases block : i.disks with
      | none => simp [setMeter, meter?, block]
      | some disks =>
        simp only [setMeter, meter?, block, Option.map_some, Option.bind_some,
          BlockDevices.find?_setMeter, MeterRef.disk.injEq]
        by_cases named : device' = device
        · subst named
          cases disks.find? device' with
          | none => simp
          | some found =>
            by_cases same : activity' = activity <;> simp [same, BlockDevice.meter_setMeter]
        · simp [named]

/-- A sample makes the ticks due of the meter that is sampled. -/
theorem meter?_sample (ref : MetricRef) (ref' : MeterRef) :
    (i.sample host ref).value.2.meter? ref' =
      if .meter ref' = ref then (i.meter? ref').map (·.advance host.now) else i.meter? ref' := by
  cases ref with
  | gauge ref => cases ref <;> cases ref' <;> rfl
  | meter ref =>
    simp only [sample, value_pure, meter?_setMeter, MetricRef.meter.injEq]
    by_cases same : ref' = ref
    · subst same
      cases found : i.meter? ref' <;> simp [Meter.snapshot]
    · simp [same]

theorem load_sample (ref : MetricRef) :
    (i.sample host ref).value.2.load = i.load ∨
      (i.sample host ref).value.2.load = (i.load.read host).value.2 := by
  cases ref with
  | meter ref => cases ref <;> exact .inl rfl
  | gauge ref =>
    cases ref with
    | load gauge => exact .inr rfl
    | _ => exact .inl rfl

theorem memory_sample (ref : MetricRef) : (i.sample host ref).value.2.memory = i.memory := by
  cases ref with
  | meter ref => cases ref <;> rfl
  | gauge ref => cases ref <;> rfl

/-- A sample changes nothing that is shown. -/
theorem shown_sample (ref ref' : MetricRef) :
    ((i.sample host ref).value.2.sample host ref').value.1 = (i.sample host ref').value.1 := by
  cases ref' with
  | meter ref' =>
    show Sample.meter ((((i.sample host ref).value.2.meter? ref').getD _).snapshot host.now).1 = _
    rw [meter?_sample]
    split
    · cases found : i.meter? ref' <;> simp [sample, found, Meter.snapshot, Meter.advance_self]
    · rfl
  | gauge ref' =>
    cases ref' with
    | load gauge =>
      have values : ((i.sample host ref).value.2.load.read host).value.1 =
          (i.load.read host).value.1 := by
        rcases load_sample ref with same | read
        · rw [same]
        · rw [read, LoadAverage.read_again]
      exact congrArg (fun values => Sample.gauge (.float (gauge.pick values))) values
    | memory key =>
      show Sample.gauge (.integer (((i.sample host ref).value.2.memory.map _).getD 0)) = _
      rw [memory_sample]
      rfl
    | capacity store figure => rfl

end Instruments

/-- Reading the metric does not change what it shows. Only a counter of its own readings is not
so. -/
def Handle.isSteady : Handle → Bool
  | .counter _ => false
  | _ => true

namespace Station

/-! ## A sample -/

/-- The meter that a handle leads to. -/
def meter? (s : Station) : Handle → Option Meter
  | .meter id => s.meters[id]?
  | .published id (.meter ref) => s.monitors[id]?.bind (·.instruments.meter? ref)
  | _ => none

/-- What a sample gives. -/
def shown (s : Station) (handle : Handle) : Sample :=
  (sample handle s).value.1

variable {s t u : Station}

theorem shown_published (id : Nat) (ref : MetricRef) :
    s.shown (.published id ref) = s.monitors[id]?.elim (.gauge (.integer 0)) fun monitor =>
      (monitor.instruments.sample s.host ref).value.1 := by
  rw [shown]
  cases there : s.monitors[id]? with
  | none => rw [sample_published_of_none there, value_pure, Option.elim_none]
  | some monitor =>
    rw [sample_published there]
    rfl

theorem host_sample (handle : Handle) (s : Station) :
    (sample handle s).value.2.host = s.host := by
  cases handle with
  | published id ref =>
    cases there : s.monitors[id]? with
    | none => rw [sample_published_of_none there, value_pure]
    | some monitor =>
      rw [sample_published there]
      rfl
  | _ => rfl

/-- A metric is sampled in its own monitor. -/
theorem monitors_sample_published (id : Nat) (ref : MetricRef) (s : Station) :
    (sample (.published id ref) s).value.2.monitors[id]? =
      s.monitors[id]?.map fun monitor => (monitor.sample s.host ref).value.2 := by
  cases there : s.monitors[id]? with
  | none => rw [sample_published_of_none there, value_pure, there, Option.map_none]
  | some monitor =>
    rw [sample_published there]
    exact List.getElem?_set_self (List.getElem?_eq_some_iff.1 there).1

theorem monitors_sample_of_ne {handle : Handle} {id : Nat}
    (foreign : ∀ ref, handle ≠ .published id ref) (s : Station) :
    (sample handle s).value.2.monitors[id]? = s.monitors[id]? := by
  cases handle with
  | published sampled ref =>
    have other : sampled ≠ id := fun same => foreign ref (by rw [same])
    cases there : s.monitors[sampled]? with
    | none => rw [sample_published_of_none there, value_pure]
    | some monitor =>
      rw [sample_published there]
      exact List.getElem?_set_ne other
  | _ => rfl

theorem meters_sample (handle : Handle) (s : Station) (id : Nat) :
    (sample handle s).value.2.meters[id]? =
      if .meter id = handle then s.meters[id]?.map (·.advance s.host.now) else s.meters[id]? := by
  cases handle with
  | constant value => rfl
  | counter other => rfl
  | meter other =>
    show (s.meters.set other _)[id]? = _
    by_cases same : id = other
    · subst same
      cases found : s.meters[id]? with
      | none => simpa using found
      | some meter => simp [(List.getElem?_eq_some_iff.1 found).1]
    · simp [same, Ne.symm same]
  | published monitor ref =>
    cases there : s.monitors[monitor]? with
    | none => rw [sample_published_of_none there, value_pure, if_neg nofun]
    | some monitor =>
      rw [sample_published there, if_neg nofun]
      rfl

/-- A sample makes the ticks due of the meter that is sampled, and changes no other. -/
theorem meter?_sample (handle handle' : Handle) (s : Station) :
    (sample handle s).value.2.meter? handle' =
      if handle' = handle then (s.meter? handle').map (·.advance s.host.now)
      else s.meter? handle' := by
  cases handle' with
  | constant value => exact (ite_self none).symm
  | counter id => exact (ite_self none).symm
  | meter id => exact meters_sample handle s id
  | published id ref' =>
    cases ref' with
    | gauge ref' => exact (ite_self none).symm
    | meter ref' =>
      by_cases own : ∃ ref, handle = .published id ref
      · obtain ⟨ref, rfl⟩ := own
        simp only [meter?, monitors_sample_published, Handle.published.injEq, true_and]
        cases s.monitors[id]? with
        | none => simp
        | some monitor => exact Instruments.meter?_sample ref ref'
      · have foreign := not_exists.1 own
        rw [meter?, monitors_sample_of_ne foreign, if_neg fun same => foreign _ same.symm]
        rfl

/-- A sample changes nothing that is shown, but for a counter. -/
theorem shown_sample (handle : Handle) {handle' : Handle} (steady : handle'.isSteady = true)
    (s : Station) : (sample handle s).value.2.shown handle' = s.shown handle' := by
  cases handle' with
  | constant value => rfl
  | counter id => cases steady
  | meter id =>
    show Sample.meter ((((sample handle s).value.2.meters[id]?).getD
      (.startingAt (sample handle s).value.2.host.now)).snapshot
        (sample handle s).value.2.host.now).1 = _
    rw [meters_sample, host_sample]
    split
    · cases found : s.meters[id]? <;>
        simp [shown, sample, found, Meter.snapshot, Meter.advance_self]
    · rfl
  | published id ref' =>
    rw [shown_published, shown_published, host_sample]
    by_cases own : ∃ ref, handle = .published id ref
    · obtain ⟨ref, rfl⟩ := own
      rw [monitors_sample_published]
      cases s.monitors[id]? with
      | none => rfl
      | some monitor => exact Instruments.shown_sample ref ref'
    · rw [monitors_sample_of_ne (not_exists.1 own)]

/-! ## Many samples -/

/-- The station after some samples. -/
def sampled (s : Station) (handles : List Handle) : Station :=
  handles.foldl (fun s handle => (sample handle s).value.2) s

theorem shown_sampled {handle : Handle} (steady : handle.isSteady = true) (s : Station)
    (handles : List Handle) : (s.sampled handles).shown handle = s.shown handle := by
  induction handles generalizing s with
  | nil => rfl
  | cons first handles ih => exact (ih _).trans (shown_sample first steady s)

/-- A registered metric is sampled with its name. -/
def sampleEntry (entry : String × Handle) : StateT Station Logged (String × Sample) := do
  let sampled ← sample entry.2
  return (entry.1, sampled)

theorem value_mapM_sampleEntry_cons (entry : String × Handle) (entries : List (String × Handle))
    (s : Station) :
    ((entry :: entries).mapM sampleEntry s).value =
      let rest := (entries.mapM sampleEntry (sample entry.2 s).value.2).value
      ((entry.1, s.shown entry.2) :: rest.1, rest.2) := by
  rw [List.mapM_cons]
  rfl

theorem station_mapM_sampleEntry (entries : List (String × Handle)) (s : Station) :
    (entries.mapM sampleEntry s).value.2 = s.sampled (entries.map (·.2)) := by
  induction entries generalizing s with
  | nil => rfl
  | cons entry entries ih =>
    rw [value_mapM_sampleEntry_cons]
    exact ih _

/-- Metrics that are sampled one after the other show what each of them would show first. -/
theorem shown_mapM_sampleEntry {entries : List (String × Handle)}
    (steady : ∀ entry ∈ entries, entry.2.isSteady = true) (s : Station) :
    (entries.mapM sampleEntry s).value.1 = entries.map fun entry => (entry.1, s.shown entry.2) := by
  induction entries generalizing s with
  | nil => rfl
  | cons entry entries ih =>
    obtain ⟨_, later⟩ := List.forall_mem_cons.1 steady
    rw [value_mapM_sampleEntry_cons, List.map_cons]
    refine congrArg _ ((ih later _).trans (List.map_congr_left fun other mem => ?_))
    rw [shown_sample entry.2 (later other mem)]

/-! ## Many looks -/

/-- Since a state of a station its meters have only been looked at: every meter is what looks have
made of it, and these followed the clock. -/
structure Looked (s t : Station) : Prop where
  since : s.host.now ≤ t.host.now
  registry : t.registry = s.registry
  meters : ∀ handle meter, s.meter? handle = some meter → ∃ instants : List Nat,
    instants.Pairwise (· ≤ ·) ∧
    (∀ instant ∈ instants, s.host.now ≤ instant ∧ instant ≤ t.host.now) ∧
    t.meter? handle = some (meter.uses (Meter.looks instants))

theorem Looked.refl (s : Station) : Looked s s where
  since := Nat.le_refl _
  registry := rfl
  meters _ _ there := ⟨[], .nil, nofun, there⟩

theorem Looked.trans (first : Looked s t) (second : Looked t u) : Looked s u where
  since := Nat.le_trans first.since second.since
  registry := second.registry.trans first.registry
  meters handle meter there := by
    obtain ⟨early, ordered, within, middle⟩ := first.meters handle meter there
    obtain ⟨late, ordered', within', after⟩ := second.meters handle _ middle
    refine ⟨early ++ late, List.pairwise_append.2 ⟨ordered, ordered', fun i mem j mem' => ?_⟩,
      fun i mem => ?_, ?_⟩
    · exact Nat.le_trans (within i mem).2 (within' j mem').1
    · rcases List.mem_append.1 mem with mem | mem
      · exact ⟨(within i mem).1, Nat.le_trans (within i mem).2 second.since⟩
      · exact ⟨Nat.le_trans first.since (within' i mem).1, (within' i mem).2⟩
    · rw [after, Meter.looks, Meter.looks, Meter.looks, List.map_append, Meter.uses_append]

theorem looked_advance (s : Station) (time : Nat) : Looked s (s.advance time) where
  since := Nat.le_add_right _ _
  registry := rfl
  meters _ _ there := ⟨[], .nil, nofun, there⟩

theorem looked_sample (handle : Handle) (s : Station) :
    Looked s (sample handle s).value.2 where
  since := Nat.le_of_eq (congrArg Host.now (host_sample handle s)).symm
  registry := registry_sample handle s
  meters handle' meter there := by
    rw [meter?_sample, there, host_sample]
    by_cases same : handle' = handle
    · refine ⟨[s.host.now], List.pairwise_singleton _ _, ?_, by rw [if_pos same]; rfl⟩
      rintro _ (_ | ⟨_, ⟨⟩⟩)
      exact ⟨Nat.le_refl _, Nat.le_refl _⟩
    · exact ⟨[], .nil, nofun, by rw [if_neg same]; rfl⟩

theorem looked_sampled (s : Station) (handles : List Handle) : Looked s (s.sampled handles) := by
  induction handles generalizing s with
  | nil => exact .refl s
  | cons handle handles ih => exact (looked_sample handle s).trans (ih _)

/-- What looks leave behind. Each meter is still there with the same count, and however it is used
from then on, it will show what it would have shown without them. -/
theorem Looked.meter (looked : Looked s t) {handle : Handle} {meter : Meter}
    (there : s.meter? handle = some meter) :
    ∃ after, t.meter? handle = some after ∧ after.count = meter.count ∧
      ∀ us late, Meter.InOrder us →
        (∀ u ∈ us, t.host.now ≤ u.instant ∧ u.instant ≤ late) → t.host.now ≤ late →
        meter.InReach late →
        ((after.uses us).snapshot late).1 = ((meter.uses us).snapshot late).1 := by
  obtain ⟨instants, ordered, within, found⟩ := looked.meters handle meter there
  refine ⟨_, found, meter.count_uses_looks instants, fun us late usOrdered usWithin le reach => ?_⟩
  refine Meter.snapshot_uses_looks (List.pairwise_append.2 ⟨?_, usOrdered, ?_⟩) ?_ reach
  · exact List.pairwise_map.2 ordered
  · intro look mem u mem'
    obtain ⟨instant, looked, rfl⟩ := List.mem_map.1 mem
    exact Nat.le_trans (within instant looked).2 (usWithin u mem').1
  · intro u mem
    rcases List.mem_append.1 mem with mem | mem
    · obtain ⟨instant, looked, rfl⟩ := List.mem_map.1 mem
      exact Nat.le_trans (within instant looked).2 le
    · exact (usWithin u mem).2

end Station

end HostVitals
