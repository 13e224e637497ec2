import HostVitals.Collector.Probe
import HostVitals.Collector.Schedule
import HostVitals.Proofs.Collector.Run

/-!
# When passes are made

The deadlines of a loop lie on the grid of whole periods after its start. However the clock is
advanced, a loop that is settled after each advance makes one pass for each advance over a grid
point, and none for another.

* `PollLoop.gridAfter`: the first grid point after an instant.
* `PollLoop.crosses`: an advance of the clock goes over a grid point.
* `Schedule.run`: a schedule is settled on one host after the other.
* `Schedule.passHosts`: the hosts on which it makes its passes.

`settle_onGrid` is what one advance does, `run_onGrid` what a run does, and
`passes_follow_grid` says which passes there are, what each of them does, and that there are none
after the end of the loop.
-/

namespace HostVitals

open Logged

/-! ## The grid -/

namespace PollLoop

/-- The first point after `now` on the grid of whole periods after `start`. -/
def gridAfter (start period now : Nat) : Nat :=
  start + ((now - start) / period + 1) * period

/-- There is a grid point after one instant and not after the other. -/
def crosses (start period before after : Nat) : Bool :=
  (before - start) / period < (after - start) / period

variable {start period before now : Nat}

theorem lt_gridAfter (pos : 0 < period) : now < gridAfter start period now := by
  have := Nat.lt_div_mul_add (a := now - start) pos
  rw [gridAfter, Nat.add_mul, Nat.one_mul]
  omega

theorem gridAfter_le {periods : Nat} (since : start ≤ now)
    (later : now < start + periods * period) :
    gridAfter start period now ≤ start + periods * period := by
  have whole : (now - start) / period < periods :=
    Nat.div_lt_of_lt_mul (by rw [Nat.mul_comm]; omega)
  exact Nat.add_le_add_left (Nat.mul_le_mul_right period whole) start

/-- The next grid point is reached by the advances that go over a grid point. -/
theorem gridAfter_le_iff (pos : 0 < period) (since : start ≤ now) :
    gridAfter start period before ≤ now ↔ crosses start period before now = true := by
  rw [crosses, decide_eq_true_iff, Nat.lt_iff_add_one_le, Nat.le_div_iff_mul_le pos, gridAfter]
  omega

theorem gridAfter_eq_of_not_crosses (forward : before ≤ now)
    (within : crosses start period before now = false) :
    gridAfter start period before = gridAfter start period now := by
  have reached : ¬(before - start) / period < (now - start) / period := by
    simpa [crosses] using within
  have := Nat.div_le_div_right (c := period) (Nat.sub_le_sub_right forward start)
  rw [gridAfter, gridAfter, Nat.le_antisymm this (Nat.not_lt.1 reached)]

/-- After a grid point that has passed comes the first one after `now`, however late it is. -/
theorem nextDeadline_eq_gridAfter (long : grace < period) {periods : Nat}
    (due : start + periods * period ≤ now) :
    nextDeadline period (start + periods * period) now = gridAfter start period now := by
  have pos : 0 < period := Nat.zero_lt_of_lt long
  have late : now - start = now - (start + periods * period) + periods * period := by omega
  have whole := Nat.div_add_mod (now - (start + periods * period)) period
  rw [Nat.mul_comm] at whole
  rw [nextDeadline, gridAfter, late, Nat.add_mul_div_right _ _ pos, Nat.add_mul, Nat.add_mul,
    Nat.one_mul]
  split
  · omega
  · -- The grace is shorter than a period, so no further grid point has passed.
    have small : (now - (start + periods * period)) / period = 0 :=
      Nat.div_eq_of_lt (by omega)
    rw [small]
    omega

/-- A loop that was started at `start` and last settled at `now`. -/
def onGrid (pos : 0 < period) (start now : Nat) : PollLoop where
  period := period
  deadline := gridAfter start period now
  period_pos := pos

/-- What an advance of the clock does to a loop. -/
theorem settle_onGrid (pos : 0 < period) (long : grace < period) (since : start ≤ before)
    (forward : before ≤ now) :
    (onGrid pos start before).settle now =
      (if crosses start period before now then 1 else 0, onGrid pos start now) := by
  have reached : gridAfter start period before ≤ now ↔ crosses start period before now = true :=
    gridAfter_le_iff pos (Nat.le_trans since forward)
  cases crossed : crosses start period before now with
  | true =>
    have due := reached.2 crossed
    rw [settle_of_le long due]
    exact congrArg (fun deadline => (1, { onGrid pos start now with deadline }))
      (nextDeadline_eq_gridAfter long due)
  | false =>
    have early : now < gridAfter start period before := Nat.lt_of_not_le fun due => by
      rw [reached.1 due] at crossed
      cases crossed
    rw [settle_of_lt early, onGrid, gridAfter_eq_of_not_crosses forward crossed]
    rfl

end PollLoop

/-! ## Runs -/

namespace Collector

variable {κ : Type} [Collector κ]

/-- A pass reports what the refreshes report, and the faults of those that fail. -/
theorem events_poll (host : Host) (c : κ) :
    (poll host c).events = (refresh host c).events ++
      ((refresh host c).value.fault?.map (.refreshFailed (name c))).toList := by
  simp only [poll, events_bind]
  cases (refresh host c).value.fault? <;> rfl

end Collector

namespace Schedule

variable {κ : Type} [Collector κ]

/-- The schedule after it was settled on one host after the other. -/
def run (schedule : Schedule κ) (hosts : List Host) : Logged (Schedule κ) :=
  hosts.foldlM (fun schedule host => settle host schedule) schedule

/-- One pass over collectors on each of some hosts. -/
def pollEach (collectors : List κ) (hosts : List Host) : Logged (List κ) :=
  hosts.foldlM (fun collectors host => Collector.pollAll host collectors) collectors

theorem run_cons (schedule : Schedule κ) (host : Host) (hosts : List Host) :
    run schedule (host :: hosts) = settle host schedule >>= (run · hosts) :=
  List.foldlM_cons

theorem pollEach_cons (collectors : List κ) (host : Host) (hosts : List Host) :
    pollEach collectors (host :: hosts) =
      Collector.pollAll host collectors >>= (pollEach · hosts) :=
  List.foldlM_cons

/-- The advances of the clock, from each host to the one after it. -/
def advances (first : Host) (hosts : List Host) : List (Host × Host) :=
  (first :: hosts).zip hosts

/-- The hosts to which an advance over a grid point leads. -/
def crossed (start period : Nat) (first : Host) (hosts : List Host) : List Host :=
  ((advances first hosts).filter fun advance =>
    PollLoop.crosses start period advance.1.now advance.2.now).map (·.2)

/-- The hosts on which passes are made, from the start on. -/
def passHosts (period : Nat) (first : Host) (hosts : List Host) : List Host :=
  first :: crossed first.now period first hosts

/-- Over any number of passes each collector is refreshed once per pass, from its own state. -/
theorem value_pollEach (collectors : List κ) (hosts : List Host) :
    (pollEach collectors hosts).value = collectors.map (Collector.run · hosts) := by
  induction hosts generalizing collectors with
  | nil => exact (List.map_id' collectors).symm
  | cons host hosts ih =>
    rw [pollEach_cons, value_bind, ih, Collector.value_pollAll, List.map_map]
    rfl

/-- Settling a schedule is making the passes that are due. -/
theorem settle_eq (host : Host) (collectors : List κ) (loop : PollLoop) :
    settle host ⟨collectors, some loop⟩ = do
      let collectors ← PollLoop.passes (Collector.pollAll host) (loop.settle host.now).1 collectors
      return ⟨collectors, some (loop.settle host.now).2⟩ := by
  simp only [settle, PollLoop.run, bind_assoc, pure_bind]

/-- A run makes a pass on each host to which an advance over a grid point leads, and nothing
else. -/
theorem run_onGrid {period : Nat} (pos : 0 < period) (long : PollLoop.grace < period) {start : Nat}
    {first : Host} (since : start ≤ first.now) {hosts : List Host}
    (forward : (first :: hosts).Pairwise fun a b => a.now ≤ b.now) (collectors : List κ) :
    run ⟨collectors, some (.onGrid pos start first.now)⟩ hosts = do
      let collectors ← pollEach collectors (crossed start period first hosts)
      return ⟨collectors, some (.onGrid pos start (hosts.getLastD first).now)⟩ := by
  induction hosts generalizing first collectors with
  | nil => rfl
  | cons host hosts ih =>
    obtain ⟨later, rest⟩ := List.pairwise_cons.1 forward
    have next := later host List.mem_cons_self
    have settled := PollLoop.settle_onGrid pos long since next
    have split : crossed start period first (host :: hosts) =
        (if PollLoop.crosses start period first.now host.now then [host] else []) ++
          crossed start period host hosts := by
      simp only [crossed, advances, List.zip_cons_cons, List.filter_cons]
      split <;> rfl
    rw [run_cons, settle_eq, settled, bind_assoc, split, List.getLastD_cons]
    simp only [pure_bind, ih (Nat.le_trans since next) rest]
    cases PollLoop.crosses start period first.now host.now with
    | true =>
      simp only [if_true, PollLoop.passes, List.cons_append, List.nil_append, pollEach_cons,
        bind_assoc, pure_bind]
    | false =>
      simp only [Bool.false_eq_true, if_false, PollLoop.passes, pure_bind, List.nil_append]

/-- A schedule starts with a pass, and its loop is on the grid from then on. -/
theorem start_eq {period : Nat} (pos : 0 < period) (long : PollLoop.grace < period) (first : Host)
    (collectors : List κ) :
    Schedule.start first period collectors = .ok (do
      let collectors ← Collector.pollAll first collectors
      return ⟨collectors, some (.onGrid pos first.now first.now)⟩) := by
  have due : first.now + 0 * period ≤ first.now := by omega
  have next := PollLoop.nextDeadline_eq_gridAfter long due
  rw [Nat.zero_mul, Nat.add_zero] at next
  have started : PollLoop.start period first.now =
      .ok { period, deadline := first.now, period_pos := pos } := by
    rw [PollLoop.start, dif_pos pos]
  have settled : PollLoop.settle { period, deadline := first.now, period_pos := pos } first.now =
      (1, .onGrid pos first.now first.now) := by
    rw [PollLoop.settle_of_le long (Nat.le_refl _), PollLoop.onGrid]
    simp only [next]
  rw [Schedule.start, started]
  show Except.ok (settle first ⟨collectors, some _⟩) = _
  rw [settle_eq, settled]
  simp only [PollLoop.passes, bind_assoc, pure_bind]

/-- A loop that has ended makes no pass. -/
theorem run_of_ended {schedule : Schedule κ} (ended : schedule.loop = none) (hosts : List Host) :
    run schedule hosts = pure schedule := by
  have idle : ∀ host, settle host schedule = pure schedule := fun host => by
    rw [settle, ended]
  induction hosts with
  | nil => rfl
  | cons host hosts ih => rw [run_cons, idle, pure_bind, ih]

/-- The passes of a loop follow the grid of its periods. A loop with a period longer than the
grace makes one pass when it is started and one for each advance of the clock over a grid point,
however many of them it goes over. The next deadline is always the first grid point in the future.
In every pass each collector is refreshed once, from its own state and in the order of the list,
and a fault is reported and goes no further. Once the loop is ended it does not run, there is no
further pass, and ending it again changes nothing. -/
theorem passes_follow_grid {period : Nat} (long : PollLoop.grace < period) (first : Host)
    (collectors : List κ) {hosts : List Host}
    (forward : (first :: hosts).Pairwise fun a b => a.now ≤ b.now) :
    ∃ started, Schedule.start first period collectors = .ok started ∧
      let made := passHosts period first hosts
      let after := started >>= (run · hosts)
      let last := hosts.getLastD first
      made.length = 1 + (advances first hosts).countP (fun advance =>
        (advance.1.now - first.now) / period < (advance.2.now - first.now) / period) ∧
      after.value.collectors = collectors.map (Collector.run · made) ∧
      after.events = (pollEach collectors made).events ∧
      (∀ host (cs : List κ), (Collector.pollAll host cs).events = cs.flatMap fun c =>
        (Collector.refresh host c).events ++
          ((Collector.refresh host c).value.fault?.map (.refreshFailed (Collector.name c))).toList) ∧
      (∃ loop, after.value.loop = some loop ∧ last.now < loop.deadline ∧
        (∃ periods, loop.deadline = first.now + periods * period) ∧
        ∀ periods, last.now < first.now + periods * period →
          loop.deadline ≤ first.now + periods * period) ∧
      let ended := after.value.shutdown
      ended.isRunning = false ∧ ended.shutdown = ended ∧
        ended.collectors = after.value.collectors ∧ ∀ later, run ended later = pure ended := by
  have pos : 0 < period := Nat.zero_lt_of_lt long
  refine ⟨_, start_eq pos long first collectors, ?_⟩
  intro made after last
  have since : first.now ≤ last.now := by
    rcases List.mem_cons.1 (List.getLastD_mem_cons (l := hosts) (a := first)) with same | later
    · exact Nat.le_of_eq (congrArg Host.now same.symm)
    · exact (List.pairwise_cons.1 forward).1 last later
  have whole : after = (do
      let collectors ← pollEach collectors made
      return ⟨collectors, some (.onGrid pos first.now last.now)⟩) := by
    simp only [after, made, last, passHosts, bind_assoc, pure_bind, pollEach_cons,
      run_onGrid pos long (Nat.le_refl first.now) forward]
  refine ⟨?_, ?_, ?_, ?_, ⟨.onGrid pos first.now last.now, ?_, ?_, ?_, ?_⟩, rfl, rfl, rfl, ?_⟩
  · simp only [made, passHosts, crossed, List.length_cons, List.length_map, Nat.add_comm 1,
      List.countP_eq_length_filter]
    rfl
  · rw [whole, value_bind, value_pollEach]
    rfl
  · rw [whole, events_bind, events_pure, List.append_nil]
  · intro host cs
    rw [Collector.pollAll, events_mapM]
    simp only [Collector.events_poll]
  · rw [whole]
    rfl
  · exact PollLoop.lt_gridAfter pos
  · exact ⟨_, rfl⟩
  · exact fun periods => PollLoop.gridAfter_le since
  · exact run_of_ended rfl

/-- A host at an instant of so many milliseconds. -/
def hostAt (millis : Nat) : Host where
  now := millis * millisecond
  files := .empty
  mounts := .empty

/-- A failing and a counting collector, every ten milliseconds from the third on: an advance to a
grid point, one over eight of them, and one that stays between two. -/
theorem passes_follow_grid_jump :
    PollLoop.grace < 10 * millisecond ∧
    ([hostAt 3, hostAt 13, hostAt 97, hostAt 102].Pairwise fun a b => a.now ≤ b.now) ∧
    ∃ started, Schedule.start (hostAt 3) (10 * millisecond) [Probe.fresh true, .fresh false] =
        .ok started ∧
      let after := (started >>= (run · [hostAt 13, hostAt 97, hostAt 102])).value
      after.collectors = [⟨true, 3⟩, ⟨false, 3⟩] ∧
      ∃ loop, after.loop = some loop ∧ loop.deadline = 103 * millisecond := by
  have long : PollLoop.grace < 10 * millisecond := by decide
  have forward :
      [hostAt 3, hostAt 13, hostAt 97, hostAt 102].Pairwise fun a b => a.now ≤ b.now := by decide
  obtain ⟨started, eq, _, states, _, _, ⟨loop, running, later, ⟨periods, point⟩, least⟩, _⟩ :=
    passes_follow_grid long (hostAt 3) [Probe.fresh true, .fresh false] forward
  refine ⟨long, forward, started, eq, states.trans (by decide +kernel), loop, running, ?_⟩
  have upper := least 10 (by decide)
  have : (hostAt 102).now < loop.deadline := later
  simp only [hostAt, millisecond] at *
  omega

end Schedule

end HostVitals
