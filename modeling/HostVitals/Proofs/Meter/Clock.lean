import HostVitals.Proofs.Meter.Idle

/-!
# Instants in any order

Who uses a meter reads the clock before it gets hold of the meter, so instants may reach it in
another order than they were read, even from before its start. Its ticks stay on the grid of
intervals after the start all the same, and follow the latest instant seen so far.

* `latest`: the latest instant of a sequence of uses.
* `OnGrid`: how a meter stands that saw no instant after a given one.

`OnGrid.advance` and `OnGrid.use` say that a use keeps this, at an instant before or after those
already seen, and `uses_follow_clock` what holds after every sequence of uses.
-/

namespace HostVitals

/-! ## Averages -/

namespace Average

theorem started_ticks (n : Nat) (a : Average) :
    (a.ticks n).started = (a.started || decide (0 < n)) := by
  induction n generalizing a with
  | zero => simp [ticks]
  | succ n ih => simp [ticks_succ, ih, tick]

theorem pending_ticks (n : Nat) (a : Average) :
    (a.ticks n).pending = if n = 0 then a.pending else 0 := by
  induction n generalizing a with
  | zero => rfl
  | succ n ih => simp [ticks_succ, ih, tick]

/-- The average has been ticked just if `ticks` is positive, and else it shows nothing. -/
def StartedBy (ticks : Nat) (a : Average) : Prop :=
  a.started = decide (0 < ticks) ∧ (ticks = 0 → a.rate = 0.0)

theorem StartedBy.ticks {q : Nat} {a : Average} (h : a.StartedBy q) (n : Nat) :
    (a.ticks n).StartedBy (q + n) := by
  refine ⟨?_, fun none => ?_⟩
  · rw [started_ticks, h.1, Bool.eq_iff_iff]
    simp only [Bool.or_eq_true, decide_eq_true_eq]
    omega
  · obtain ⟨rfl, rfl⟩ : q = 0 ∧ n = 0 := by omega
    exact h.2 rfl

end Average

namespace Meter

/-- The three averages of a meter. -/
def averages (m : Meter) : List Average :=
  [m.one, m.five, m.fifteen]

/-- The latest instant of some uses, or the start if none is later. -/
def latest (start : Nat) (us : List Use) : Nat :=
  us.foldl (fun seen u => max seen u.instant) start

/-- A meter on the grid: its last tick is the last grid point up to the latest instant seen, and
its averages have had the ticks up to there, and wait for the same events. -/
structure OnGrid (start seen : Nat) (m : Meter) : Prop where
  since : start ≤ seen
  lastTick : m.lastTick = start + (seen - start) / tickInterval * tickInterval
  started : ∀ a ∈ m.averages, a.StartedBy ((seen - start) / tickInterval)
  pending : ∀ a ∈ m.averages, a.pending = m.one.pending

variable {start seen now : Nat} {m : Meter}

theorem tickInterval_pos : 0 < tickInterval := by decide

theorem onGrid_startingAt (start : Nat) : OnGrid start start (startingAt start) where
  since := Nat.le_refl start
  lastTick := by simp [startingAt]
  started := by simp [averages, startingAt, Average.overMinutes, Average.StartedBy]
  pending := by simp [averages, startingAt, Average.overMinutes]

/-- The last tick does not pass the clock. -/
theorem OnGrid.lastTick_le (grid : OnGrid start seen m) : m.lastTick ≤ seen := by
  have := Nat.div_mul_le_self (seen - start) tickInterval
  have := grid.since
  rw [grid.lastTick]
  omega

/-- The next tick is still to come. -/
theorem OnGrid.lt_nextTick (grid : OnGrid start seen m) : seen < m.lastTick + tickInterval := by
  have := Nat.lt_div_mul_add (a := seen - start) (b := tickInterval) (by decide)
  rw [grid.lastTick]
  omega

/-- The ticks that are due are the grid points that the instant adds to those already seen. One
from before adds none. -/
theorem OnGrid.ticksDue_eq (grid : OnGrid start seen m)
    (bound : max seen now - start < UInt32.size * tickInterval) :
    ticksDue (now - m.lastTick) =
      (max seen now - start) / tickInterval - (seen - start) / tickInterval := by
  have pos := tickInterval_pos
  rcases Nat.le_total now seen with early | late
  · have next := grid.lt_nextTick
    rw [Nat.max_eq_left early, Nat.sub_self]
    exact ticksDue_of_lt (by omega)
  · have after : start ≤ m.lastTick := by rw [grid.lastTick]; exact Nat.le_add_right _ _
    rw [Nat.max_eq_right late] at bound ⊢
    have small : now - m.lastTick < UInt32.size * tickInterval :=
      Nat.lt_of_le_of_lt (Nat.sub_le_sub_left after now) bound
    rw [Meter.ticksDue_eq small, grid.lastTick, Nat.sub_add_eq, Nat.mul_comm, Nat.sub_mul_div]

theorem OnGrid.advance (grid : OnGrid start seen m)
    (bound : max seen now - start < UInt32.size * tickInterval) :
    OnGrid start (max seen now) (m.advance now) := by
  have more : (seen - start) / tickInterval ≤ (max seen now - start) / tickInterval :=
    Nat.div_le_div_right (Nat.sub_le_sub_right (Nat.le_max_left seen now) start)
  obtain ⟨n, reached⟩ := Nat.exists_eq_add_of_le more
  have due : ticksDue (now - m.lastTick) = n := by
    rw [grid.ticksDue_eq bound, reached, Nat.add_sub_cancel_left]
  obtain ⟨one, five, fifteen⟩ : m.one.StartedBy _ ∧ m.five.StartedBy _ ∧ m.fifteen.StartedBy _ := by
    simpa [averages] using grid.started
  obtain ⟨pendingFive, pendingFifteen⟩ :
      m.five.pending = m.one.pending ∧ m.fifteen.pending = m.one.pending := by
    simpa [averages] using grid.pending
  refine ⟨Nat.le_trans grid.since (Nat.le_max_left _ _), ?_, ?_, ?_⟩
  · show m.lastTick + tickInterval * ticksDue (now - m.lastTick) = _
    rw [due, reached, grid.lastTick, Nat.add_mul, Nat.add_assoc, Nat.mul_comm tickInterval]
  · simpa [averages, Meter.advance, due, reached] using
      ⟨one.ticks n, five.ticks n, fifteen.ticks n⟩
  · simp [averages, Meter.advance, Average.pending_ticks, pendingFive, pendingFifteen]

/-- A use at any instant keeps the meter on the grid. -/
theorem OnGrid.use (grid : OnGrid start seen m) {u : Use}
    (bound : max seen u.instant - start < UInt32.size * tickInterval) :
    OnGrid start (max seen u.instant) (m.use u) := by
  have advanced := grid.advance bound
  cases u with
  | snapshot instant => exact advanced
  | mark instant amount =>
    -- Events are only added to what is pending, in all three averages alike.
    obtain ⟨since, lastTick, started, pending⟩ := advanced
    simp only [averages, List.forall_mem_cons] at started pending
    refine ⟨since, lastTick, ?_, ?_⟩
    · simp only [averages, List.forall_mem_cons]
      exact started
    · simp only [averages, List.forall_mem_cons, Meter.use, Meter.mark, Average.mark]
      exact ⟨trivial, congrArg (addClamped · amount) pending.2.1,
        congrArg (addClamped · amount) pending.2.2.1, fun _ none => absurd none List.not_mem_nil⟩

theorem le_latest (seen : Nat) (us : List Use) : seen ≤ latest seen us := by
  induction us generalizing seen with
  | nil => exact Nat.le_refl seen
  | cons u us ih => exact Nat.le_trans (Nat.le_max_left seen u.instant) (ih _)

/-- A meter on the grid stays there. -/
theorem OnGrid.uses {us : List Use} (grid : OnGrid start seen m)
    (bound : latest seen us - start < UInt32.size * tickInterval) :
    OnGrid start (latest seen us) (m.uses us) := by
  induction us generalizing seen m with
  | nil => exact grid
  | cons u us ih =>
    have := le_latest (max seen u.instant) us
    have small : latest (max seen u.instant) us - start < UInt32.size * tickInterval := bound
    exact ih (grid.use (by omega)) small

theorem lastTick_le_uses (m : Meter) (us : List Use) : m.lastTick ≤ (m.uses us).lastTick := by
  induction us generalizing m with
  | nil => exact Nat.le_refl _
  | cons u us ih => exact Nat.le_trans (lastTick_le_use m u) (ih _)

/-- A use alters rates by the ticks that it makes, and by nothing else. -/
theorem rates_use (m : Meter) (u : Use) :
    (m.use u).averages.map (·.rate) = (m.advance u.instant).averages.map (·.rate) := by
  cases u <;> rfl

/-- How a meter stands after any sequence of marks and looks, whatever the order of their
instants. The last tick is a whole number of intervals after the start. It never goes back and
never passes the latest instant seen so far, which in turn lies before the next tick. The three
averages have been ticked together and wait for the same events; they have been ticked as soon as
the last tick is not the start, and show 0 until then. A further use before the next tick makes no
tick and alters no rate. -/
theorem uses_follow_clock {start : Nat} {us : List Use}
    (bound : latest start us - start < UInt32.size * tickInterval) :
    let m := (startingAt start).uses us
    (∃ q, m.lastTick = start + q * tickInterval ∧
      ∀ a ∈ m.averages, (a.started = true ↔ 0 < q) ∧ (q = 0 → a.rate = 0.0)) ∧
    m.lastTick ≤ latest start us ∧ latest start us < m.lastTick + tickInterval ∧
    (∀ earlier later, us = earlier ++ later →
      ((startingAt start).uses earlier).lastTick ≤ m.lastTick) ∧
    (∀ a ∈ m.averages, ∀ b ∈ m.averages, a.started = b.started ∧ a.pending = b.pending) ∧
    ∀ u : Use, u.instant < m.lastTick + tickInterval →
      m.advance u.instant = m ∧ (m.use u).lastTick = m.lastTick ∧
      (m.use u).averages.map (·.rate) = m.averages.map (·.rate) := by
  intro m
  have grid : OnGrid start (latest start us) m := (onGrid_startingAt start).uses bound
  refine ⟨⟨(latest start us - start) / tickInterval, grid.lastTick, fun a mem => ?_⟩,
    grid.lastTick_le, grid.lt_nextTick, ?_, fun a one b two => ?_, fun u early => ?_⟩
  · obtain ⟨started, zero⟩ := grid.started a mem
    exact ⟨by rw [started, decide_eq_true_iff], zero⟩
  · rintro earlier later rfl
    have split : m = ((startingAt start).uses earlier).uses later := List.foldl_append
    rw [split]
    exact lastTick_le_uses _ later
  · exact ⟨(grid.started a one).1.trans (grid.started b two).1.symm,
      (grid.pending a one).trans (grid.pending b two).symm⟩
  · have pos := tickInterval_pos
    have same : m.advance u.instant = m := advance_of_lt (by omega)
    have tick : (m.use u).lastTick = (m.advance u.instant).lastTick := by cases u <;> rfl
    exact ⟨same, by rw [tick, same], by rw [rates_use, same]⟩

/-- A meter that starts after 5 s: a mark two ticks later, one from before the start, and a look
from before the last tick. -/
def unorderedUses : List Use :=
  [.mark (17 * second) 3, .mark (2 * second) 4, .snapshot (12 * second)]

/-- The two that come late make no tick, and the last tick is that before the latest instant. -/
theorem uses_follow_clock_unordered :
    let m := (startingAt (5 * second)).uses unorderedUses
    m.lastTick = 15 * second ∧ (∀ a ∈ m.averages, a.started = true) ∧
    ∀ n, (m.use (.mark (19 * second) n)).averages.map (·.rate) = m.averages.map (·.rate) := by
  have seen : latest (5 * second) unorderedUses = 17 * second := by decide +kernel
  have bound : latest (5 * second) unorderedUses - 5 * second < UInt32.size * tickInterval := by
    decide +kernel
  obtain ⟨⟨q, tick, started⟩, below, above, _, _, early⟩ := uses_follow_clock bound
  have interval : tickInterval = 5 * second := rfl
  have positive : 0 < second := by decide
  rw [tick, seen, interval] at below above
  have two : q = 2 := by
    simp only [second] at below above
    omega
  have last : ((startingAt (5 * second)).uses unorderedUses).lastTick = 15 * second := by
    rw [tick, two]
    decide
  refine ⟨last, fun a mem => (started a mem).1.2 (by omega), fun n => (early _ ?_).2.2⟩
  rw [last, Use.instant]
  decide

end Meter

end HostVitals
