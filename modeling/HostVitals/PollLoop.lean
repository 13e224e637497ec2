import HostVitals.Host
import HostVitals.Logged

/-!
# The poll loop

A loop makes a pass when it is started and then once per period. Its deadlines stay on
the grid of whole periods after the start: a pass that comes late is made once, however
many periods went by, and the next one is due at the next grid point in the future.

* `PollLoop.settle`: the passes due at an instant, and the loop after them.
* `PollLoop.run`: makes these passes.

`settle_of_le` says that a loop whose period is longer than the grace makes one pass
however late it comes, and `nextDeadline_on_grid` that its deadlines stay on the grid.
-/

namespace HostVitals

/-- A running loop. -/
structure PollLoop where
  /-- The time between two passes, in nanoseconds. -/
  period : Nat
  /-- When the next pass is due. -/
  deadline : Nat
  period_pos : 0 < period

namespace PollLoop

/-- A deadline is late when it has passed by more than this; only then are periods
skipped. -/
def grace : Nat := 5 * millisecond

/-- Starts a loop, whose first pass is due at once. A period of zero is refused. -/
def start (period : Nat) (now : Nat) : Except IoFault PollLoop :=
  if h : 0 < period then .ok { period, deadline := now, period_pos := h }
  else .error .zeroPeriod

/-- The deadline that follows one which passed before `now`. -/
def nextDeadline (period : Nat) (deadline now : Nat) : Nat :=
  if deadline + grace < now then now + period - (now - deadline) % period
  else deadline + period

theorem lt_nextDeadline {period : Nat} (h : 0 < period) {deadline now : Nat}
    (due : deadline ≤ now) : deadline < nextDeadline period deadline now := by
  have := Nat.mod_lt (now - deadline) h
  unfold nextDeadline
  split <;> omega

/-- With a period longer than the grace the next deadline is in the future. -/
theorem lt_nextDeadline_of_grace_lt {period : Nat} (long : grace < period) (deadline now : Nat) :
    now < nextDeadline period deadline now := by
  have := Nat.mod_lt (now - deadline) (Nat.zero_lt_of_lt long)
  unfold nextDeadline
  split <;> omega

/-- Deadlines stay on the grid. -/
theorem nextDeadline_on_grid (period deadline now : Nat) :
    ∃ periods, nextDeadline period deadline now = deadline + periods * period := by
  unfold nextDeadline
  split
  · refine ⟨(now - deadline) / period + 1, ?_⟩
    have whole := Nat.div_add_mod (now - deadline) period
    rw [Nat.mul_comm] at whole
    have := Nat.mod_le (now - deadline) period
    rw [Nat.add_mul, Nat.one_mul]
    omega
  · exact ⟨1, by omega⟩

/-- The number of passes due at an instant, and the deadline after them, where `next`
gives the deadline that follows one which has passed. -/
def countDue (now : Nat) (next : Nat → Nat) (later : ∀ d, d ≤ now → d < next d)
    (deadline : Nat) : Nat × Nat :=
  if due : deadline ≤ now then
    let rest := countDue now next later (next deadline)
    (rest.1 + 1, rest.2)
  else (0, deadline)
termination_by now + 1 - deadline
decreasing_by
  have := later deadline due
  omega

/-- The number of passes due at an instant, and the loop after them. -/
def settle (loop : PollLoop) (now : Nat) : Nat × PollLoop :=
  let (passes, deadline) := countDue now (nextDeadline loop.period · now)
    (fun _ due => lt_nextDeadline loop.period_pos due) loop.deadline
  (passes, { loop with deadline })

theorem settle_of_lt {loop : PollLoop} {now : Nat} (early : now < loop.deadline) :
    loop.settle now = (0, loop) := by
  have : ¬loop.deadline ≤ now := by omega
  rw [settle, countDue]
  simp [this]

/-- A loop with a period longer than the grace makes one pass, however late it comes. -/
theorem settle_of_le {loop : PollLoop} {now : Nat} (long : grace < loop.period)
    (due : loop.deadline ≤ now) :
    loop.settle now =
      (1, { loop with deadline := nextDeadline loop.period loop.deadline now }) := by
  have after := lt_nextDeadline_of_grace_lt long loop.deadline now
  have stop : ¬nextDeadline loop.period loop.deadline now ≤ now := by omega
  rw [settle, countDue, dif_pos due, countDue, dif_neg stop]

/-- Makes a number of passes. -/
def passes {σ : Type} (pass : σ → Logged σ) : Nat → σ → Logged σ
  | 0, s => return s
  | n + 1, s => do passes pass n (← pass s)

/-- Makes the passes due at an instant. -/
def run {σ : Type} (pass : σ → Logged σ) (now : Nat) (loop : PollLoop) (s : σ) :
    Logged (σ × PollLoop) := do
  let (due, loop) := loop.settle now
  let s ← passes pass due s
  return (s, loop)

end PollLoop

end HostVitals
