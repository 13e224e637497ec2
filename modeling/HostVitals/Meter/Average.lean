import HostVitals.Host

/-!
# Moving averages

An exponentially weighted moving average of a rate of events. Events are gathered
in `pending` and taken into the rate once per tick: the first tick sets the rate,
and every later one moves it a fixed part of the way.

* `Average.mark`: events that wait for the next tick.
* `Average.tick`: one tick.
* `Average.ticks`: many ticks at once; `ticks_add` says that they compose.
-/

namespace HostVitals

/-- The time between two ticks. -/
def tickInterval : Nat := 5 * second

/-- The number of seconds between two ticks. -/
def tickSeconds : Float := 5.0

/-- The sum of two words, or the bound that it would pass. -/
def addClamped (a b : Int64) : Int64 :=
  Int64.ofIntClamp (a.toInt + b.toInt)

/-- A moving average of events per second. -/
structure Average where
  /-- The part of the way that one tick moves the rate. -/
  alpha : Float
  rate : Float
  /-- A tick has set the rate. -/
  started : Bool
  /-- Events since the last tick. -/
  pending : Int64
  deriving DecidableEq

namespace Average

/-- The average over a number of minutes, before any event. -/
def overMinutes (minutes : Float) : Average where
  alpha := 1.0 - Float.exp (-tickSeconds / 60.0 / minutes)
  rate := 0.0
  started := false
  pending := 0

/-- Adds events, which wait for the next tick. -/
def mark (a : Average) (n : Int64) : Average :=
  { a with pending := addClamped a.pending n }

/-- Takes the pending events into the rate. -/
def tick (a : Average) : Average :=
  let instant := a.pending.toFloat / tickSeconds
  { a with
    rate := if a.started then a.rate + a.alpha * (instant - a.rate) else instant
    started := true
    pending := 0 }

/-- Makes a number of ticks. An average that a tick does not change is not changed by
any number of them. -/
def ticks : Nat → Average → Average
  | 0, a => a
  | n + 1, a =>
    let next := a.tick
    if next = a then a else ticks n next

theorem ticks_of_tick_eq {a : Average} (h : a.tick = a) (n : Nat) : ticks n a = a := by
  cases n <;> simp [ticks, h]

theorem ticks_succ (n : Nat) (a : Average) : ticks (n + 1) a = ticks n a.tick := by
  by_cases h : a.tick = a
  · rw [ticks_of_tick_eq h, h, ticks_of_tick_eq h]
  · simp [ticks, h]

theorem ticks_add (m n : Nat) (a : Average) : ticks (m + n) a = ticks n (ticks m a) := by
  induction m generalizing a with
  | zero => simp [ticks]
  | succ m ih => rw [Nat.add_right_comm, ticks_succ, ticks_succ, ih]

end Average

end HostVitals
