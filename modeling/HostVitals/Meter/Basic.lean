import HostVitals.Meter.Average

/-!
# Rate meters

A meter counts events and keeps their average rate over one, five and fifteen
minutes. Ticks are not made when they fall due but all together when the meter is
next marked or looked at; `advance` makes those due at an instant, and
`advance_advance` says that it does not matter how often it is called on the way.
-/

namespace HostVitals

/-- A count of events and its moving averages. -/
structure Meter where
  /-- All events so far; it wraps at 64 bits. -/
  count : Int64
  start : Nat
  /-- The instant of the last tick made, or the start. -/
  lastTick : Nat
  one : Average
  five : Average
  fifteen : Average
  deriving DecidableEq

/-- A view of a meter; rates are events per second. -/
structure MeterSnapshot where
  count : Int64
  mean : Float
  one : Float
  five : Float
  fifteen : Float
  deriving DecidableEq

namespace Meter

/-- A meter without events. -/
def startingAt (start : Nat) : Meter where
  count := 0
  start := start
  lastTick := start
  one := .overMinutes 1.0
  five := .overMinutes 5.0
  fifteen := .overMinutes 15.0

/-- The number of ticks due after a time without one. It is kept in 32 bits. -/
def ticksDue (age : Nat) : Nat :=
  age / tickInterval % UInt32.size

/-- Makes the ticks due at an instant. A meter that has ticked since is left alone. -/
def advance (m : Meter) (now : Nat) : Meter :=
  let due := ticksDue (now - m.lastTick)
  { m with
    lastTick := m.lastTick + tickInterval * due
    one := m.one.ticks due
    five := m.five.ticks due
    fifteen := m.fifteen.ticks due }

/-- Records events at an instant. -/
def mark (m : Meter) (now : Nat) (n : Int64) : Meter :=
  let m := m.advance now
  { m with
    count := m.count + n
    one := m.one.mark n
    five := m.five.mark n
    fifteen := m.fifteen.mark n }

/-- A length of time in seconds: whole seconds, and a fraction added to them. -/
def seconds (length : Nat) : Float :=
  Float.ofNat (length / second) + Float.ofNat (length % second) / 1000000000.0

/-- The events per second since the start. -/
def meanRate (m : Meter) (now : Nat) : Float :=
  let elapsed := seconds (now - m.start)
  if 0.0 < elapsed then m.count.toFloat / elapsed else 0.0

/-- What an advanced meter shows at an instant. -/
def view (m : Meter) (now : Nat) : MeterSnapshot where
  count := m.count
  mean := m.meanRate now
  one := m.one.rate
  five := m.five.rate
  fifteen := m.fifteen.rate

/-- Looks at a meter, which makes the ticks due. -/
def snapshot (m : Meter) (now : Nat) : MeterSnapshot × Meter :=
  let m := m.advance now
  (m.view now, m)

theorem ticksDue_of_lt {age : Nat} (h : age < tickInterval) : ticksDue age = 0 := by
  simp [ticksDue, Nat.div_eq_of_lt h]

theorem advance_of_lt {m : Meter} {now : Nat} (h : now - m.lastTick < tickInterval) :
    m.advance now = m := by
  simp [advance, ticksDue_of_lt h, Average.ticks]

theorem ticksDue_eq {age : Nat} (bound : age < UInt32.size * tickInterval) :
    ticksDue age = age / tickInterval :=
  Nat.mod_eq_of_lt (Nat.div_lt_of_lt_mul (by rwa [Nat.mul_comm] at bound))

/-- Looking at a meter on the way makes no difference to the ticks made, as long as
fewer are due than 32 bits can count. -/
theorem advance_advance {m : Meter} {early late : Nat} (le : early ≤ late)
    (bound : late - m.lastTick < UInt32.size * tickInterval) :
    (m.advance early).advance late = m.advance late := by
  have pos : 0 < tickInterval := by decide
  have first : ticksDue (early - m.lastTick) = (early - m.lastTick) / tickInterval :=
    ticksDue_eq (by omega)
  have reached : tickInterval * ((early - m.lastTick) / tickInterval) ≤ early - m.lastTick :=
    Nat.mul_div_le _ _
  have whole : ticksDue (late - m.lastTick) = (early - m.lastTick) / tickInterval +
      ticksDue (late - (m.lastTick + tickInterval * ((early - m.lastTick) / tickInterval))) := by
    rw [ticksDue_eq bound, ticksDue_eq (by omega), Nat.sub_add_eq, Nat.sub_mul_div]
    have := Nat.div_le_div_right (c := tickInterval) (Nat.sub_le_sub_right le m.lastTick)
    omega
  simp only [advance, first, whole, Average.ticks_add, Nat.mul_add, Nat.add_assoc]

@[simp] theorem count_advance (m : Meter) (now : Nat) : (m.advance now).count = m.count := rfl

@[simp] theorem count_mark (m : Meter) (now : Nat) (n : Int64) :
    (m.mark now n).count = m.count + n := rfl

end Meter

end HostVitals
