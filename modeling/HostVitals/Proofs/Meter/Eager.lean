import HostVitals.Meter.Basic

/-!
# Lazy ticks against an eager reference

A meter makes its ticks late and in batches. The reference makes one tick for every window
of five seconds, at its end, with the marks that lie in it.

* `inWindow`, `windowSum`, `closedSums`: the windows after a start and what was marked in them.
* `eagerRate`, `eagerRates`: the rates after a tick for every window.
* `eager`: the meter of the reference, in a given window.

`advance_eager` and `mark_eager` say that the meter in use goes from one meter of the reference
to another, `marks_eager` that marks in order lead to the window of the last instant, and
`snapshot_eq_eager` compares what is shown.
-/

namespace HostVitals

/-- An amount marked at an instant. -/
structure Mark where
  instant : Nat
  amount : Int64
  deriving DecidableEq, Repr

/-! ## Windows -/

/-- The instant lies in the window `q` after a start: not before its first instant, and before
the first of the next. -/
def inWindow (start q instant : Nat) : Bool :=
  decide (start + q * tickInterval ≤ instant) && decide (instant < start + (q + 1) * tickInterval)

/-- What was marked in a window, added up from left to right. -/
def windowSum (start : Nat) (events : List Mark) (q : Nat) : Int64 :=
  ((events.filter fun e => inWindow start q e.instant).map (·.amount)).foldl addClamped 0

/-- What was marked in each of the first windows. -/
def closedSums (start : Nat) (events : List Mark) (closed : Nat) : List Int64 :=
  (List.range closed).map (windowSum start events)

/-- A window contains the instants that are as many whole ticks after the start. -/
theorem inWindow_iff {start q instant : Nat} (le : start ≤ instant) :
    inWindow start q instant = true ↔ (instant - start) / tickInterval = q := by
  have pos : 0 < tickInterval := by decide
  rw [inWindow, Bool.and_eq_true, decide_eq_true_iff, decide_eq_true_iff, Nat.div_eq_iff pos,
    Nat.add_mul]
  omega

theorem closedSums_succ (start : Nat) (events : List Mark) (q : Nat) :
    closedSums start events (q + 1) =
      closedSums start events q ++ [windowSum start events q] := by
  rw [closedSums, List.range_succ, List.map_append, List.map_singleton]
  rfl

/-- Nothing was marked in a window that begins after all marks. -/
theorem windowSum_of_lt {start q : Nat} {events : List Mark}
    (before : ∀ e ∈ events, e.instant < start + q * tickInterval) :
    windowSum start events q = 0 := by
  have none : events.filter (fun e => inWindow start q e.instant) = [] := by
    refine List.filter_eq_nil_iff.2 fun e mem => ?_
    have early := before e mem
    simp only [inWindow, Bool.and_eq_true, decide_eq_true_iff]
    omega
  rw [windowSum, none]
  rfl

theorem windowSum_concat (start : Nat) (events : List Mark) (e : Mark) (q : Nat) :
    windowSum start (events ++ [e]) q =
      if inWindow start q e.instant then addClamped (windowSum start events q) e.amount
      else windowSum start events q := by
  unfold windowSum
  rw [List.filter_append]
  cases inside : inWindow start q e.instant <;> simp [inside]

/-- A mark leaves the windows before its own as they are. -/
theorem closedSums_concat {start q : Nat} {e : Mark} (events : List Mark)
    (late : start + q * tickInterval ≤ e.instant) :
    closedSums start (events ++ [e]) q = closedSums start events q := by
  refine List.map_congr_left fun p mem => ?_
  have reached : (p + 1) * tickInterval ≤ q * tickInterval :=
    Nat.mul_le_mul_right _ (List.mem_range.1 mem)
  have outside : inWindow start p e.instant = false := by
    simp only [inWindow, Bool.and_eq_false_iff, decide_eq_false_iff_not]
    omega
  rw [windowSum_concat, outside]
  rfl

/-- Marks after the first windows leave their sums as they are. -/
theorem closedSums_filter (start : Nat) (events : List Mark) (closed : Nat) :
    closedSums start (events.filter fun e => e.instant < start + closed * tickInterval) closed =
      closedSums start events closed := by
  refine List.map_congr_left fun q mem => ?_
  have reached : (q + 1) * tickInterval ≤ closed * tickInterval :=
    Nat.mul_le_mul_right _ (List.mem_range.1 mem)
  unfold windowSum
  rw [List.filter_filter]
  refine congrArg (fun l : List Mark => (l.map (·.amount)).foldl addClamped 0)
    (List.filter_congr fun e _ => ?_)
  rw [Bool.eq_iff_iff]
  simp only [inWindow, Bool.and_eq_true, decide_eq_true_iff]
  omega

/-! ## The rates of the reference -/

/-- The part of the way that one tick moves an average over a number of minutes. -/
def smoothing (minutes : Float) : Float :=
  1.0 - Float.exp (-tickSeconds / 60.0 / minutes)

/-- The rate after one update for each sum: the first sets it, and every later one moves it
a part of the way. -/
def eagerRate (alpha : Float) : List Int64 → Float
  | [] => 0.0
  | first :: later =>
    later.foldl (fun rate sum => rate + alpha * (sum.toFloat / tickSeconds - rate))
      (first.toFloat / tickSeconds)

/-- The rates over one, five and fifteen minutes after the first windows. -/
def eagerRates (start : Nat) (events : List Mark) (closed : Nat) : Float × Float × Float :=
  let sums := closedSums start events closed
  (eagerRate (smoothing 1.0) sums, eagerRate (smoothing 5.0) sums,
    eagerRate (smoothing 15.0) sums)

/-- The rates that a snapshot shows. -/
def MeterSnapshot.rates (shown : MeterSnapshot) : Float × Float × Float :=
  (shown.one, shown.five, shown.fifteen)

namespace Average

/-- An average that has taken some sums, with marks that wait for the next tick. -/
def settled (alpha : Float) (sums : List Int64) (pending : Int64) : Average where
  alpha := alpha
  rate := eagerRate alpha sums
  started := !sums.isEmpty
  pending := pending

theorem tick_settled (alpha : Float) (sums : List Int64) (pending : Int64) :
    (settled alpha sums pending).tick = settled alpha (sums ++ [pending]) 0 := by
  cases sums with
  | nil => rfl
  | cons first later =>
    simp only [settled, tick, eagerRate, List.cons_append, List.foldl_append, List.foldl_cons,
      List.foldl_nil, List.isEmpty_cons, Bool.not_false, if_true]

/-- Ticks close one window each, if the marks all lie in the first of them or before. -/
theorem ticks_settled {start q : Nat} {events : List Mark} (alpha : Float)
    (before : ∀ e ∈ events, e.instant < start + (q + 1) * tickInterval) (n : Nat) :
    (settled alpha (closedSums start events q) (windowSum start events q)).ticks n =
      settled alpha (closedSums start events (q + n)) (windowSum start events (q + n)) := by
  induction n generalizing q with
  | zero => rfl
  | succ n ih =>
    -- After the first tick nothing is pending, and nothing was marked in the next window.
    have later : ∀ e ∈ events, e.instant < start + (q + 1 + 1) * tickInterval := by
      intro e mem
      have early := before e mem
      rw [Nat.add_mul (q + 1)]
      omega
    rw [ticks_succ, tick_settled, ← closedSums_succ, ← windowSum_of_lt before, ih later,
      Nat.add_right_comm, Nat.add_assoc]

end Average

/-! ## The meter of the reference -/

namespace Meter

/-- Takes marks, one after the other. -/
def marks (m : Meter) (events : List Mark) : Meter :=
  events.foldl (fun m e => m.mark e.instant e.amount) m

/-- The sum of all marks. -/
def total : List Mark → Int
  | [] => 0
  | e :: events => e.amount.toInt + total events

/-- The meter of the reference in the window `q`: every window before it has had its tick, and
what was marked in it waits. -/
def eager (start : Nat) (events : List Mark) (q : Nat) : Meter where
  count := Int64.ofInt (total events)
  start := start
  lastTick := start + q * tickInterval
  one := .settled (smoothing 1.0) (closedSums start events q) (windowSum start events q)
  five := .settled (smoothing 5.0) (closedSums start events q) (windowSum start events q)
  fifteen := .settled (smoothing 15.0) (closedSums start events q) (windowSum start events q)

theorem startingAt_eq_eager (start : Nat) : startingAt start = eager start [] 0 := by
  rw [eager, Nat.zero_mul]
  rfl

theorem total_concat (events : List Mark) (e : Mark) :
    total (events ++ [e]) = total events + e.amount.toInt := by
  induction events with
  | nil => simp [total]
  | cons first events ih => rw [List.cons_append, total, ih, total, Int.add_assoc]

/-- Advancing leads to the window of the instant. -/
theorem advance_eager {start now q : Nat} {events : List Mark}
    (before : ∀ e ∈ events, e.instant < start + (q + 1) * tickInterval)
    (reached : q ≤ (now - start) / tickInterval)
    (bound : (now - start) / tickInterval < UInt32.size) :
    (eager start events q).advance now = eager start events ((now - start) / tickInterval) := by
  have due : ticksDue (now - (start + q * tickInterval)) =
      (now - start) / tickInterval - q := by
    rw [ticksDue, Nat.sub_add_eq, Nat.mul_comm q, Nat.sub_mul_div]
    exact Nat.mod_eq_of_lt (Nat.lt_of_le_of_lt (Nat.sub_le _ _) bound)
  -- The windows from `q` to that of the instant are closed by one tick each.
  obtain ⟨n, window⟩ := Nat.exists_eq_add_of_le reached
  rw [window, Nat.add_sub_cancel_left] at due
  rw [window]
  simp only [advance, eager, due, Average.ticks_settled _ before, Nat.add_mul, Nat.add_assoc,
    Nat.mul_comm tickInterval]

/-- A mark waits in the window of its instant. -/
theorem mark_eager {start q : Nat} {events : List Mark} {e : Mark}
    (before : ∀ f ∈ events, f.instant < start + (q + 1) * tickInterval)
    (le : start ≤ e.instant) (reached : q ≤ (e.instant - start) / tickInterval)
    (bound : (e.instant - start) / tickInterval < UInt32.size) :
    (eager start events q).mark e.instant e.amount =
      eager start (events ++ [e]) ((e.instant - start) / tickInterval) := by
  have inside := (inWindow_iff le).2 rfl
  have begun : start + (e.instant - start) / tickInterval * tickInterval ≤ e.instant := by
    have := Nat.div_mul_le_self (e.instant - start) tickInterval
    omega
  rw [mark, advance_eager before reached bound]
  simp only [eager, Average.mark, Average.settled, total_concat, Int64.ofInt_add,
    Int64.ofInt_toInt, windowSum_concat, inside, if_true, closedSums_concat events begun]

/-- Marks in order, and the ticks due afterwards, lead to the window of the last instant. -/
theorem marks_eager {start now q : Nat} {done rest : List Mark}
    (before : ∀ f ∈ done, f.instant < start + (q + 1) * tickInterval)
    (ordered : ((start + q * tickInterval) :: (rest.map (·.instant) ++ [now])).Pairwise (· ≤ ·))
    (bound : (now - start) / tickInterval < UInt32.size) :
    ((eager start done q).marks rest).advance now =
      eager start (done ++ rest) ((now - start) / tickInterval) := by
  have pos : 0 < tickInterval := by decide
  induction rest generalizing done q with
  | nil =>
    have reached : start + q * tickInterval ≤ now := by simpa using ordered
    rw [List.append_nil]
    exact advance_eager before ((Nat.le_div_iff_mul_le pos).2 (by omega)) bound
  | cons e rest ih =>
    simp only [List.map_cons, List.cons_append] at ordered
    obtain ⟨least, ordered⟩ := List.pairwise_cons.1 ordered
    obtain ⟨later, _⟩ := List.pairwise_cons.1 ordered
    have reached : start + q * tickInterval ≤ e.instant := least _ List.mem_cons_self
    have le : e.instant ≤ now := later now (by simp)
    have window : q ≤ (e.instant - start) / tickInterval :=
      (Nat.le_div_iff_mul_le pos).2 (by omega)
    have small : (e.instant - start) / tickInterval < UInt32.size :=
      Nat.lt_of_le_of_lt (Nat.div_le_div_right (Nat.sub_le_sub_right le start)) bound
    have begun := Nat.div_mul_le_self (e.instant - start) tickInterval
    have ends := Nat.lt_div_mul_add (a := e.instant - start) pos
    have further := Nat.mul_le_mul_right tickInterval window
    show (((eager start done q).mark e.instant e.amount).marks rest).advance now = _
    rw [mark_eager before (by omega) window small, ih (q := (e.instant - start) / tickInterval),
      List.append_assoc, List.singleton_append]
    · -- The marks so far lie before the end of the new window.
      intro f mem
      rw [Nat.add_mul]
      rcases List.mem_append.1 mem with old | new
      · have early := before f old
        rw [Nat.add_mul] at early
        omega
      · rw [List.mem_singleton.1 new]
        omega
    · refine List.pairwise_cons.2 ⟨fun t mem => ?_, (List.pairwise_cons.1 ordered).2⟩
      have order := later t mem
      omega

/-- A meter that is advanced after its marks is the one of the reference. -/
theorem advance_marks {start now : Nat} {events : List Mark}
    (ordered : (start :: (events.map (·.instant) ++ [now])).Pairwise (· ≤ ·))
    (bound : (now - start) / tickInterval < UInt32.size) :
    ((startingAt start).marks events).advance now =
      eager start events ((now - start) / tickInterval) := by
  rw [startingAt_eq_eager]
  exact marks_eager (fun f mem => absurd mem List.not_mem_nil)
    (by rwa [Nat.zero_mul, Nat.add_zero]) bound

/-- A snapshot after the marks shows the reference. -/
theorem snapshot_marks {start now : Nat} {events : List Mark}
    (ordered : (start :: (events.map (·.instant) ++ [now])).Pairwise (· ≤ ·))
    (bound : (now - start) / tickInterval < UInt32.size) :
    (((startingAt start).marks events).snapshot now).1 =
      (eager start events ((now - start) / tickInterval)).view now := by
  rw [snapshot, advance_marks ordered bound]

theorem rates_view_eager (start : Nat) (events : List Mark) (q now : Nat) :
    ((eager start events q).view now).rates = eagerRates start events q := rfl

/-- A meter that ticks late shows what the reference shows. Whatever is marked in order, however
long the gaps, the count is the sum of the marks as a 64-bit word, and the rates are those
after one update for every window that has closed since the start. A mark on a boundary
belongs to the later window, and the marks in the window that is still open leave the rates
alone. -/
theorem snapshot_eq_eager {start now : Nat} {events : List Mark}
    (ordered : (start :: (events.map (·.instant) ++ [now])).Pairwise (· ≤ ·))
    (bound : (now - start) / tickInterval < UInt32.size) :
    let closed := (now - start) / tickInterval
    let early := events.filter fun e => e.instant < start + closed * tickInterval
    let shown := (((startingAt start).marks events).snapshot now).1
    shown.count = Int64.ofInt (total events) ∧
    shown.rates = eagerRates start events closed ∧
    shown.rates = (((startingAt start).marks early).snapshot now).1.rates ∧
    (closed = 0 → shown.rates = (0.0, 0.0, 0.0)) := by
  intro closed early shown
  have whole : shown = (eager start events closed).view now := snapshot_marks ordered bound
  have kept : (start :: (early.map (·.instant) ++ [now])).Sublist
      (start :: (events.map (·.instant) ++ [now])) :=
    ((List.filter_sublist.map _).append_right _).cons_cons _
  have unaffected : eagerRates start early closed = eagerRates start events closed := by
    rw [eagerRates, closedSums_filter]
    rfl
  rw [whole, snapshot_marks (ordered.sublist kept) bound]
  refine ⟨rfl, rates_view_eager start events closed now, ?_, fun none => ?_⟩
  · exact unaffected.symm
  · rw [none]
    rfl

/-- A mark at the start, one on the first boundary, and one in the window that is still open. -/
def boundaryEvents : List Mark :=
  [⟨0, 5⟩, ⟨5 * second, 10⟩, ⟨12 * second, 1⟩]

/-- The mark on the boundary makes up the second window, and the last one only counts. -/
theorem snapshot_eq_eager_boundary :
    let shown := (((startingAt 0).marks boundaryEvents).snapshot (14 * second)).1
    shown.count = 16 ∧
    shown.rates = (eagerRate (smoothing 1.0) [5, 10], eagerRate (smoothing 5.0) [5, 10],
      eagerRate (smoothing 15.0) [5, 10]) := by
  intro shown
  have ordered : (0 :: (boundaryEvents.map (·.instant) ++ [14 * second])).Pairwise (· ≤ ·) := by
    decide +kernel
  have bound : (14 * second - 0) / tickInterval < UInt32.size := by decide +kernel
  obtain ⟨count, rates, _⟩ := snapshot_eq_eager ordered bound
  have sums : closedSums 0 boundaryEvents ((14 * second - 0) / tickInterval) = [5, 10] := by
    decide +kernel
  refine ⟨count.trans (by decide +kernel), ?_⟩
  rw [eagerRates, sums] at rates
  exact rates

end Meter

end HostVitals
