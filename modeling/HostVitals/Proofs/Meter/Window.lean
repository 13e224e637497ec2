import HostVitals.Counter
import HostVitals.Proofs.Meter.Clock
import HostVitals.Proofs.Meter.Eager

/-!
# Marks in one window

Several threads that mark a meter in one window may get hold of it in any order. Whoever is first
makes the ticks that are due, and the order of the marks does not show, as long as none of them
is negative: a sum that has reached the greatest word stays there.

* `gathered`: what waits in a meter after some amounts, without any tick.

`ticksDue_of_sameWindow` says that the ticks due in a window are made at once,
`marks_of_entered` what the marks of a window come to once it was entered, and
`marks_in_window_commute` compares the orders.
-/

namespace HostVitals

/-! ## Sums that stop at the greatest word -/

/-- Adding what is not negative stops at the greatest word only. -/
theorem toInt_addClamped_of_nonneg (a : Int64) {b : Int64} (nonneg : 0 ≤ b) :
    (addClamped a b).toInt = min (maxMark : Int) (a.toInt + b.toInt) := by
  have least := a.minValue_le_toInt
  have greatest : Int64.maxValue.toInt = maxMark := by decide
  have positive : 0 ≤ b.toInt := Int64.le_iff_toInt_le.1 nonneg
  rw [addClamped]
  by_cases fits : a.toInt + b.toInt ≤ Int64.maxValue.toInt
  · rw [Int64.toInt_ofIntClamp (by omega) fits]
    omega
  · rw [Int64.ofIntClamp, dif_pos (by omega), dif_neg fits]
    omega

/-- What a kernel counter gives to be marked is never negative. -/
theorem ofNat_nonneg {n : Nat} (le : n ≤ maxMark) : 0 ≤ Int64.ofNat n := by
  have small : n < 2 ^ 63 := Nat.lt_of_le_of_lt le (by decide)
  exact (Int64.ofNat_le_iff_le (by decide) small).2 (Nat.zero_le n)

theorem increase?_le {prev curr n : Nat} (grown : increase? prev curr = some n) :
    n ≤ maxMark := by
  rw [increase?] at grown
  split at grown
  · cases grown
  · cases grown
    exact Nat.min_le_right _ _

namespace Meter

theorem total_nonneg {events : List Mark} (nonneg : ∀ e ∈ events, 0 ≤ e.amount) :
    0 ≤ total events := by
  induction events with
  | nil => exact Int.le_refl 0
  | cons e events ih =>
    obtain ⟨first, later⟩ := List.forall_mem_cons.1 nonneg
    have here : 0 ≤ e.amount.toInt := Int64.le_iff_toInt_le.1 first
    have rest := ih later
    rw [total]
    omega

theorem total_of_perm {order events : List Mark} (perm : order.Perm events) :
    total order = total events := by
  induction perm with
  | nil => rfl
  | cons e _ ih => rw [total, ih, total]
  | swap e f rest =>
    simp only [total]
    omega
  | trans _ _ first second => exact first.trans second

end Meter

namespace Average

/-- An average in which more waits for the next tick, up to the greatest word. -/
def gathered (a : Average) (sum : Int) : Average :=
  { a with pending := .ofInt (min (maxMark : Int) (a.pending.toInt + sum)) }

theorem gathered_zero (a : Average) : a.gathered 0 = a := by
  have greatest : Int64.maxValue.toInt = maxMark := by decide
  have fits : a.pending.toInt ≤ maxMark := greatest ▸ a.pending.toInt_le
  rw [gathered, Int.add_zero, Int.min_eq_right fits, Int64.ofInt_toInt]

/-- What is stopped on the way is stopped in the end. -/
theorem gathered_mark (a : Average) {n : Int64} {sum : Int} (first : 0 ≤ n) (later : 0 ≤ sum) :
    (a.mark n).gathered sum = a.gathered (n.toInt + sum) := by
  have stopped : min (maxMark : Int) (min (maxMark : Int) (a.pending.toInt + n.toInt) + sum) =
      min (maxMark : Int) (a.pending.toInt + (n.toInt + sum)) := by omega
  simp only [gathered, mark, toInt_addClamped_of_nonneg _ first, stopped]

theorem toInt_pending_gathered (a : Average) {sum : Int} (nonneg : 0 ≤ sum) :
    (a.gathered sum).pending.toInt = min (maxMark : Int) (a.pending.toInt + sum) := by
  have least := a.pending.le_toInt
  have bound : (maxMark : Int) < 2 ^ 63 := by decide
  exact Int64.toInt_ofInt_of_le (by omega) (by omega)

end Average

namespace Meter

variable {m : Meter}

/-! ## One window -/

/-- The ticks that are due at one instant of a window are due at every other, and once they are
made no more are due. That holds even where the 32 bits do not suffice to count them. -/
theorem ticksDue_of_sameWindow {early late : Nat}
    (same : (early - m.lastTick) / tickInterval = (late - m.lastTick) / tickInterval) :
    m.advance early = m.advance late ∧ ticksDue (late - (m.advance early).lastTick) = 0 := by
  constructor
  · rw [advance, advance, ticksDue, same, ticksDue]
  · show ticksDue (late - (m.lastTick + tickInterval * ticksDue (early - m.lastTick))) = 0
    rw [ticksDue, Nat.sub_add_eq, Nat.sub_mul_div, ticksDue, same]
    exact Nat.sub_mod_eq_zero_of_mod_eq (Nat.mod_mod _ _).symm

theorem advance_of_ticksDue_eq {now : Nat} (none : ticksDue (now - m.lastTick) = 0) :
    m.advance now = m := by
  simp [advance, none, Average.ticks]

/-- A meter in which more was counted, and waits for the next tick. -/
def gathered (m : Meter) (sum : Int) : Meter :=
  { m with
    count := m.count + Int64.ofInt sum
    one := m.one.gathered sum
    five := m.five.gathered sum
    fifteen := m.fifteen.gathered sum }

theorem gathered_zero (m : Meter) : m.gathered 0 = m := by
  have none : m.count + Int64.ofInt 0 = m.count := Int64.add_zero m.count
  simp only [gathered, Average.gathered_zero, none]

/-- In a window that was entered a mark only adds to what waits. -/
theorem gathered_mark_of_entered {e : Mark} {sum : Int}
    (entered : ticksDue (e.instant - m.lastTick) = 0) (first : 0 ≤ e.amount) (later : 0 ≤ sum) :
    (m.mark e.instant e.amount).gathered sum = m.gathered (e.amount.toInt + sum) := by
  rw [mark, advance_of_ticksDue_eq entered]
  simp only [gathered, Average.gathered_mark _ first later, Int64.ofInt_add, Int64.ofInt_toInt,
    Int64.add_assoc]

/-- What the marks of a window come to, once it was entered. -/
theorem marks_of_entered {events : List Mark}
    (entered : ∀ e ∈ events, ticksDue (e.instant - m.lastTick) = 0)
    (nonneg : ∀ e ∈ events, 0 ≤ e.amount) : m.marks events = m.gathered (total events) := by
  induction events generalizing m with
  | nil => exact (gathered_zero m).symm
  | cons e events ih =>
    obtain ⟨now, soon⟩ := List.forall_mem_cons.1 entered
    obtain ⟨first, later⟩ := List.forall_mem_cons.1 nonneg
    have tick : (m.mark e.instant e.amount).lastTick = m.lastTick := by
      rw [mark, advance_of_ticksDue_eq now]
    show (m.mark e.instant e.amount).marks events = _
    rw [ih (by rwa [tick]) later, gathered_mark_of_entered now first (total_nonneg later), total]

/-- Whichever mark of a window comes first enters it, and the rest only adds to what waits. -/
theorem exists_marks_eq_gathered {events : List Mark}
    (together : ∀ e ∈ events, ∀ f ∈ events,
      (e.instant - m.lastTick) / tickInterval = (f.instant - m.lastTick) / tickInterval)
    (nonneg : ∀ e ∈ events, 0 ≤ e.amount) :
    ∃ entered, (∀ e ∈ events, m.advance e.instant = entered) ∧ (events = [] → entered = m) ∧
      ∀ order : List Mark, order.Perm events → m.marks order = entered.gathered (total events) := by
  cases events with
  | nil =>
    refine ⟨m, nofun, fun _ => rfl, fun order perm => ?_⟩
    rw [perm.eq_nil]
    exact (gathered_zero m).symm
  | cons e rest =>
    refine ⟨m.advance e.instant, fun f mem => ?_, nofun, fun order perm => ?_⟩
    · exact (ticksDue_of_sameWindow (together f mem e List.mem_cons_self)).1
    · have within : ∀ f ∈ order, ticksDue (f.instant - (m.advance e.instant).lastTick) = 0 :=
        fun f mem =>
          (ticksDue_of_sameWindow (together e List.mem_cons_self f (perm.mem_iff.1 mem))).2
      have amounts : ∀ f ∈ order, 0 ≤ f.amount := fun f mem => nonneg f (perm.mem_iff.1 mem)
      -- The ticks made by the first mark of the order may as well be made before it.
      have first : m.marks order = (m.advance e.instant).marks order := by
        cases order with
        | nil => exact absurd perm.symm.eq_nil (List.cons_ne_nil e rest)
        | cons f order =>
          have same := (ticksDue_of_sameWindow (together f (perm.mem_iff.1 List.mem_cons_self) e
            List.mem_cons_self)).1
          have still := advance_of_ticksDue_eq (within f List.mem_cons_self)
          show (m.mark f.instant f.amount).marks order =
            ((m.advance e.instant).mark f.instant f.amount).marks order
          rw [mark, mark, still, same]
      rw [first, marks_of_entered within amounts, total_of_perm perm]

/-! ## Windows of the grid -/

/-- Ticks are made on the grid of intervals after the start, however many are made. -/
theorem lastTick_uses (m : Meter) (us : List Use) :
    ∃ ticks, (m.uses us).lastTick = m.lastTick + ticks * tickInterval := by
  induction us generalizing m with
  | nil => exact ⟨0, by rw [Nat.zero_mul]; rfl⟩
  | cons u us ih =>
    have one : (m.use u).lastTick =
        m.lastTick + ticksDue (u.instant - m.lastTick) * tickInterval := by
      rw [Nat.mul_comm]
      cases u <;> rfl
    obtain ⟨later, after⟩ := ih (m.use u)
    exact ⟨ticksDue (u.instant - m.lastTick) + later,
      by rw [uses_cons, after, one, Nat.add_mul, Nat.add_assoc]⟩

/-- An instant after the last tick lies as many windows after it as after the start, less those
that were left before. -/
theorem window_since_lastTick {start q ticks instant : Nat}
    (tick : m.lastTick = start + ticks * tickInterval) (later : m.lastTick ≤ instant)
    (within : inWindow start q instant = true) :
    (instant - m.lastTick) / tickInterval = q - ticks := by
  have since : start ≤ instant := Nat.le_trans (tick ▸ Nat.le_add_right _ _) later
  rw [tick, Nat.sub_add_eq, Nat.mul_comm, Nat.sub_mul_div, (inWindow_iff since).1 within]

/-- Marks in one window commute. A meter that was used in any way is marked with amounts that are
not negative, as those of kernel counters are, at instants after its last tick and in one window
of its grid. Whatever their order is, the meter is the same after them: the ticks are those that
each of the marks would have made as the first, the count has grown by their sum as a 64-bit word,
and in all three averages the rate is that with which the window was entered, and what waits is
what waited then and the sum of the marks, or the greatest word. -/
theorem marks_in_window_commute {start q : Nat} {us : List Use} {events : List Mark}
    (later : ∀ e ∈ events, ((startingAt start).uses us).lastTick ≤ e.instant)
    (within : ∀ e ∈ events, inWindow start q e.instant = true)
    (nonneg : ∀ e ∈ events, 0 ≤ e.amount) :
    let m := (startingAt start).uses us
    (∃ entered, (∀ e ∈ events, m.advance e.instant = entered) ∧ (events = [] → entered = m) ∧
      ∀ order : List Mark, order.Perm events →
        let after := m.marks order
        after = m.marks events ∧
        after.count = m.count + Int64.ofInt (total events) ∧
        after.lastTick = entered.lastTick ∧
        after.averages.map (·.rate) = entered.averages.map (·.rate) ∧
        after.averages.map (·.pending.toInt) =
          entered.averages.map fun a => min (maxMark : Int) (a.pending.toInt + total events)) ∧
    ∀ prev curr n, increase? prev curr = some n →
      0 ≤ Int64.ofNat n ∧ ∀ size, 0 ≤ Int64.ofNat (scaled n size) := by
  intro m
  obtain ⟨ticks, tick⟩ := lastTick_uses (startingAt start) us
  have together : ∀ e ∈ events, ∀ f ∈ events,
      (e.instant - m.lastTick) / tickInterval = (f.instant - m.lastTick) / tickInterval := by
    intro e one f two
    rw [window_since_lastTick tick (later e one) (within e one),
      window_since_lastTick tick (later f two) (within f two)]
  obtain ⟨entered, enters, untouched, orders⟩ := exists_marks_eq_gathered together nonneg
  refine ⟨⟨entered, enters, untouched, fun order perm => ?_⟩, fun prev curr n grown => ?_⟩
  · have sum := total_nonneg nonneg
    have count : entered.count = m.count := by
      cases events with
      | nil => rw [untouched rfl]
      | cons e rest => rw [← enters e List.mem_cons_self, count_advance]
    refine ⟨(orders order perm).trans (orders events (.refl _)).symm, ?_⟩
    rw [orders order perm]
    refine ⟨congrArg (· + Int64.ofInt (total events)) count, rfl, rfl, ?_⟩
    simp only [averages, gathered, List.map_cons, List.map_nil,
      Average.toInt_pending_gathered _ sum]
  · exact ⟨ofNat_nonneg (increase?_le grown), fun size => ofNat_nonneg (Nat.min_le_right _ _)⟩

/-- A mark of the greatest word, and a small one that comes before it or after it. -/
def crowdedMarks : List Mark :=
  [⟨7 * second, Int64.maxValue⟩, ⟨6 * second, 3⟩]

/-- The count wraps and what waits stops, in both orders. -/
theorem marks_in_window_commute_stopped :
    let m := (startingAt 0).uses [.mark (2 * second) 9]
    let after := m.marks crowdedMarks
    m.marks crowdedMarks.reverse = after ∧ after.count = Int64.minValue + 11 ∧
    after.lastTick = 5 * second ∧
    after.averages.map (·.pending.toInt) = [(maxMark : Int), maxMark, maxMark] := by
  intro m after
  have later : ∀ e ∈ crowdedMarks, m.lastTick ≤ e.instant := by decide +kernel
  have within : ∀ e ∈ crowdedMarks, inWindow 0 1 e.instant = true := by decide +kernel
  have nonneg : ∀ e ∈ crowdedMarks, 0 ≤ e.amount := by decide +kernel
  obtain ⟨⟨entered, enters, _, orders⟩, _⟩ := marks_in_window_commute later within nonneg
  obtain ⟨_, count, tick, _, pending⟩ := orders crowdedMarks (.refl _)
  have first : m.advance (7 * second) = entered := enters _ List.mem_cons_self
  have due : ticksDue (7 * second - m.lastTick) = 1 := by decide +kernel
  refine ⟨(orders _ (List.reverse_perm _)).1, count.trans (by decide +kernel), ?_, ?_⟩
  · rw [tick, ← first, advance, due]
    decide +kernel
  · rw [pending, ← first]
    simp only [averages, advance, due, List.map_cons, List.map_nil, Average.pending_ticks]
    decide +kernel

end Meter

end HostVitals
