import HostVitals.Meter.Basic

/-!
# Uses of a meter that leave no trace

Looking at a meter changes it: the ticks that are due are made. So does a mark of nothing. Yet
no later look can tell, wherever in a sequence of uses such idle ones are put in or taken out.

* `Use`: a mark or a look at an instant; `isIdle` singles out those that record nothing.
* `Edit`: two sequences of uses side by side, with what only one of them has.

`advance_uses_filter` says that idle uses can be left out of a sequence altogether, and
`snapshot_eq_of_idle_edits` compares what two sequences show.
-/

namespace HostVitals.Meter

/-! ## Sequences of uses -/

/-- A use of a meter. -/
inductive Use where
  | mark (instant : Nat) (amount : Int64)
  | snapshot (instant : Nat)
  deriving DecidableEq, Repr

namespace Use

def instant : Use → Nat
  | .mark instant _ => instant
  | .snapshot instant => instant

/-- The use records nothing. -/
def isIdle : Use → Bool
  | .mark _ amount => amount == 0
  | .snapshot _ => true

end Use

def use (m : Meter) : Use → Meter
  | .mark instant amount => m.mark instant amount
  | .snapshot instant => (m.snapshot instant).2

def uses (m : Meter) (us : List Use) : Meter :=
  us.foldl use m

/-- The clock does not go back from one use to the next. -/
def InOrder (us : List Use) : Prop :=
  us.Pairwise fun earlier later => earlier.instant ≤ later.instant

instance (us : List Use) : Decidable (InOrder us) :=
  inferInstanceAs (Decidable (List.Pairwise _ us))

/-- Fewer ticks than 32 bits can count fall between the last tick of a meter and an instant. -/
def InReach (m : Meter) (instant : Nat) : Prop :=
  instant - m.lastTick < UInt32.size * tickInterval

instance (m : Meter) (instant : Nat) : Decidable (m.InReach instant) :=
  inferInstanceAs (Decidable (_ < _))

theorem uses_cons (m : Meter) (u : Use) (us : List Use) :
    m.uses (u :: us) = (m.use u).uses us := rfl

/-! ## One idle use -/

theorem addClamped_zero (a : Int64) : addClamped a 0 = a := by
  rw [addClamped, Int64.toInt_zero, Int.add_zero, Int64.ofIntClamp_toInt]

theorem mark_zero (m : Meter) (now : Nat) : m.mark now 0 = m.advance now := by
  simp only [mark, Average.mark, addClamped_zero, Int64.add_zero]

theorem use_of_isIdle {u : Use} (idle : u.isIdle = true) (m : Meter) :
    m.use u = m.advance u.instant := by
  cases u with
  | mark instant amount =>
    have nothing : amount = 0 := by simpa [Use.isIdle] using idle
    rw [nothing]
    exact mark_zero m instant
  | snapshot instant => rfl

theorem lastTick_le_use (m : Meter) (u : Use) : m.lastTick ≤ (m.use u).lastTick := by
  cases u <;> exact Nat.le_add_right _ _

theorem InReach.use {m : Meter} {instant : Nat} (reach : m.InReach instant) (u : Use) :
    (m.use u).InReach instant :=
  Nat.lt_of_le_of_lt (Nat.sub_le_sub_left (lastTick_le_use m u) _) reach

theorem InReach.of_le {m : Meter} {early late : Nat} (reach : m.InReach late)
    (le : early ≤ late) : m.InReach early :=
  Nat.lt_of_le_of_lt (Nat.sub_le_sub_right le _) reach

/-- A use makes the ticks due itself, so it does not matter whether some were made before. -/
theorem use_advance {m : Meter} {early : Nat} {u : Use} (le : early ≤ u.instant)
    (reach : m.InReach u.instant) : (m.advance early).use u = m.use u := by
  cases u with
  | mark instant amount =>
    have same : (m.advance early).advance instant = m.advance instant := advance_advance le reach
    show (m.advance early).mark instant amount = m.mark instant amount
    rw [mark, same]
    rfl
  | snapshot instant => exact advance_advance le reach

/-- Ticks made before a sequence of uses make no difference after it. -/
theorem advance_uses_advance {m : Meter} {early late : Nat} {us : List Use}
    (after : ∀ u ∈ us, early ≤ u.instant) (before : ∀ u ∈ us, u.instant ≤ late)
    (le : early ≤ late) (reach : m.InReach late) :
    ((m.advance early).uses us).advance late = (m.uses us).advance late := by
  cases us with
  | nil => exact advance_advance le reach
  | cons u us =>
    have inReach := reach.of_le (before u List.mem_cons_self)
    rw [uses_cons, uses_cons, use_advance (after u List.mem_cons_self) inReach]

/-- Idle uses can be left out of a sequence. -/
theorem advance_uses_filter {m : Meter} {late : Nat} {us : List Use} (ordered : InOrder us)
    (before : ∀ u ∈ us, u.instant ≤ late) (reach : m.InReach late) :
    (m.uses us).advance late = (m.uses (us.filter fun u => !u.isIdle)).advance late := by
  induction us generalizing m with
  | nil => rfl
  | cons u us ih =>
    obtain ⟨after, ordered⟩ := List.pairwise_cons.1 ordered
    have beforeRest : ∀ v ∈ us, v.instant ≤ late := fun v mem =>
      before v (List.mem_cons_of_mem _ mem)
    rw [uses_cons, ih ordered beforeRest (reach.use u), List.filter_cons]
    cases idle : u.isIdle with
    | false => rfl
    | true =>
      -- What is left of the sequence starts with ticks that its next use makes anyway.
      rw [use_of_isIdle idle]
      exact advance_uses_advance (fun v mem => after v (List.mem_filter.1 mem).1)
        (fun v mem => beforeRest v (List.mem_filter.1 mem).1) (before u List.mem_cons_self) reach

/-! ## Two sequences side by side -/

/-- A use in two sequences: one that both have, or only the first, or only the second. -/
inductive Edit where
  | keep (use : Use)
  | delete (use : Use)
  | insert (use : Use)
  deriving DecidableEq, Repr

namespace Edit

def before? : Edit → Option Use
  | .keep use | .delete use => some use
  | .insert _ => none

def after? : Edit → Option Use
  | .keep use | .insert use => some use
  | .delete _ => none

/-- The sequences do not differ here, or in an idle use only. -/
def isIdle : Edit → Bool
  | .keep _ => true
  | .delete use | .insert use => use.isIdle

end Edit

/-- The first sequence. -/
def before (edits : List Edit) : List Use :=
  edits.filterMap Edit.before?

/-- The second sequence. -/
def after (edits : List Edit) : List Use :=
  edits.filterMap Edit.after?

theorem filter_before_eq_filter_after {edits : List Edit} (idle : ∀ e ∈ edits, e.isIdle = true) :
    (before edits).filter (fun u => !u.isIdle) = (after edits).filter fun u => !u.isIdle := by
  induction edits with
  | nil => rfl
  | cons e edits ih =>
    have same := ih fun e mem => idle e (List.mem_cons_of_mem _ mem)
    have here := idle e List.mem_cons_self
    cases e with
    | keep use =>
      show (use :: before edits).filter _ = (use :: after edits).filter _
      rw [List.filter_cons, List.filter_cons, same]
    | delete use =>
      have idleUse : use.isIdle = true := here
      show (use :: before edits).filter _ = (after edits).filter _
      rw [List.filter_cons, idleUse, same]
      rfl
    | insert use =>
      have idleUse : use.isIdle = true := here
      show (before edits).filter _ = (use :: after edits).filter _
      rw [List.filter_cons, idleUse, same]
      rfl

theorem InOrder.instant_le {front back : List Use} {u : Use}
    (ordered : InOrder (front ++ u :: back)) : ∀ v ∈ front, v.instant ≤ u.instant :=
  fun v mem => (List.pairwise_append.1 ordered).2.2 v mem u List.mem_cons_self

/-- The uses before a look that two sequences share leave a meter that shows the same there. -/
theorem advance_before_eq_advance_after {m : Meter} {front back : List Edit} {instant : Nat}
    (idle : ∀ e ∈ front, e.isIdle = true)
    (orderedBefore : InOrder (before (front ++ .keep (.snapshot instant) :: back)))
    (orderedAfter : InOrder (after (front ++ .keep (.snapshot instant) :: back)))
    (reach : m.InReach instant) :
    (m.uses (before front)).advance instant = (m.uses (after front)).advance instant := by
  rw [before, List.filterMap_append] at orderedBefore
  rw [after, List.filterMap_append] at orderedAfter
  have frontBefore : InOrder (before front) := (List.pairwise_append.1 orderedBefore).1
  have frontAfter : InOrder (after front) := (List.pairwise_append.1 orderedAfter).1
  have earlierBefore : ∀ v ∈ before front, v.instant ≤ instant := orderedBefore.instant_le
  have earlierAfter : ∀ v ∈ after front, v.instant ≤ instant := orderedAfter.instant_le
  rw [advance_uses_filter frontBefore earlierBefore reach,
    advance_uses_filter frontAfter earlierAfter reach, filter_before_eq_filter_after idle]

/-- Looking at a meter never disturbs it. Whatever state it is in, any number of looks and of
marks of nothing can be put into a sequence of uses or taken out of it, at any place, and every
other look shows what it showed: the same count, the same averages, and the same mean. For
ticks alone this says that those made on the way make no difference. -/
theorem snapshot_eq_of_idle_edits (m : Meter) {edits : List Edit}
    (idle : ∀ e ∈ edits, e.isIdle = true) (orderedBefore : InOrder (before edits))
    (orderedAfter : InOrder (after edits)) :
    (∀ front instant back, edits = front ++ .keep (.snapshot instant) :: back →
      m.InReach instant →
      ((m.uses (before front)).snapshot instant).1 =
        ((m.uses (after front)).snapshot instant).1) ∧
    ∀ early late, early ≤ late → m.InReach late →
      (m.advance early).advance late = m.advance late := by
  refine ⟨?_, fun early late le reach => advance_advance le reach⟩
  rintro front instant back rfl reach
  have frontIdle : ∀ e ∈ front, e.isIdle = true := fun e mem =>
    idle e (List.mem_append_left _ mem)
  have same := advance_before_eq_advance_after frontIdle orderedBefore orderedAfter reach
  show ((m.uses (before front)).advance instant).view instant = _
  rw [same]
  rfl

/-- Two marks and a look. The first sequence has another look, across a tick; the second has one
before that tick, and a mark of nothing after the next. -/
def idleEdits : List Edit :=
  [.keep (.mark 0 5), .insert (.snapshot (3 * second)), .keep (.mark (5 * second) 10),
    .delete (.snapshot (8 * second)), .insert (.mark (11 * second) 0),
    .keep (.snapshot (14 * second))]

/-- The look that both have shows the same in both. -/
theorem snapshot_eq_of_idle_edits_across_ticks :
    (((startingAt 0).uses
        [.mark 0 5, .mark (5 * second) 10, .snapshot (8 * second)]).snapshot (14 * second)).1 =
      (((startingAt 0).uses
        [.mark 0 5, .snapshot (3 * second), .mark (5 * second) 10,
          .mark (11 * second) 0]).snapshot (14 * second)).1 := by
  have idle : ∀ e ∈ idleEdits, e.isIdle = true := by decide +kernel
  have orderedBefore : InOrder (before idleEdits) := by decide +kernel
  have orderedAfter : InOrder (after idleEdits) := by decide +kernel
  have reach : (startingAt 0).InReach (14 * second) := by decide +kernel
  exact (snapshot_eq_of_idle_edits (startingAt 0) idle orderedBefore orderedAfter).1
    (idleEdits.take 5) (14 * second) [] rfl reach

end HostVitals.Meter
