import HostVitals.Counter

/-!
# Gains of a counter

What successive readings of a kernel counter amount to, said without the meters that are
marked on the way: the sum of the increases, where a step backwards counts nothing and no
step counts more than can be marked at once.

* `gain`, `gains`: what one reading and what many add.
* `Tally`: the count of a meter beside the value from which it counts on.

`gains_of_monotone` says that nothing is lost or counted twice while a counter grows, and
`Tally.accounts_foldl_take` that a tally over many readings holds their gains and the last of
them.
-/

namespace HostVitals

/-- What a reading adds to a count in units of `size`: the increase times the size, no
more than can be marked at once, and nothing if the counter went backwards. -/
def gain (size prev curr : Nat) : Nat :=
  if curr < prev then 0 else min ((curr - prev) * size) maxMark

/-- What successive readings add, after one of `prev`. -/
def gains (size prev : Nat) : List Nat → Nat
  | [] => 0
  | curr :: rest => gain size prev curr + gains size curr rest

theorem gain_of_lt {size prev curr : Nat} (h : curr < prev) : gain size prev curr = 0 :=
  if_pos h

theorem gain_of_le {size prev curr : Nat} (h : prev ≤ curr) :
    gain size prev curr = min ((curr - prev) * size) maxMark :=
  if_neg (Nat.not_lt.2 h)

/-- In units of no size nothing is ever counted. -/
theorem gains_size_zero (prev : Nat) (readings : List Nat) : gains 0 prev readings = 0 := by
  induction readings generalizing prev with
  | nil => rfl
  | cons curr rest ih => rw [gains, ih, gain, Nat.mul_zero, Nat.zero_min, ite_self]

theorem getLastD_map {α β : Type} (f : α → β) (a : α) (l : List α) :
    (l.map f).getLastD (f a) = f (l.getLastD a) := by
  rw [List.getLastD_eq_getLast?, List.getLastD_eq_getLast?, List.getLast?_map]
  cases l.getLast? <;> rfl

/-- A counter that never goes backwards ends no lower than it began. -/
theorem le_getLastD {prev : Nat} {readings : List Nat}
    (grows : (prev :: readings).Pairwise (· ≤ ·)) : prev ≤ readings.getLastD prev := by
  cases h : readings.getLast? with
  | none => simp [h]
  | some last =>
    simpa [h] using (List.pairwise_cons.1 grows).1 last (List.mem_of_getLast? h)

/-- While a counter never goes backwards and grows by no more than can be marked at once,
its gains are the whole increase. -/
theorem gains_of_monotone {size prev : Nat} {readings : List Nat}
    (grows : (prev :: readings).Pairwise (· ≤ ·))
    (fits : (readings.getLastD prev - prev) * size ≤ maxMark) :
    gains size prev readings = (readings.getLastD prev - prev) * size := by
  induction readings generalizing prev with
  | nil => simp [gains]
  | cons curr rest ih =>
    obtain ⟨least, later⟩ := List.pairwise_cons.1 grows
    have step : prev ≤ curr := least curr List.mem_cons_self
    have tail : curr ≤ rest.getLastD curr := le_getLastD later
    rw [List.getLastD_cons] at fits ⊢
    -- The whole increase is that of the first step and that of the rest.
    have whole : rest.getLastD curr - prev = (curr - prev) + (rest.getLastD curr - curr) := by
      omega
    rw [whole, Nat.add_mul] at fits ⊢
    rw [gains, gain_of_le step, ih later (by omega), Nat.min_eq_left (by omega)]

/-- Marking an increase marks what the reading adds. -/
theorem increase?_eq (prev curr : Nat) :
    increase? prev curr = if curr < prev then none else some (gain 1 prev curr) := by
  unfold increase?
  split
  · rfl
  · next h => rw [gain_of_le (Nat.not_lt.1 h), Nat.mul_one]

/-- Capping an increase first and its product with a size afterwards caps the exact
product once. -/
theorem scaled_increase (size d : Nat) : scaled (min d maxMark) size = min (d * size) maxMark := by
  unfold scaled
  rcases Nat.eq_zero_or_pos size with rfl | pos
  · simp
  · rcases Nat.le_total d maxMark with small | large
    · rw [Nat.min_eq_left small]
      -- An increase that is capped stays at the cap when it is multiplied.
    · have reached : maxMark ≤ maxMark * size := Nat.le_mul_of_pos_right _ pos
      rw [Nat.min_eq_right large, Nat.min_eq_right reached,
        Nat.min_eq_right (Nat.le_trans reached (Nat.mul_le_mul_right size large))]

/-! ## Tallies -/

/-- The count of a meter, and the reading from which it counts on. -/
structure Tally where
  count : Int64
  baseline : Nat

namespace Tally

/-- Takes a reading in units of `size`. -/
def take (size : Nat) (t : Tally) (reading : Nat) : Tally where
  count := t.count + Int64.ofNat (gain size t.baseline reading)
  baseline := reading

/-- A reading that is taken again adds nothing. -/
theorem take_take (size : Nat) (t : Tally) (reading : Nat) :
    (t.take size reading).take size reading = t.take size reading := by
  have none : gain size reading reading = 0 := by
    rw [gain_of_le (Nat.le_refl _), Nat.sub_self, Nat.zero_mul, Nat.zero_min]
  simp [take, none]

/-- The tally holds what readings amount to that began with `start`: their gains, as a
64-bit word, and the last of them. -/
structure Accounts (size : Nat) (t : Tally) (start : Nat) (readings : List Nat) : Prop where
  count : t.count = Int64.ofNat (gains size start readings)
  baseline : t.baseline = readings.getLastD start

theorem foldl_take (size : Nat) (t : Tally) (readings : List Nat) :
    readings.foldl (take size) t =
      { count := t.count + Int64.ofNat (gains size t.baseline readings)
        baseline := readings.getLastD t.baseline } := by
  induction readings generalizing t with
  | nil => simp [gains]
  | cons reading rest ih =>
    rw [List.foldl_cons, ih, List.getLastD_cons, gains, Int64.ofNat_add, ← Int64.add_assoc]
    rfl

/-- A tally that starts from nothing accounts for all that it takes. -/
theorem accounts_foldl_take (size start : Nat) (readings : List Nat) :
    Accounts size (readings.foldl (take size) ⟨0, start⟩) start readings := by
  rw [foldl_take]
  exact ⟨Int64.zero_add _, rfl⟩

/-- A counter that never goes backwards is counted to the last unit, as long as the whole
increase can be marked at once. -/
theorem Accounts.toInt_count {size start : Nat} {t : Tally} {readings : List Nat}
    (h : Accounts size t start readings) (grows : (start :: readings).Pairwise (· ≤ ·))
    (fits : (readings.getLastD start - start) * size ≤ maxMark) :
    t.count.toInt = ((readings.getLastD start : Int) - start) * size := by
  have least : start ≤ readings.getLastD start := le_getLastD grows
  have small : (readings.getLastD start - start) * size < 2 ^ 63 :=
    Nat.lt_of_le_of_lt fits (by decide)
  rw [h.count, gains_of_monotone grows fits, Int64.toInt_ofNat_of_lt small, Int.natCast_mul,
    Int.ofNat_sub least]

end Tally

end HostVitals
