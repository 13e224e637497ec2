import HostVitals.Decimal.Shortest
import Mathlib.Algebra.Order.Field.Power
import Mathlib.Data.Rat.Cast.Order
import Mathlib.Tactic.Linarith
import Mathlib.Tactic.Positivity
import Mathlib.Tactic.Ring

/-!
# Decimals nearest to a double

The decimal that is found for a double is nearer to it than to any other double, so whoever reads
it and rounds has the same double again.

* `Denary.value`, `Binary.value`: the rational numbers for which both stand.
* `Binary.Near`: the rational numbers that round to a double.

`covers_iff` says that the grids are exact, `step_le_unit` that the finest grid that is looked at is
fine enough for every double, and `near_shortest` what that comes to.
-/

namespace HostVitals.Decimal

/-- The number that a decimal stands for. -/
def Denary.value (d : Denary) : ℚ :=
  d.digits * 10 ^ d.exponent

namespace Binary

/-- The number that a double stands for. -/
def value (b : Binary) : ℚ :=
  b.mantissa * 2 ^ b.exponent

/-- The numbers that round to a double: those up to half of the way to its neighbours. Halfway
between two doubles lies what rounds to the even one. -/
def Near (b : Binary) (r : ℚ) : Prop :=
  let half : ℚ := 2 ^ (b.exponent - 1)
  let low := b.value - if b.narrowBelow then half / 2 else half
  let high := b.value + half
  if b.mantissa % 2 = 0 then low ≤ r ∧ r ≤ high else low < r ∧ r < high

variable {b : Binary} {k : Int}

/-! ## Quarters -/

theorem half_eq_quarters (e : Int) : (2 : ℚ) ^ (e - 1) = 2 * 2 ^ (e - 2) := by
  rw [← zpow_one_add₀ (by norm_num)]
  congr 1
  omega

theorem value_eq_quarters (b : Binary) : b.value = 4 * b.mantissa * 2 ^ (b.exponent - 2) := by
  have four : (2 : ℚ) ^ b.exponent = 4 * 2 ^ (b.exponent - 2) := by
    rw [show (4 : ℚ) = 2 ^ (2 : ℤ) by norm_num, ← zpow_add₀ (by norm_num)]
    congr 1
    omega
  rw [value, four]
  ring

/-- A double and the ends of its interval in quarters of the distance to the next greater one. -/
theorem near_iff_quarters (pos : 0 < b.mantissa) (r : ℚ) :
    let quarter : ℚ := 2 ^ (b.exponent - 2)
    let low : ℕ := 4 * b.mantissa - if b.narrowBelow then 1 else 2
    let high : ℕ := 4 * b.mantissa + 2
    b.Near r ↔ if b.mantissa % 2 = 0 then low * quarter ≤ r ∧ r ≤ high * quarter
      else low * quarter < r ∧ r < high * quarter := by
  intro quarter low high
  have lowIs : b.value - (if b.narrowBelow then 2 * quarter / 2 else 2 * quarter) =
      low * quarter := by
    have below : (if b.narrowBelow then 1 else 2) ≤ 4 * b.mantissa := by
      split <;> omega
    rw [Nat.cast_sub below, value_eq_quarters]
    push_cast
    split <;> ring
  have highIs : b.value + 2 * quarter = high * quarter := by
    rw [value_eq_quarters]
    push_cast [high]
    ring
  simp only [Near, half_eq_quarters, lowIs, highIs, quarter]

/-! ## Grids -/

/-- What a grid multiplies all numbers with, so that they are whole. -/
def scale (b : Binary) (k : Int) : ℚ :=
  10 ^ (-k).toNat * 2 ^ (-(b.exponent - 2)).toNat

theorem scale_pos (b : Binary) (k : Int) : 0 < b.scale k := by
  unfold scale
  positivity

theorem zpow_mul_toNat_neg (base : ℚ) (pos : 0 < base) (k : Int) :
    base ^ k * base ^ (-k).toNat = base ^ k.toNat := by
  rw [← zpow_natCast, ← zpow_natCast, ← zpow_add₀ pos.ne']
  congr 1
  omega

/-- A quarter of the distance to the next greater double, on the grid. -/
def unit (b : Binary) (k : Int) : Nat :=
  10 ^ (-k).toNat * 2 ^ (b.exponent - 2).toNat

theorem value_grid (b : Binary) (k : Int) :
    (b.grid k).value = 4 * b.mantissa * b.unit k :=
  congrArg (4 * b.mantissa * ·) (Nat.shiftLeft_eq _ _)

theorem low_grid (b : Binary) (k : Int) :
    (b.grid k).low = (4 * b.mantissa - if b.narrowBelow then 1 else 2) * b.unit k :=
  congrArg (_ * ·) (Nat.shiftLeft_eq _ _)

theorem high_grid (b : Binary) (k : Int) :
    (b.grid k).high = (4 * b.mantissa + 2) * b.unit k :=
  congrArg (_ * ·) (Nat.shiftLeft_eq _ _)

theorem step_grid (b : Binary) (k : Int) :
    (b.grid k).step = 10 ^ k.toNat * 2 ^ (-(b.exponent - 2)).toNat :=
  Nat.shiftLeft_eq _ _

theorem cast_unit (b : Binary) (k : Int) : (b.unit k : ℚ) = 2 ^ (b.exponent - 2) * b.scale k := by
  have two := zpow_mul_toNat_neg 2 (by norm_num) (b.exponent - 2)
  rw [unit, scale]
  push_cast
  rw [← two]
  ring

theorem cast_step (b : Binary) (k : Int) : ((b.grid k).step : ℚ) = 10 ^ k * b.scale k := by
  have ten := zpow_mul_toNat_neg 10 (by norm_num) k
  rw [step_grid, scale]
  push_cast
  rw [← ten]
  ring

theorem point_le_iff (n c : Nat) :
    n * (b.grid k).step ≤ c * b.unit k ↔ (n * 10 ^ k : ℚ) ≤ c * 2 ^ (b.exponent - 2) := by
  rw [← Nat.cast_le (α := ℚ), Nat.cast_mul, Nat.cast_mul, cast_step, cast_unit, ← mul_assoc,
    ← mul_assoc]
  exact mul_le_mul_iff_of_pos_right (b.scale_pos k)

theorem le_point_iff (n c : Nat) :
    c * b.unit k ≤ n * (b.grid k).step ↔ (c * 2 ^ (b.exponent - 2) : ℚ) ≤ n * 10 ^ k := by
  rw [← Nat.cast_le (α := ℚ), Nat.cast_mul, Nat.cast_mul, cast_step, cast_unit, ← mul_assoc,
    ← mul_assoc]
  exact mul_le_mul_iff_of_pos_right (b.scale_pos k)

/-- A grid has just those of its points in the interval that are near. -/
theorem covers_iff (pos : 0 < b.mantissa) (n : Nat) :
    (b.grid k).covers n = true ↔ b.Near (n * 10 ^ k) := by
  refine Iff.trans ?_ (near_iff_quarters pos _).symm
  have closed : (b.grid k).closed = true ↔ b.mantissa % 2 = 0 := beq_iff_eq
  rw [Grid.covers, low_grid, high_grid]
  simp only [closed]
  split
  · simp only [Bool.and_eq_true, decide_eq_true_eq, le_point_iff, point_le_iff]
  · simp only [Bool.and_eq_true, decide_eq_true_eq, ← not_le, le_point_iff, point_le_iff]

/-! ## The search -/

theorem covers_of_point? {g : Grid} {tie : Tie} {n : Nat} (found : g.point? tie = some n) :
    g.covers n = true := by
  unfold Grid.point? at found
  dsimp only at found
  split at found
  · cases found
  · next below _ => exact Option.some.inj found ▸ below
  · next _ above => exact Option.some.inj found ▸ above
  · next below above =>
    split_ifs at found <;> first
      | exact Option.some.inj found ▸ below
      | exact Option.some.inj found ▸ above

/-- On a grid that is fine enough the point below a double is near. -/
theorem covers_below (pos : 0 < b.mantissa) (fine : (b.grid k).step ≤ b.unit k) :
    (b.grid k).covers ((b.grid k).value / (b.grid k).step) = true := by
  have unitPos : 0 < b.unit k := by
    unfold unit
    positivity
  have stepPos : 0 < (b.grid k).step := by
    have := b.scale_pos k
    rw [← Nat.cast_pos (α := ℚ), cast_step]
    positivity
  have low : (4 * b.mantissa - if b.narrowBelow then 1 else 2) * b.unit k + b.unit k ≤
      4 * b.mantissa * b.unit k := by
    rw [← Nat.succ_mul]
    refine Nat.mul_le_mul_right _ ?_
    split <;> omega
  have high : (4 * b.mantissa + 2) * b.unit k = 4 * b.mantissa * b.unit k + 2 * b.unit k :=
    Nat.add_mul _ _ _
  have below := Nat.div_mul_le_self (4 * b.mantissa * b.unit k) (b.grid k).step
  have above := Nat.lt_div_mul_add (a := 4 * b.mantissa * b.unit k) stepPos
  rw [Grid.covers, value_grid, low_grid, high_grid]
  split <;> simp only [Bool.and_eq_true, decide_eq_true_eq] <;> omega

/-- The search ends on a grid that has a near point, if the last one is fine enough. -/
theorem near_search (pos : 0 < b.mantissa) (tie : Tie) (finer : Nat) (k : Int)
    (fine : (b.grid (k - finer)).step ≤ b.unit (k - finer)) :
    b.Near (b.search tie finer k).value := by
  induction finer generalizing k with
  | zero =>
    rw [Nat.cast_zero, sub_zero] at fine
    exact (covers_iff pos _).1 (covers_below pos fine)
  | succ finer ih =>
    rw [search]
    cases found : (b.grid k).point? tie with
    | some n => exact (covers_iff pos n).1 (covers_of_point? found)
    | none =>
      have next : k - (finer + 1 : Nat) = k - 1 - finer := by
        push_cast
        ring
      exact ih (k - 1) (next ▸ fine)

/-! ## Doubles -/

/-- What a bit pattern decodes to. -/
structure IsDouble (b : Binary) : Prop where
  pos : 0 < b.mantissa
  small : b.mantissa < 2 ^ 53
  least : -1074 ≤ b.exponent
  most : b.exponent ≤ 971

theorem isDouble_of_ofBits {bits : Nat} {negative : Bool}
    (decoded : Reading.ofBits bits = .finite negative b) : b.IsDouble := by
  unfold Reading.ofBits at decoded
  dsimp only at decoded
  have fraction : bits % leadingBit < leadingBit := Nat.mod_lt _ (by decide)
  have biased : (bits >>> 52) % 2048 < 2048 := Nat.mod_lt _ (by decide)
  have leading : leadingBit = 2 ^ 52 := by decide
  split_ifs at decoded
  · obtain ⟨_, rfl⟩ := Reading.finite.inj decoded
    exact ⟨Nat.pos_of_ne_zero ‹_›, by simp only; omega, by simp, by simp⟩
  · obtain ⟨_, rfl⟩ := Reading.finite.inj decoded
    exact ⟨by simp only; omega, by simp only; omega, by simp only; omega, by simp only; omega⟩

/-- Seventeen digits suffice for every exponent. -/
theorem fine_exponent : ∀ i : Fin 2046,
    let e : Int := i - 1074
    let k := (52 + e) * 30103 / 100000 + 2 - 24
    10 ^ k.toNat * 2 ^ (-(e - 2)).toNat ≤ 10 ^ (-k).toNat * 2 ^ (e - 2).toNat := by
  decide +kernel

theorem step_le_unit (double : b.IsDouble) :
    let k := (b.mantissa.log2 + b.exponent) * 30103 / 100000 + 2 - 24
    (b.grid k).step ≤ b.unit k := by
  obtain ⟨pos, small, least, most⟩ := double
  intro k
  -- The largest mantissa has the coarsest grids.
  let coarsest := (52 + b.exponent) * 30103 / 100000 + 2 - 24
  have log : b.mantissa.log2 < 53 := (Nat.log2_lt pos.ne').2 small
  have finer : k ≤ coarsest := by
    have := Int.ediv_le_ediv (a := (b.mantissa.log2 + b.exponent) * 30103)
      (b := (52 + b.exponent) * 30103) (c := 100000) (by decide) (by omega)
    simp only [k, coarsest]
    omega
  have fine : (b.grid coarsest).step ≤ b.unit coarsest := by
    have checked := fine_exponent ⟨(b.exponent + 1074).toNat, by omega⟩
    have same : (((b.exponent + 1074).toNat : Nat) : Int) - 1074 = b.exponent := by omega
    simp only [same] at checked
    rwa [unit, step_grid]
  have bound := (point_le_iff 1 1).1 (by rwa [Nat.one_mul, Nat.one_mul])
  have finest := (point_le_iff (b := b) (k := k) 1 1).2 (le_trans (by gcongr; norm_num) bound)
  rwa [Nat.one_mul, Nat.one_mul] at finest

/-- The shortest decimal for a double is nearer to it than to any other double. -/
theorem near_shortest (double : b.IsDouble) (tie : Tie) : b.Near (b.shortest tie).value :=
  near_search double.pos tie 24 _ (step_le_unit double)

end Binary

end HostVitals.Decimal
