import HostVitals.Decimal.Layout
import HostVitals.Proofs.Decimal.Nearest
import HostVitals.Proofs.Text.Numeral

/-!
# Written decimals

A decimal is laid out with a point among its digits or with a power of ten behind them. Either way
the text stands for the number that the decimal stands for.

* `Fixed`: the texts of digits and a point, with their numbers.
* `Stands`: these with a power of ten, if there is one.

`fixed_plain` and `stands_scientific` are the two ways, and `stands_decimal` is the choice between
them.
-/

namespace HostVitals.Decimal

open Text (worth worth_append worth_eq_ofDigitChars worth_toDigits)

/-- One or more decimal digits. -/
def IsDigits (cs : List Char) : Prop :=
  cs ≠ [] ∧ cs.all Char.isDigit = true

/-- Digits, which may have a point among them, stand for a number. -/
inductive Fixed : List Char → ℚ → Prop
  | whole {digits : List Char} : IsDigits digits → Fixed digits (worth 0 digits)
  | point {whole fraction : List Char} : IsDigits whole → IsDigits fraction →
    Fixed (whole ++ '.' :: fraction) (worth 0 (whole ++ fraction) / 10 ^ fraction.length)

/-- A text stands for a number. -/
inductive Stands : List Char → ℚ → Prop
  | fixed {text : List Char} {r : ℚ} : Fixed text r → Stands text r
  | timesPower {text power : List Char} {r : ℚ} : Fixed text r → IsDigits power →
    Stands (text ++ 'e' :: '+' :: power) (r * 10 ^ worth 0 power)
  | overPower {text power : List Char} {r : ℚ} : Fixed text r → IsDigits power →
    Stands (text ++ 'e' :: '-' :: power) (r / 10 ^ worth 0 power)

/-! ## Digits -/

theorem isDigits_toDigits (n : Nat) : IsDigits (Nat.toDigits 10 n) :=
  ⟨Nat.toDigits_ne_nil, List.all_eq_true.2 fun _ mem =>
    Nat.isDigit_of_mem_toDigits (by decide) (by decide) mem⟩

theorem toList_repr (n : Nat) : (Nat.repr n).toList = Nat.toDigits 10 n := by
  rw [Nat.repr_eq_ofList_toDigits, String.toList_ofList]

theorem isDigits_zeros {n : Nat} (pos : 0 < n) : IsDigits (List.replicate n '0') :=
  ⟨by simpa using pos.ne', List.all_replicate.trans (by simp [pos.ne'])⟩

theorem IsDigits.append {digits more : List Char} (h : IsDigits digits)
    (all : more.all Char.isDigit = true) : IsDigits (digits ++ more) :=
  ⟨List.append_ne_nil_of_left_ne_nil h.1 _, by rw [List.all_append, h.2, all]; rfl⟩

theorem worth_zeros (value n : Nat) : worth value (List.replicate n '0') = value * 10 ^ n := by
  rw [worth_eq_ofDigitChars, Nat.ofDigitChars_replicate_zero, Nat.mul_comm]

/-! ## Layouts -/

/-- A row of digits is cut by a point. -/
theorem Fixed.cut {digits : List Char} (all : digits.all Char.isDigit = true) {places : Nat}
    (pos : 0 < places) (long : places < digits.length) :
    Fixed (digits.take (digits.length - places) ++ '.' :: digits.drop (digits.length - places))
      (worth 0 digits / 10 ^ places) := by
  have length : (digits.drop (digits.length - places)).length = places := by
    rw [List.length_drop]
    omega
  have whole : IsDigits (digits.take (digits.length - places)) := by
    refine ⟨List.ne_nil_of_length_pos ?_, ?_⟩
    · rw [List.length_take]
      omega
    · exact List.all_eq_true.2 fun c mem => List.all_eq_true.1 all c (List.mem_of_mem_take mem)
  have fraction : IsDigits (digits.drop (digits.length - places)) :=
    ⟨List.ne_nil_of_length_pos (by rwa [length]),
      List.all_eq_true.2 fun c mem => List.all_eq_true.1 all c (List.mem_of_mem_drop mem)⟩
  have cut := Fixed.point whole fraction
  rwa [List.take_append_drop, length] at cut

/-- Digits with a point stand for the decimal. -/
theorem fixed_plain (d : Denary) : Fixed d.plain.toList d.value := by
  have digits := isDigits_toDigits d.digits
  unfold Denary.plain
  dsimp only
  rw [toList_repr]
  split
  · next whole =>
    have value : (worth 0 ((Nat.toDigits 10 d.digits ++ List.replicate d.exponent.toNat '0') ++
        ['0']) : ℚ) / 10 ^ 1 = d.value := by
      obtain ⟨n, exponent⟩ := Int.eq_ofNat_of_zero_le whole
      have zero : worth (d.digits * 10 ^ n) ['0'] = d.digits * 10 ^ n * 10 := worth_zeros _ 1
      rw [worth_append, worth_append, worth_toDigits, worth_zeros, Denary.value, exponent]
      simp [zero]
    rw [String.toList_ofList, ← value]
    exact .point (digits.append (List.all_replicate.trans (by simp))) (isDigits_zeros one_pos)
  · next fraction =>
    have padded (n : Nat) :
        (List.replicate n '0' ++ Nat.toDigits 10 d.digits).all Char.isDigit = true := by
      rw [List.all_append, digits.2, List.all_replicate]
      simp
    have value (n : Nat) : (worth 0 (List.replicate n '0' ++ Nat.toDigits 10 d.digits) : ℚ) /
        10 ^ (-d.exponent).toNat = d.value := by
      rw [worth_append, worth_zeros, Nat.zero_mul, worth_toDigits, Denary.value, div_eq_mul_inv,
        ← zpow_natCast, ← zpow_neg]
      congr 2
      omega
    rw [String.toList_ofList, ← value]
    refine Fixed.cut (padded _) (by omega) ?_
    rw [List.length_append, List.length_replicate]
    omega

/-- A point after the first digit, unless that is the only one. -/
theorem fixed_point (digits : List Char) : IsDigits digits →
    Fixed (match digits with
      | first :: second :: rest => first :: '.' :: second :: rest
      | short => short) (worth 0 digits / 10 ^ (digits.length - 1)) := by
  intro h
  split
  · next first second rest =>
    have cut := Fixed.cut h.2 (Nat.succ_pos rest.length) (by simp)
    simpa using cut
  · next short =>
    have length : digits.length = 1 := by
      match digits, h, short with
      | [], h, _ => exact absurd rfl h.1
      | [_], _, _ => rfl
      | first :: second :: rest, _, short => exact (short _ _ _ rfl).elim
    rw [length, Nat.sub_self, pow_zero, div_one]
    exact .whole h

/-- One digit before the point, and a power of ten, stand for the decimal. -/
theorem stands_scientific (d : Denary) : Stands (d.scientific "e+").toList d.value := by
  have ten : (10 : ℚ) ≠ 0 := by norm_num
  have shown := fixed_point _ (isDigits_toDigits d.digits)
  rw [worth_toDigits] at shown
  unfold Denary.scientific
  dsimp only
  rw [toList_repr]
  generalize (Nat.toDigits 10 d.digits).length - 1 = places at shown ⊢
  have moved : (10 : ℚ) ^ d.exponent = 10 ^ (d.exponent + places) / 10 ^ places := by
    rw [zpow_add₀ ten, zpow_natCast, mul_div_cancel_right₀ _ (pow_ne_zero _ ten)]
  rw [Denary.value, moved, String.toList_append, String.toList_append, String.toList_ofList,
    toList_repr, List.append_assoc]
  generalize d.exponent + places = power
  have exponent := isDigits_toDigits power.natAbs
  rcases lt_or_ge power 0 with negative | notNegative
  · have value : d.digits / 10 ^ places / 10 ^ worth 0 (Nat.toDigits 10 power.natAbs) =
        (d.digits * (10 ^ power / 10 ^ places) : ℚ) := by
      rw [worth_toDigits, ← zpow_natCast 10 power.natAbs, Int.ofNat_natAbs_of_nonpos negative.le,
        zpow_neg, div_inv_eq_mul]
      ring
    rw [if_pos negative]
    exact value ▸ .overPower shown exponent
  · have value : d.digits / 10 ^ places * 10 ^ worth 0 (Nat.toDigits 10 power.natAbs) =
        (d.digits * (10 ^ power / 10 ^ places) : ℚ) := by
      rw [worth_toDigits, ← zpow_natCast 10 power.natAbs, Int.natAbs_of_nonneg notNegative]
      ring
    rw [if_neg (not_lt.2 notNegative)]
    exact value ▸ .timesPower shown exponent

theorem stands_decimal {layout : Layout} (mark : layout.positiveMark = "e+") (d : Denary) :
    Stands (layout.decimal d).toList d.value := by
  unfold Layout.decimal
  dsimp only
  split
  · exact .fixed (fixed_plain d)
  · exact mark ▸ stands_scientific d

end HostVitals.Decimal
