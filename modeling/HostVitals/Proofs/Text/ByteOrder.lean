import HostVitals.Text.Percent

/-!
# The order of bytes

Texts are compared character by character. In UTF-8 that is the order of their bytes, so sorted
names are also sorted as bytes.

* `encodeChar_append_lt`: the order of two texts that begin with different characters.
* `bytes_lt_bytes_iff`: the order of any two texts.
-/

namespace HostVitals.Text

open Percent (bytes)

/-- Two numbers are in the order of their digits to the base 64. -/
theorem digits_lt {v w : Nat} (less : v < w) :
    v / 262144 < w / 262144 ∨ v / 262144 = w / 262144 ∧
      (v / 4096 % 64 < w / 4096 % 64 ∨ v / 4096 % 64 = w / 4096 % 64 ∧
        (v / 64 % 64 < w / 64 % 64 ∨ v / 64 % 64 = w / 64 % 64 ∧ v % 64 < w % 64)) := by
  omega

/-- The smaller of two characters has the smaller code, whatever follows it. -/
theorem encodeChar_append_lt {c d : Char} (less : c < d) (s t : List UInt8) :
    String.utf8EncodeChar c ++ s < String.utf8EncodeChar d ++ t := by
  have below : c.val.toNat < d.val.toNat := less
  have bound : d.val.toNat < 0x110000 := by
    rcases d.valid with low | ⟨_, high⟩
    · exact Nat.lt_trans low (by decide)
    · exact high
  unfold String.utf8EncodeChar
  dsimp only
  generalize c.val.toNat = v at below ⊢
  generalize d.val.toNat = w at below bound ⊢
  have digits := digits_lt below
  -- Codes of different lengths differ in the first byte already. Codes of one length hold the
  -- digits to the base 64, and the first digits that differ decide.
  repeat' split
  all_goals
    simp (disch := omega) only [List.cons_append, List.nil_append, List.cons_lt_cons_iff,
      UInt8.lt_iff_toNat_lt, ← UInt8.toNat_inj, UInt8.toNat_ofNat', Nat.reducePow,
      Nat.mod_eq_of_lt]
    omega

theorem flatMap_encodeChar_lt {s t : List Char} (less : s < t) :
    s.flatMap String.utf8EncodeChar < t.flatMap String.utf8EncodeChar := by
  induction less with
  | @nil c t =>
    obtain ⟨b, bs, code⟩ := List.exists_cons_of_ne_nil (String.utf8EncodeChar_ne_nil (c := c))
    rw [List.flatMap_cons, code]
    exact List.nil_lt_cons b _
  | rel first => exact encodeChar_append_lt first _ _
  | cons _ ih => exact List.append_left_lt ih

theorem bytes_eq_flatMap (s : String) : bytes s = s.toList.flatMap String.utf8EncodeChar := by
  rw [bytes, String.toUTF8_eq_toByteArray, ← String.utf8Encode_toList, List.utf8Encode,
    List.data_toByteArray]

/-- Texts are in the order of their bytes. -/
theorem bytes_lt_bytes_iff {s t : String} : bytes s < bytes t ↔ s < t := by
  rw [bytes_eq_flatMap, bytes_eq_flatMap]
  constructor
  · intro less
    refine Decidable.byContradiction fun not => ?_
    rcases Std.le_iff_lt_or_eq.1 (Std.not_lt.1 not) with more | rfl
    · exact List.lt_asymm less (flatMap_encodeChar_lt more)
    · exact List.lt_irrefl _ less
  · exact flatMap_encodeChar_lt

end HostVitals.Text
