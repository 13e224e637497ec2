/-!
# Percent coding

`decode` reads `%XX` as the byte it names and leaves every other byte alone, a `%`
without two hexadecimal digits included. `encode` writes each byte outside the
unreserved set as `%XX`.

* `decode_encode`: decoding reads back what encoding writes.
* `decodeText?_encodeText`: the same for texts, so every text has a written form.
-/

namespace HostVitals.Text.Percent

/-- The value of an ASCII hexadecimal digit of either case. -/
def hexValue? (b : UInt8) : Option UInt8 :=
  if 0x30 ≤ b ∧ b ≤ 0x39 then some (b - 0x30)
  else if 0x41 ≤ b ∧ b ≤ 0x46 then some (b - 0x37)
  else if 0x61 ≤ b ∧ b ≤ 0x66 then some (b - 0x57)
  else none

/-- The bytes that a percent-coded text stands for. -/
def decode : List UInt8 → List UInt8
  | [] => []
  | b :: bs =>
    if b = 0x25 then
      match bs with
      | h :: l :: rest =>
        match hexValue? h, hexValue? l with
        | some h, some l => (h * 16 + l) :: decode rest
        | _, _ => b :: decode (h :: l :: rest)
      | short => b :: decode short
    else b :: decode bs

/-- The bytes of a text. -/
def bytes (s : String) : List UInt8 :=
  s.toUTF8.data.toList

/-- The decoded text, if the decoded bytes are UTF-8. -/
def decodeText? (s : String) : Option String :=
  String.fromUTF8? (decode (bytes s)).toByteArray

/-- Letters, digits and `-._~` stand for themselves. -/
def isUnreserved (b : UInt8) : Bool :=
  (0x41 ≤ b && b ≤ 0x5A) || (0x61 ≤ b && b ≤ 0x7A) || (0x30 ≤ b && b ≤ 0x39) ||
    b == 0x2D || b == 0x2E || b == 0x5F || b == 0x7E

/-- The upper-case hexadecimal digit for a value below 16. -/
def hexDigit (v : UInt8) : UInt8 :=
  if v < 10 then v + 0x30 else v + 0x37

/-- The written form of one byte. -/
def encodeByte (b : UInt8) : List UInt8 :=
  if isUnreserved b then [b] else [0x25, hexDigit (b / 16), hexDigit (b % 16)]

/-- The written form of a byte sequence. -/
def encode (bs : List UInt8) : List UInt8 :=
  bs.flatMap encodeByte

/-- The written form of a text. -/
def encodeText (s : String) : String :=
  String.ofList ((encode (bytes s)).map Char.ofUInt8)

/-! ## Reading back -/

theorem decode_cons_of_ne {b : UInt8} (h : b ≠ 0x25) (rest : List UInt8) :
    decode (b :: rest) = b :: decode rest := by
  rcases rest with _ | ⟨_, _ | ⟨_, _⟩⟩ <;> simp [decode, h]

theorem hexValue?_hexDigit : ∀ v : UInt8, v < 16 → hexValue? (hexDigit v) = some v := by
  intro v hv
  have h : v.toNat < 16 := by simpa [UInt8.lt_iff_toNat_lt] using hv
  have : ∀ n : Fin 16, hexValue? (hexDigit (UInt8.ofNat n)) = some (UInt8.ofNat n) := by decide
  simpa using this ⟨v.toNat, h⟩

theorem div_lt_sixteen (b : UInt8) : b / 16 < 16 := by
  have := b.toNat_lt
  simp only [UInt8.lt_iff_toNat_lt, UInt8.toNat_div]
  simp
  omega

theorem mod_lt_sixteen (b : UInt8) : b % 16 < 16 := by
  simp only [UInt8.lt_iff_toNat_lt, UInt8.toNat_mod]
  simp
  omega

theorem decode_encodeByte (b : UInt8) (rest : List UInt8) :
    decode (encodeByte b ++ rest) = b :: decode rest := by
  unfold encodeByte
  split
  · next h =>
    refine decode_cons_of_ne ?_ rest
    rintro rfl
    exact absurd h (by decide)
  · have sum : b / 16 * 16 + b % 16 = b := by
      apply UInt8.toNat_inj.mp
      have := b.toNat_lt
      simp
      omega
    simp [decode, hexValue?_hexDigit _ (div_lt_sixteen b),
      hexValue?_hexDigit _ (mod_lt_sixteen b), sum]

/-- Decoding reads back what encoding writes. -/
theorem decode_encode (bs : List UInt8) : decode (encode bs) = bs := by
  induction bs with
  | nil => rfl
  | cons b bs ih => rw [encode, List.flatMap_cons, decode_encodeByte, ← encode, ih]

theorem hexDigit_lt : ∀ v : UInt8, v < 16 → hexDigit v < 0x80 := by
  intro v hv
  have h : v.toNat < 16 := by simpa [UInt8.lt_iff_toNat_lt] using hv
  have : ∀ n : Fin 16, hexDigit (UInt8.ofNat n) < 0x80 := by decide
  simpa using this ⟨v.toNat, h⟩

/-- What is written is ASCII. -/
theorem lt_of_mem_encode {bs : List UInt8} {b : UInt8} (h : b ∈ encode bs) : b < 0x80 := by
  obtain ⟨c, _, hc⟩ := List.mem_flatMap.1 h
  unfold encodeByte at hc
  split at hc
  · next hu =>
    rw [List.mem_singleton.1 hc]
    simp only [isUnreserved, Bool.or_eq_true, Bool.and_eq_true, decide_eq_true_eq, beq_iff_eq,
      UInt8.le_iff_toNat_le, UInt8.lt_iff_toNat_lt, ← UInt8.toNat_inj] at hu ⊢
    simp at hu ⊢
    omega
  · simp only [List.mem_cons, List.not_mem_nil, or_false] at hc
    rcases hc with rfl | rfl | rfl
    · decide
    · exact hexDigit_lt _ (div_lt_sixteen c)
    · exact hexDigit_lt _ (mod_lt_sixteen c)

/-- A text of ASCII characters has their codes as its bytes. -/
theorem bytes_ofList_ascii {bs : List UInt8} (h : ∀ b ∈ bs, b < 0x80) :
    bytes (String.ofList (bs.map Char.ofUInt8)) = bs := by
  simp only [bytes, String.toUTF8_eq_toByteArray, String.toByteArray_ofList, List.utf8Encode,
    List.data_toByteArray, List.flatMap_map]
  induction bs with
  | nil => rfl
  | cons b bs ih =>
    obtain ⟨hb, hbs⟩ := List.forall_mem_cons.1 h
    have one : String.utf8EncodeChar (Char.ofUInt8 b) = [b] := by
      have val : (Char.ofUInt8 b).val = b.toUInt32 := rfl
      have small : (Char.ofUInt8 b).val ≤ 127 := by
        simp only [val, UInt32.le_iff_toNat_le, UInt8.lt_iff_toNat_lt] at hb ⊢
        simp at hb ⊢
        omega
      rw [String.utf8EncodeChar_eq_singleton (Char.utf8Size_eq_one_iff.2 small), val]
      simp
    rw [List.flatMap_cons, one]
    exact congrArg (b :: ·) (ih hbs)

/-- Every text has a written form that reads back as it. -/
theorem decodeText?_encodeText (s : String) : decodeText? (encodeText s) = some s := by
  have whole : (bytes s).toByteArray = s.toByteArray := by
    apply ByteArray.ext
    simp [bytes]
  rw [decodeText?, encodeText, bytes_ofList_ascii fun _ => lt_of_mem_encode, decode_encode, whole,
    String.fromUTF8?, dif_pos s.isValidUTF8]
  rfl

example : decodeText? "a%2Fb+%zz" = some "a/b+%zz" := by decide +kernel
example : encodeText "a/é" = "a%2F%C3%A9" := by decide +kernel

end HostVitals.Text.Percent
