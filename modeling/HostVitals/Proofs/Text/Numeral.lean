import HostVitals.Counter

/-!
# The grammar of numerals

`Numeral` says, without a reader, which texts are numerals and what they are worth, and `Spoiled`
what is wrong with the others. `readUnsigned_eq_ok_iff` and `readUnsigned_eq_error_iff` show that
the reader accepts just these and reports just that, `readCounter_eq_ok_iff` and
`readCounter_eq_error_iff` that kernel counters are read alike.
-/

namespace HostVitals.Text

/-- The worth of decimal digits after a part that is worth `value`. -/
def worth (value : Nat) (digits : List Char) : Nat :=
  digits.foldl (fun n c => n * 10 + (c.toNat - 48)) value

/-- An optional plus sign and one or more digits, with a value below the bound. -/
def Numeral (bound : Nat) (token : List Char) (n : Nat) : Prop :=
  ∃ digits : List Char, (token = digits ∨ token = '+' :: digits) ∧ digits ≠ [] ∧
    (∀ c ∈ digits, c.isDigit = true) ∧ worth 0 digits = n ∧ n < bound

theorem worth_cons (value : Nat) (c : Char) (digits : List Char) :
    worth value (c :: digits) = worth (value * 10 + (c.toNat - 48)) digits := by
  rw [worth, List.foldl_cons, worth]

theorem worth_append (value : Nat) (digits more : List Char) :
    worth value (digits ++ more) = worth (worth value digits) more :=
  List.foldl_append

theorem worth_eq_ofDigitChars (value : Nat) (digits : List Char) :
    worth value digits = Nat.ofDigitChars 10 digits value := by
  simp only [worth, Nat.ofDigitChars, Nat.mul_comm]
  rfl

theorem worth_toDigits (n : Nat) : worth 0 (Nat.toDigits 10 n) = n := by
  rw [worth_eq_ofDigitChars, Nat.ofDigitChars_ten_toDigits]

theorem le_worth (value : Nat) (digits : List Char) : value ≤ worth value digits := by
  induction digits generalizing value with
  | nil => exact Nat.le_refl _
  | cons c digits ih =>
    have later := ih (value * 10 + (c.toNat - 48))
    rw [worth_cons]
    omega

theorem digit?_of_isDigit {c : Char} (h : c.isDigit = true) : digit? c = some (c.toNat - 48) :=
  if_pos (by simpa [Char.isDigit, Char.le_def] using h)

theorem digit?_of_not_isDigit {c : Char} (h : c.isDigit = false) : digit? c = none :=
  if_neg (by simpa [Char.isDigit, Char.le_def] using h)

theorem readDigits_eq_ok_iff {bound value n : Nat} {digits : List Char} (small : value < bound) :
    readDigits bound value digits = .ok n ↔
      (∀ c ∈ digits, c.isDigit = true) ∧ worth value digits = n ∧ n < bound := by
  induction digits generalizing value with
  | nil =>
    constructor
    · intro h
      cases h
      exact ⟨fun c mem => absurd mem List.not_mem_nil, rfl, small⟩
    · rintro ⟨_, rfl, _⟩
      rfl
  | cons c digits ih =>
    rw [List.forall_mem_cons, worth_cons]
    cases digit : c.isDigit with
    | false => simp [readDigits, digit?_of_not_isDigit digit]
    | true =>
      by_cases fits : value * 10 + (c.toNat - 48) < bound
      · simp [readDigits, digit?_of_isDigit digit, fits, ih fits]
      · -- What follows only adds to a value that is too large already.
        have atLeast := le_worth (value * 10 + (c.toNat - 48)) digits
        simp only [readDigits, digit?_of_isDigit digit, fits, if_false, reduceCtorEq, false_iff,
          not_and]
        omega

theorem readUnsigned_plus (bound : Nat) {digits : List Char} (ne : digits ≠ []) :
    readUnsigned bound ('+' :: digits) = readDigits bound 0 digits := by
  cases digits with
  | nil => exact absurd rfl ne
  | cons c cs => rfl

theorem readUnsigned_of_all_digits (bound : Nat) {digits : List Char} (ne : digits ≠ [])
    (only : ∀ c ∈ digits, c.isDigit = true) :
    readUnsigned bound digits = readDigits bound 0 digits := by
  have unsigned : ∀ cs, digits ≠ '+' :: cs := by
    rintro cs rfl
    exact absurd (only '+' List.mem_cons_self) (by decide)
  rw [readUnsigned]
  · exact ne
  · exact unsigned []
  · exact unsigned

/-- The reader accepts exactly the numerals, with their value. -/
theorem readUnsigned_eq_ok_iff {bound n : Nat} {token : List Char} (positive : 0 < bound) :
    readUnsigned bound token = .ok n ↔ Numeral bound token n := by
  constructor
  · fun_cases readUnsigned bound token with
    | case1 => exact fun h => nomatch h
    | case2 => exact fun h => nomatch h
    | case3 cs more =>
      intro h
      exact ⟨cs, .inr rfl, fun empty => more (empty ▸ rfl), (readDigits_eq_ok_iff positive).1 h⟩
    | case4 _ ne =>
      intro h
      exact ⟨token, .inl rfl, ne, (readDigits_eq_ok_iff positive).1 h⟩
  · rintro ⟨digits, rfl | rfl, ne, only, value⟩
    · rw [readUnsigned_of_all_digits bound ne only, readDigits_eq_ok_iff positive]
      exact ⟨only, value⟩
    · rw [readUnsigned_plus bound ne, readDigits_eq_ok_iff positive]
      exact ⟨only, value⟩

theorem readCounter_eq_ok_iff {metric location : String} {token : List Char} {n : Nat} :
    readCounter metric location token = .ok n ↔ Numeral counterBound token n := by
  rw [← readUnsigned_eq_ok_iff (by decide), readCounter]
  cases readUnsigned counterBound token <;> simp

/-! ## Faults -/

/-- A token without its sign. -/
def unsigned : List Char → List Char
  | '+' :: cs => cs
  | cs => cs

/-- Why a token is no numeral. It is empty; or the digits that it begins with are worth too much; or
they are not, and no digit follows the sign or something else than a digit follows. -/
inductive Spoiled (bound : Nat) (token : List Char) : NumeralFault → Prop where
  | empty (nothing : token = []) : Spoiled bound token .empty
  | tooLarge (large : bound ≤ worth 0 ((unsigned token).takeWhile Char.isDigit)) :
    Spoiled bound token .tooLarge
  | invalidDigit (small : worth 0 ((unsigned token).takeWhile Char.isDigit) < bound)
    (other : token = ['+'] ∨ ∃ c ∈ unsigned token, c.isDigit = false) :
    Spoiled bound token .invalidDigit

/-- Of two faults in a row of digits the one further to the left counts. -/
theorem readDigits_eq_error_iff {bound value : Nat} {cs : List Char} {fault : NumeralFault}
    (small : value < bound) :
    readDigits bound value cs = .error fault ↔
      (bound ≤ worth value (cs.takeWhile Char.isDigit) ∧ fault = .tooLarge) ∨
      (worth value (cs.takeWhile Char.isDigit) < bound ∧ (∃ c ∈ cs, c.isDigit = false) ∧
        fault = .invalidDigit) := by
  induction cs generalizing value with
  | nil => simp [readDigits, worth, small, Nat.not_le.2 small]
  | cons c cs ih =>
    cases digit : c.isDigit with
    | false =>
      simp [readDigits, digit?_of_not_isDigit digit, digit, worth, small, Nat.not_le.2 small,
        @eq_comm _ _ fault]
    | true =>
      rw [List.takeWhile_cons_of_pos digit, worth_cons]
      by_cases fits : value * 10 + (c.toNat - 48) < bound
      · simp [readDigits, digit?_of_isDigit digit, fits, ih fits, digit]
      · have atLeast := le_worth (value * 10 + (c.toNat - 48)) (cs.takeWhile Char.isDigit)
        have large : bound ≤ worth (value * 10 + (c.toNat - 48)) (cs.takeWhile Char.isDigit) := by
          omega
        simp [readDigits, digit?_of_isDigit digit, fits, large, Nat.not_lt.2 large,
          @eq_comm _ _ fault]

/-- Where something follows the sign, or there is none, only that is read. -/
theorem readUnsigned_eq_readDigits (bound : Nat) {token : List Char} (ne : token ≠ [])
    (sign : token ≠ ['+']) : readUnsigned bound token = readDigits bound 0 (unsigned token) := by
  fun_cases readUnsigned bound token with
  | case1 => exact absurd rfl ne
  | case2 => exact absurd rfl sign
  | case3 => rfl
  | case4 _ _ _ plain =>
    rw [unsigned]
    exact plain

/-- The reader says what is wrong with a token that is no numeral. -/
theorem readUnsigned_eq_error_iff {bound : Nat} {token : List Char} {fault : NumeralFault}
    (positive : 0 < bound) : readUnsigned bound token = .error fault ↔ Spoiled bound token fault := by
  by_cases nothing : token = []
  · subst nothing
    constructor
    · rintro ⟨⟩
      exact .empty rfl
    · rintro (_ | large | ⟨_, sign | ⟨c, mem, _⟩⟩)
      · rfl
      · exact absurd large (Nat.not_le.2 positive)
      · cases sign
      · cases mem
  by_cases sign : token = ['+']
  · subst sign
    constructor
    · rintro ⟨⟩
      exact .invalidDigit positive (.inl rfl)
    · rintro (_ | large | _)
      · contradiction
      · exact absurd large (Nat.not_le.2 positive)
      · rfl
  rw [readUnsigned_eq_readDigits bound nothing sign, readDigits_eq_error_iff positive]
  constructor
  · rintro (⟨large, rfl⟩ | ⟨small, other, rfl⟩)
    · exact .tooLarge large
    · exact .invalidDigit small (.inr other)
  · rintro (empty | large | ⟨small, alone | other⟩)
    · exact absurd empty nothing
    · exact .inl ⟨large, rfl⟩
    · exact absurd alone sign
    · exact .inr ⟨small, other, rfl⟩

theorem readCounter_eq_error_iff {metric location : String} {token : List Char}
    {fault : CollectorFault} :
    readCounter metric location token = .error fault ↔
      ∃ reason, Spoiled counterBound token reason ∧
        fault = .badNumber metric location token reason := by
  have positive : 0 < counterBound := by decide
  simp only [← readUnsigned_eq_error_iff positive, readCounter]
  cases readUnsigned counterBound token <;> simp [eq_comm]

end HostVitals.Text
