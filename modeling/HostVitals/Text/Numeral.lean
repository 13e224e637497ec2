/-!
# Unsigned numerals

A numeral is an optional plus sign and then decimal digits. `readUnsigned` reads
one that has to stay below a bound, and says what is wrong with any other text:
it goes from left to right and reports the first fault it meets.
-/

namespace HostVitals.Text

/-- What is wrong with a text that should be a numeral. -/
inductive NumeralFault where
  | empty
  | invalidDigit
  | tooLarge
  deriving DecidableEq, Repr

/-- The wording of a fault. -/
def NumeralFault.message : NumeralFault → String
  | .empty => "cannot parse integer from empty string"
  | .invalidDigit => "invalid digit found in string"
  | .tooLarge => "number too large to fit in target type"

/-- The value of a decimal digit. -/
def digit? (c : Char) : Option Nat :=
  if '0' ≤ c ∧ c ≤ '9' then some (c.toNat - 48) else none

/-- Reads digits after a part that is worth `value`. -/
def readDigits (bound : Nat) (value : Nat) : List Char → Except NumeralFault Nat
  | [] => .ok value
  | c :: cs =>
    match digit? c with
    | none => .error .invalidDigit
    | some d =>
      if value * 10 + d < bound then readDigits bound (value * 10 + d) cs
      else .error .tooLarge

/-- Reads a numeral whose value is below `bound`. A sign alone is no numeral. -/
def readUnsigned (bound : Nat) : List Char → Except NumeralFault Nat
  | [] => .error .empty
  | ['+'] => .error .invalidDigit
  | '+' :: cs => readDigits bound 0 cs
  | cs => readDigits bound 0 cs

example : readUnsigned 256 "+255".toList = .ok 255 := by cbv
example : readUnsigned 256 "256".toList = .error .tooLarge := by cbv
example : readUnsigned 256 "25x6".toList = .error .invalidDigit := by cbv
example : readUnsigned 256 "-1".toList = .error .invalidDigit := by cbv

end HostVitals.Text
