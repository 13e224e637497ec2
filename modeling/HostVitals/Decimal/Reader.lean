import HostVitals.Text.Numeral

/-!
# Reading floats

A float token is an optional sign and then either decimal digits with at most one
point among or around them and an optional power of ten, or one of the words
`inf`, `infinity` and `nan` in any case. The number read is the double nearest to
the decimal.
-/

namespace HostVitals.Decimal

/-- What is wrong with a text that should be a float. -/
inductive FloatFault where
  | empty
  | invalid
  deriving DecidableEq, Repr

/-- The wording of a fault. -/
def FloatFault.message : FloatFault → String
  | .empty => "cannot parse float from empty string"
  | .invalid => "invalid float literal"

/-- The digits at the start of a text, and what follows them. -/
def spanDigits (cs : List Char) : List Char × List Char :=
  cs.span fun c => (Text.digit? c).isSome

/-- The value of a run of digits. -/
def digitsValue (ds : List Char) : Nat :=
  ds.foldl (fun n c => n * 10 + (c.toNat - 48)) 0

/-- A sign, if there is one: whether it is a minus, and what follows it. -/
def readSign : List Char → Bool × List Char
  | '-' :: cs => (true, cs)
  | '+' :: cs => (false, cs)
  | cs => (false, cs)

/-- The power of ten after the digits, which has to be the rest of the text. -/
def readPower? : List Char → Option Int
  | [] => some 0
  | c :: cs =>
    if c = 'e' ∨ c = 'E' then
      let (negative, cs) := readSign cs
      let (digits, rest) := spanDigits cs
      if digits.isEmpty ∨ !rest.isEmpty then none
      else some (if negative then -digitsValue digits else digitsValue digits)
    else none

/-- The double nearest to `mantissa · 10^power`. Beyond the 400th power of ten in
either direction every number is infinite, or zero. -/
def nearest (mantissa : Nat) (power : Int) : Float :=
  let magnitude := power + (Nat.repr mantissa).length
  if mantissa = 0 ∨ magnitude < -400 then 0.0
  else if 400 < magnitude then 1.0 / 0.0
  else Float.ofScientific mantissa (power < 0) power.natAbs

/-- A decimal with digits, a point and a power of ten. -/
def readDecimal? (cs : List Char) : Option Float :=
  let (whole, rest) := spanDigits cs
  let (fraction, rest) := match rest with
    | '.' :: rest => spanDigits rest
    | rest => ([], rest)
  if whole.isEmpty ∧ fraction.isEmpty then none
  else (readPower? rest).map fun power =>
    nearest (digitsValue (whole ++ fraction)) (power - fraction.length)

/-- One of the words that stand for a number that is not finite. -/
def readWord? (cs : List Char) : Option Float :=
  let word := cs.map Char.toLower
  if word = "inf".toList ∨ word = "infinity".toList then some (1.0 / 0.0)
  else if word = "nan".toList then some (0.0 / 0.0)
  else none

/-- Reads a float token. -/
def readFloat (cs : List Char) : Except FloatFault Float :=
  if cs.isEmpty then .error .empty
  else
    let (negative, unsigned) := readSign cs
    match (readDecimal? unsigned).or (readWord? unsigned) with
    | some x => .ok (if negative then -x else x)
    | none => .error .invalid

end HostVitals.Decimal
