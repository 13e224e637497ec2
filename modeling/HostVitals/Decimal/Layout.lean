import HostVitals.Decimal.Shortest

/-!
# Laying out a decimal

A layout says how a number is written once its digits are known: in which range of
magnitudes it is written out in full, what marks a positive exponent, and which of
two equally near digit strings is taken.
-/

namespace HostVitals.Decimal

/-- How numbers are written. -/
structure Layout where
  /-- The choice between two shortest digit strings that are equally near. -/
  tie : Tie
  /-- The least power of ten that is written out in full. -/
  plainFrom : Int
  /-- The least greater power of ten that is written with an exponent. -/
  plainBelow : Int
  /-- What stands between the digits and an exponent that is not negative. -/
  positiveMark : String

/-- Digits with a point, and at least one digit on each side of it. -/
def Denary.plain (d : Denary) : String :=
  let digits := (Nat.repr d.digits).toList
  let zeros (n : Nat) : List Char := List.replicate n '0'
  if 0 ≤ d.exponent then String.ofList (digits ++ zeros d.exponent.toNat ++ ['.', '0'])
  else
    let places := (-d.exponent).toNat
    let padded := zeros (places + 1 - digits.length) ++ digits
    let whole := padded.length - places
    String.ofList (padded.take whole ++ '.' :: padded.drop whole)

/-- One digit before the point, the others after it, then the power of ten. -/
def Denary.scientific (positiveMark : String) (d : Denary) : String :=
  let digits := (Nat.repr d.digits).toList
  let power := d.exponent + (digits.length - 1 : Nat)
  let shown := match digits with
    | first :: second :: rest => first :: '.' :: second :: rest
    | short => short
  String.ofList shown ++ (if power < 0 then "e-" else positiveMark) ++ Nat.repr power.natAbs

def Layout.decimal (layout : Layout) (d : Denary) : String :=
  let power := d.exponent + ((Nat.repr d.digits).length - 1 : Nat)
  if layout.plainFrom ≤ power ∧ power < layout.plainBelow then d.plain
  else d.scientific layout.positiveMark

/-- The text of a finite number; the sign of zero is kept. -/
def Layout.finite (layout : Layout) (negative : Bool) (magnitude : Option Binary) : String :=
  (if negative then "-" else "") ++
    match magnitude with
    | none => "0.0"
    | some b => layout.decimal (b.shortest layout.tie)

example : (Denary.mk 125 (-2)).plain = "1.25" := by decide +kernel
example : (Denary.mk 5 (-3)).plain = "0.005" := by decide +kernel
example : (Denary.mk 125 4).scientific "e+" = "1.25e+6" := by decide +kernel

end HostVitals.Decimal
