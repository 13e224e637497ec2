/-!
# Shortest decimals

The shortest decimal that reads back as a given double-precision number, and of
those the nearest to it.

A positive double `m · 2^q` stands for every real nearer to it than to its
neighbours; the ends of that interval belong to it when `m` is even. `shortest`
lays grids of multiples of `10^k` over the number, from coarse to fine, and stops
at the first grid with a point in the interval. On a grid only the two points next
to the number have to be looked at: if any point lies in the interval, one of them
does. All arithmetic is exact.
-/

namespace HostVitals.Decimal

/-- Which of two points is taken when the number lies halfway between them. -/
inductive Tie where
  | even
  | up
  deriving DecidableEq, Repr

/-- The decimal `digits · 10^exponent`. -/
structure Denary where
  digits : Nat
  exponent : Int
  deriving DecidableEq, Repr

/-- The positive double `mantissa · 2^exponent`. -/
structure Binary where
  mantissa : Nat
  exponent : Int
  /-- The next smaller double is half as far away as the next larger one. -/
  narrowBelow : Bool
  deriving DecidableEq, Repr

/-- What a bit pattern stands for. -/
inductive Reading where
  | nan
  | infinite (negative : Bool)
  | zero (negative : Bool)
  | finite (negative : Bool) (magnitude : Binary)
  deriving DecidableEq, Repr

/-- The bit in front of the stored fraction. -/
def leadingBit : Nat := 1 <<< 52

/-- Decodes a double-precision bit pattern. -/
def Reading.ofBits (bits : Nat) : Reading :=
  let negative := (bits >>> 63) % 2 == 1
  let biased : Nat := (bits >>> 52) % 2048
  let fraction : Nat := bits % leadingBit
  if biased = 2047 then
    if fraction = 0 then .infinite negative else .nan
  else if biased = 0 then
    if fraction = 0 then .zero negative else .finite negative ⟨fraction, -1074, false⟩
  else .finite negative ⟨leadingBit + fraction, (biased : Int) - 1075, fraction == 0 && biased > 1⟩

def Reading.ofFloat (x : Float) : Reading :=
  .ofBits x.toBits.toNat

/-- A number, the ends of its interval and the spacing of a grid, all in one unit. -/
structure Grid where
  value : Nat
  low : Nat
  high : Nat
  closed : Bool
  step : Nat
  deriving Repr

/-- Lays the multiples of `10^k` over a number. -/
def Binary.grid (b : Binary) (k : Int) : Grid :=
  let e := b.exponent - 2
  let unit := Nat.pow 10 (-k).toNat <<< e.toNat
  { value := 4 * b.mantissa * unit
    low := (4 * b.mantissa - if b.narrowBelow then 1 else 2) * unit
    high := (4 * b.mantissa + 2) * unit
    closed := b.mantissa % 2 == 0
    step := Nat.pow 10 k.toNat <<< (-e).toNat }

/-- The `n`-th grid point lies in the interval. -/
def Grid.covers (g : Grid) (n : Nat) : Bool :=
  if g.closed then g.low ≤ n * g.step && n * g.step ≤ g.high
  else g.low < n * g.step && n * g.step < g.high

/-- Of the grid points next to the number, the one in the interval; of two, the nearer. -/
def Grid.point? (g : Grid) (tie : Tie) : Option Nat :=
  let below := g.value / g.step
  let above := below + 1
  match g.covers below, g.covers above with
  | false, false => none
  | true, false => some below
  | false, true => some above
  | true, true =>
    let twice := 2 * (g.value % g.step)
    if twice < g.step then some below
    else if g.step < twice then some above
    else if tie = .even ∧ below % 2 = 0 then some below
    else some above

/-- Looks at the grids of `10^k`, `10^(k-1)`, … for the first one with a point. -/
def Binary.search (b : Binary) (tie : Tie) : Nat → Int → Denary
  | 0, k => ⟨(b.grid k).value / (b.grid k).step, k⟩
  | finer + 1, k =>
    match (b.grid k).point? tie with
    | some n => ⟨n, k⟩
    | none => b.search tie finer (k - 1)

/-- The shortest decimal for a number. The first grid is coarser than the number,
and seventeen digits always suffice. -/
def Binary.shortest (b : Binary) (tie : Tie) : Denary :=
  b.search tie 24 ((b.mantissa.log2 + b.exponent) * 30103 / 100000 + 2)

example : (Binary.mk leadingBit (-52) true).shortest .even = ⟨1, 0⟩ := by decide +kernel
example : (Binary.mk 1 (-1074) false).shortest .even = ⟨5, -324⟩ := by decide +kernel

end HostVitals.Decimal
