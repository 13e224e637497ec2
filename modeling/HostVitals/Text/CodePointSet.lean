/-!
# Sets of code points

A property of characters, given by the ascending list of the code points at which
it starts or stops to hold.
-/

namespace HostVitals.Text

/-- A set of code points. No code point below the first flip is a member; at each
flip membership changes. -/
structure CodePointSet where
  flips : List Nat

/-- A character is a member when an odd number of flips lie at or below it. -/
def CodePointSet.contains (s : CodePointSet) (c : Char) : Bool :=
  (s.flips.takeWhile (· ≤ c.toNat)).length % 2 == 1

example : (CodePointSet.mk [0x41, 0x5B]).contains 'Z' = true := by decide
example : (CodePointSet.mk [0x41, 0x5B]).contains '[' = false := by decide

end HostVitals.Text
