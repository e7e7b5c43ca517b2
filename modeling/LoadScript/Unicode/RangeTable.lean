set_option autoImplicit false
set_option relaxedAutoImplicit false

namespace LoadScript.Unicode

/-- Inclusive ranges of code points, ascending and disjoint. -/
abbrev RangeTable := List (Nat × Nat)

/-- Membership of a code point; the search stops at the first range that starts beyond it. -/
def RangeTable.holds : RangeTable → Nat → Bool
  | [], _ => false
  | (low, high) :: rest, n => if n < low then false else if n ≤ high then true else RangeTable.holds rest n

def RangeTable.contains (table : RangeTable) (c : Char) : Bool :=
  RangeTable.holds table c.toNat

end LoadScript.Unicode
