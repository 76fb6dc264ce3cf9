/-!
# Sets of code points

A set of code points is given by its ranges in increasing order.

* `CodePoints` — such a set.
* `CodePoints.contains` — membership, which stops at the first range behind the code point.
-/

set_option autoImplicit false

namespace Welfare.Text

/-- A set of code points: its ranges, first and last point, in increasing order. -/
abbrev CodePoints := List (Nat × Nat)

namespace CodePoints

/-- Whether a code point belongs to the set. -/
def contains (n : Nat) : CodePoints → Bool
  | [] => false
  | (first, last) :: rest => if n < first then false else n ≤ last || contains n rest

end CodePoints

end Welfare.Text
