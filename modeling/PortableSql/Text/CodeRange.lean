import PortableSql.Text.Basic

/-!
# Classes of characters

A class of characters is an ascending list of ranges of code points, both ends included.
-/

namespace PortableSql

/-- The code points from the first to the second, both included. -/
abbrev CodeRange := Nat × Nat

namespace CodeRange

/-- Membership in an ascending list of ranges. -/
def covers : List CodeRange → Nat → Bool
  | [], _ => false
  | (first, last) :: ranges, n => if n < first then false else n ≤ last || covers ranges n

end CodeRange

end PortableSql
