set_option autoImplicit false

/-! Range tables: finite unions of closed ranges of code points, kept in ascending order. Looking a
number up stops at the first range that starts above it, so a small number is decided by the first
few ranges whatever the size of the table. -/

namespace TokenGrammar.Text

abbrev RangeTable := List (Nat × Nat)

namespace RangeTable

def contains : RangeTable → Nat → Bool
  | [], _ => false
  | (low, high) :: later, number =>
      if number < low then false
      else if number ≤ high then true
      else contains later number

def ascendingFrom : Nat → RangeTable → Bool
  | _, [] => true
  | bound, (low, high) :: later => decide (bound ≤ low) && decide (low ≤ high) &&
      ascendingFrom (high + 1) later

end RangeTable

end TokenGrammar.Text
