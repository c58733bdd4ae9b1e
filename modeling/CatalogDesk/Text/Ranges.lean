/-! # Ranges of characters

    Properties of characters are given as lists of ranges of code points, each with
    its first and last member, in ascending order. -/

namespace CatalogDesk.Text

/-- First and last code point of each range. -/
abbrev Ranges := List (Nat × Nat)

/-- Is the code point in one of the ranges?  The search ends at the first range that
    starts beyond it. -/
def Ranges.contains (n : Nat) : Ranges → Bool
  | [] => false
  | (low, high) :: rest => if n < low then false else n ≤ high || contains n rest

end CatalogDesk.Text
