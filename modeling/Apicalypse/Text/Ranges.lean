/-!
# Sets of characters given by ranges of code points

A property of characters is kept as the ascending list of its ranges, both ends included.
-/

namespace Apicalypse.Text

/-- Ranges of code points, both ends included. -/
abbrev Ranges := List (Nat × Nat)

namespace Ranges

/-- The character lies in one of the ranges. -/
def contains (ranges : Ranges) (c : Char) : Bool :=
  ranges.any fun (first, last) => first ≤ c.toNat && c.toNat ≤ last

end Ranges

end Apicalypse.Text
