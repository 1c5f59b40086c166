/-!
# Classes of characters given by ranges

The classes of characters in these modules are tables of ranges of code points, in ascending
order.
-/

namespace BoundedVars.Text

/-- A character stands in one of several ranges, both ends included. -/
def isInRanges (ranges : Array (Nat × Nat)) (c : Char) : Bool :=
  ranges.any fun r => r.1 ≤ c.toNat && c.toNat ≤ r.2

end BoundedVars.Text
