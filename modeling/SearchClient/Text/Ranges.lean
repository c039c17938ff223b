/-!
# Character classes by ranges

A class of characters is a list of ranges of code points, both ends included.
-/

namespace SearchClient

abbrev CharRanges := List (Nat × Nat)

def CharRanges.contains (ranges : CharRanges) (c : Char) : Bool :=
  ranges.any fun (low, high) => low ≤ c.toNat && c.toNat ≤ high

end SearchClient
