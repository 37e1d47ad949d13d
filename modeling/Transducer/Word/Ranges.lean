/-!
Classes of characters that are given by ranges of code points.
-/

namespace Transducer

/-- The character lies in one of the ranges, whose ends belong to them. -/
def inRanges (ranges : List (Nat × Nat)) (c : Char) : Bool :=
  ranges.any fun (first, last) => first ≤ c.toNat && c.toNat ≤ last

end Transducer
