/-!
# Ranges of characters

A property of characters is stored as a list of ranges of their numbers, both ends included.
-/

namespace CriticalDamage.Text

/-- The character's number lies in one of the ranges. -/
def inRanges (ranges : List (Nat × Nat)) (c : Char) : Bool :=
  ranges.any fun r => r.1 ≤ c.toNat && c.toNat ≤ r.2

end CriticalDamage.Text
