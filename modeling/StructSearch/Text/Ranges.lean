/-!
# Ranges of code points

Membership in a list of closed ranges, the form in which the library keeps the properties of
Unicode that it asks about.
-/

namespace StructSearch.Text

/-- Whether `n` lies in one of the closed ranges. -/
def inRanges (ranges : List (Nat × Nat)) (n : Nat) : Bool :=
  ranges.any fun r => r.1 ≤ n && n ≤ r.2

end StructSearch.Text
