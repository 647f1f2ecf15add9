/-!
# Ranges of code points

Tables of character properties are ascending lists of closed intervals of code points.
-/

namespace Gatehouse.Text

/-- Closed intervals of code points. -/
abbrev Ranges := List (Nat × Nat)

/-- Whether some interval holds the code point. -/
def Ranges.contains (rs : Ranges) (n : Nat) : Bool :=
  rs.any fun r => decide (r.1 ≤ n) && decide (n ≤ r.2)

end Gatehouse.Text
