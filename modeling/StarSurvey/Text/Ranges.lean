/-!
# Characters by ranges

A class of characters is a list of ranges of code points, in ascending order.
-/

namespace StarSurvey.Text

/-- Ranges of code points, the first and the last of each. -/
abbrev Ranges := List (Nat × Nat)

def Ranges.contain (rs : Ranges) (c : Char) : Bool :=
  rs.any fun (first, last) => first ≤ c.toNat && c.toNat ≤ last

end StarSurvey.Text
