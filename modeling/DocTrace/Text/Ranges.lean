/-!
Sets of characters given by inclusive ranges of code points.
-/

namespace DocTrace.Text

abbrev Ranges := List (Nat × Nat)

def Ranges.contains (rs : Ranges) (c : Char) : Bool :=
  rs.any fun r => r.1 ≤ c.toNat && c.toNat ≤ r.2

end DocTrace.Text
