/-!
# Ranges of code points

A class of characters is given by the closed ranges of its code points, in ascending order.
-/

namespace SetupScript.Character

/-- Closed ranges of code points. -/
abbrev Ranges := List (Nat × Nat)

/-- A code point belongs to the ranges when one of them encloses it. -/
def Ranges.contains (ranges : Ranges) (codePoint : Nat) : Bool :=
  ranges.any fun range => range.1 ≤ codePoint && codePoint ≤ range.2

end SetupScript.Character
