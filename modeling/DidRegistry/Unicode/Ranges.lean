/-!
Sets of characters, given by ranges of code points.
-/

namespace DidRegistry.Unicode

/-- Ranges of code points, each from its first to its last. -/
abbrev Ranges := List (Nat × Nat)

/-- Whether a character lies in one of the ranges. -/
def Ranges.contains (ranges : Ranges) (c : Char) : Bool :=
  ranges.any fun (first, last) => first ≤ c.toNat && c.toNat ≤ last

/-- Whether a character is one of ASCII. -/
def isAscii (c : Char) : Bool := c.toNat < 128

end DidRegistry.Unicode
