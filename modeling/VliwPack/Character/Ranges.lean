/-! # Ranges of characters

A property of characters is kept as the closed ranges of code points that have it,
in ascending order and with a gap after each. The lists of ranges in this folder are
those of Unicode 17.0.
-/

namespace VliwPack.Character

/-- Closed ranges of code points. -/
abbrev Ranges : Type := List (Nat × Nat)

namespace Ranges

/-- A range holds the character. -/
def contains (ranges : Ranges) (c : Char) : Bool :=
  ranges.any fun (first, last) => first ≤ c.toNat && c.toNat ≤ last

end Ranges

end VliwPack.Character
