/-!
# Ranges of characters

A property of characters is given by the ranges of the code points that have it.
-/

namespace ProgramGuide.Text

abbrev Ranges := List (Nat × Nat)

def Ranges.has (ranges : Ranges) (c : Char) : Bool :=
  ranges.any fun (first, last) => first ≤ c.toNat && c.toNat ≤ last

end ProgramGuide.Text
