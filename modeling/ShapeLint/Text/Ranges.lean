/-!
Classes of characters as lists of closed intervals of code points.
-/
namespace ShapeLint.Text

/-- Membership in a class given by its intervals. -/
def inRanges (ranges : List (Nat × Nat)) (c : Char) : Bool :=
  ranges.any fun (first, last) => first ≤ c.toNat && c.toNat ≤ last

end ShapeLint.Text
