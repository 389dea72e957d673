import ShapeLint.Text.Ranges

/-!
White space: the characters with that property, and a larger class, blanks, that also has the four
information separators.
-/
namespace ShapeLint.Text

/-- Characters with the property `White_Space`, Unicode 14. -/
def spaceRanges : List (Nat × Nat) :=
  [(0x9, 0xD), (0x20, 0x20), (0x85, 0x85), (0xA0, 0xA0), (0x1680, 0x1680), (0x2000, 0x200A),
   (0x2028, 0x2029), (0x202F, 0x202F), (0x205F, 0x205F), (0x3000, 0x3000)]

/-- The information separators, of bidirectional type `B` or `S`. -/
def separatorRanges : List (Nat × Nat) := [(0x1C, 0x1F)]

def isSpace (c : Char) : Bool := inRanges spaceRanges c

def isBlank (c : Char) : Bool := isSpace c || inRanges separatorRanges c

/-- Drops the characters of a class at both ends. -/
def trimBy (drops : Char → Bool) (s : List Char) : List Char :=
  ((s.dropWhile drops).reverse.dropWhile drops).reverse

end ShapeLint.Text
