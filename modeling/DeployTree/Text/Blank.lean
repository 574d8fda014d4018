import DeployTree.Text.Ranges

/-! # Blanks

A blank is a character with the property White_Space: the blanks and line ends of
the first 128 code points and those that are tabulated (Unicode 16).
-/

namespace DeployTree.Text

/-- The characters with the property White_Space. -/
def blankRanges : List (Nat × Nat) :=
  [(0x9, 0xd), (0x20, 0x20), (0x85, 0x85), (0xa0, 0xa0), (0x1680, 0x1680), (0x2000, 0x200a),
   (0x2028, 0x2029), (0x202f, 0x202f), (0x205f, 0x205f), (0x3000, 0x3000)]

/-- Whether a character is a blank. -/
def isBlank (c : Char) : Bool := within blankRanges c.toNat

end DeployTree.Text
