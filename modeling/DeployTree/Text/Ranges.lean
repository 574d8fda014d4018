/-! # Sets of characters given by ranges

A property of characters is tabulated as the ascending list of the ranges of code
points that have it, both ends included.
-/

namespace DeployTree.Text

/-- Whether a code point lies in one of the ranges of an ascending table. -/
def within : List (Nat × Nat) → Nat → Bool
  | [], _ => false
  | (low, high) :: rest, code =>
      if code < low then false else decide (code ≤ high) || within rest code

end DeployTree.Text
