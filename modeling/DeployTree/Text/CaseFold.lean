/-! # Letters without regard to case

Two letters differ in case only if they fold to the same letter. Besides the
capitals of the basic alphabet, two more characters fold to one of its small
letters: the long s and the Kelvin sign. A character that folds to none of these
letters is left as it is.
-/

namespace DeployTree.Text

/-- The small letter of the basic alphabet that a character folds to, else the character. -/
def foldCase (c : Char) : Char :=
  if c = '\u017f' then 's'
  else if c = '\u212a' then 'k'
  else c.toLower

end DeployTree.Text
