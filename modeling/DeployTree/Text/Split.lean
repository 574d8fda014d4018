/-! # Parts of a text

A text is split at every occurrence of a separator. There is always at least one
part, and joining the parts gives the text back.
-/

namespace DeployTree.Text

/-- The parts of a text between the separators, in order. -/
def split (separator : Char) : List Char → List (List Char)
  | [] => [[]]
  | c :: rest =>
      if c = separator then [] :: split separator rest
      else
        match split separator rest with
        | [] => [[c]]
        | part :: more => (c :: part) :: more

/-- The text that has the given parts between separators. -/
def join (separator : Char) : List (List Char) → List Char
  | [] => []
  | [part] => part
  | part :: next :: rest => part ++ separator :: join separator (next :: rest)

/-- Every text has at least one part. -/
theorem split_ne_nil (separator : Char) (text : List Char) : split separator text ≠ [] := by
  cases text with
  | nil => simp [split]
  | cons c rest =>
      unfold split
      split
      · simp
      · split <;> simp

/-- Nothing is lost when a text is split. -/
theorem join_split (separator : Char) (text : List Char) :
    join separator (split separator text) = text := by
  induction text with
  | nil => rfl
  | cons c rest ih =>
      cases parts : split separator rest with
      | nil => exact absurd parts (split_ne_nil separator rest)
      | cons part more =>
          rw [parts] at ih
          unfold split
          split
          · rename_i same
            simp [parts, join, ih, same]
          · rw [parts]
            cases more with
            | nil => simpa [join] using ih
            | cons next further => simpa [join] using ih

end DeployTree.Text
