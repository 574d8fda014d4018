import DeployTree.Proofs.Pattern.Language

/-! # Characters that a pattern never admits

An expression omits a character when none of its sets and single characters admits it. No text of
its language then holds the character (`DeployTree.Regex.notMem_of_matches`). For a pattern the
character has to be one that folding leaves alone
(`DeployTree.Pattern.notMem_of_accepts`). Of the patterns that deployments are checked with, none
admits the character that opens a placeholder, and names of identifiers hold no dot.
-/

namespace DeployTree

namespace Regex

/-- Whether no set and no single character of an expression admits a character. -/
def omits (c : Char) : Regex → Bool
  | .never => true
  | .empty => true
  | .char own => own ≠ c
  | .oneOf items => !items.any (·.test c)
  | .seq first second => omits c first && omits c second
  | .alt left right => omits c left && omits c right
  | .rep body _ _ => omits c body

/-- A character that an expression omits is in no text of its language. -/
theorem notMem_of_matches {expression : Regex} {text : List Char} {c : Char}
    (matched : Matches expression text) (omitted : expression.omits c = true) : c ∉ text := by
  induction matched with
  | empty | done => simp
  | char own =>
      have other : own ≠ c := by simpa [omits] using omitted
      simpa using other.symm
  | @oneOf items own hit =>
      intro member
      obtain rfl : c = own := by simpa using member
      simp [omits, hit] at omitted
  | seq _ _ ihFront ihBack =>
      obtain ⟨front, back⟩ : omits c _ = true ∧ omits c _ = true := by
        simpa [omits] using omitted
      simp [ihFront front, ihBack back]
  | left _ ih =>
      exact ih (by simpa [omits] using And.left (by simpa [omits] using omitted))
  | right _ ih =>
      exact ih (by simpa [omits] using And.right (by simpa [omits] using omitted))
  | more _ _ ihFront ihBack => simp [ihFront omitted, ihBack omitted]
  | moreWithin _ _ ihFront ihBack => simp [ihFront omitted, ihBack omitted]

end Regex

namespace Pattern

variable {pattern : Pattern} {text : String}

/-- A text that fits a pattern holds no character that the pattern omits. -/
theorem notMem_of_accepts {c : Char} (accepted : pattern.accepts text = true)
    (omitted : pattern.body.omits c = true) (unfolded : Text.foldCase c = c) :
    c ∉ text.toList := by
  intro member
  have matched := (Regex.accepts_iff_matches _ _).mp accepted
  refine Regex.notMem_of_matches matched omitted ?_
  split
  · exact List.mem_map.mpr ⟨c, member, unfolded⟩
  · exact member

/-- The patterns that deployments are checked with. -/
def checked : List Pattern :=
  [sqlIdentifier, region, dottedPrefix, fourPartName, threePartName, roleName, flagText,
    twoPartNameOrEmpty, storageFormat, dataType, bucketName]

private theorem omits_dollar_of_mem {pattern : Pattern} (listed : pattern ∈ checked) :
    pattern.body.omits '$' = true := by
  revert pattern
  decide

/-- Identifiers have no dot in them. -/
theorem dot_notMem_of_sqlIdentifier (accepted : sqlIdentifier.accepts text = true) :
    '.' ∉ text.toList :=
  notMem_of_accepts accepted (by decide) (by decide)

/-- The patterns of deployments admit no character that opens a placeholder. -/
theorem dollar_notMem_of_accepts (accepted : pattern.accepts text = true)
    (listed : pattern ∈ checked) : '$' ∉ text.toList :=
  notMem_of_accepts accepted (omits_dollar_of_mem listed) (by decide)

end Pattern

end DeployTree
