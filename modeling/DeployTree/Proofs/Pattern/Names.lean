import DeployTree.Proofs.Pattern.Language

/-! # Identifiers and dotted names

A repeat of a set of characters has the texts of an admitted length that are made of these
characters (`DeployTree.Regex.matches_rep_oneOf_iff`). A segment of a dotted name is therefore a
text of word characters, and every identifier is one: it starts with a letter, and only so many of
its characters may follow its first letters (`DeployTree.Pattern.accepts_sqlIdentifier_iff`). An
identifier in front of a name of three parts makes a name of four
(`DeployTree.Pattern.accepts_fourPartName_of_accepts`).
-/

namespace DeployTree

namespace Regex

variable {items : List CharItem} {text : List Char} {c : Char}

private theorem matches_oneOf_cons_iff {second : Regex} :
    (∃ front back, c :: text = front ++ back ∧ Matches (.oneOf items) front ∧
        Matches second back) ↔ items.any (·.test c) = true ∧ Matches second text := by
  constructor
  · rintro ⟨front, back, same, matched, rest⟩
    obtain ⟨own, hit, rfl⟩ := matches_oneOf_iff.mp matched
    obtain ⟨rfl, rfl⟩ : c = own ∧ text = back := by simpa using same
    exact ⟨hit, rest⟩
  · rintro ⟨hit, rest⟩
    exact ⟨[c], text, rfl, .oneOf hit, rest⟩

/-- A repeated class matches the texts of its characters whose length is within the bounds. -/
theorem matches_rep_oneOf_iff {least : Nat} {most : Option Nat} :
    Matches (.rep (.oneOf items) least most) text ↔
      (∀ c ∈ text, items.any (·.test c) = true) ∧ least ≤ text.length ∧
        ∀ bound, most = some bound → text.length ≤ bound := by
  induction text generalizing least most with
  | nil =>
      rw [← nullable_iff]
      cases most <;> simp [nullable]
  | cons c rest ih =>
      rw [matches_rep_iff, matches_oneOf_cons_iff, repeatLess, ih]
      simp only [reduceCtorEq, and_false, false_or, List.forall_mem_cons, List.length_cons,
        Option.map_eq_some_iff]
      -- One character uses up one of each bound, and an upper bound of none is no repeat at all.
      have lower : least - 1 ≤ rest.length ↔ least ≤ rest.length + 1 := by omega
      have upper : (most ≠ some 0 ∧ ∀ bound, (∃ own, most = some own ∧ own - 1 = bound) →
          rest.length ≤ bound) ↔ ∀ bound, most = some bound → rest.length + 1 ≤ bound := by
        cases most with
        | none => simp
        | some own =>
            simp only [ne_eq, Option.some.injEq, exists_eq_left', forall_eq']
            omega
      rw [lower, ← upper]
      constructor
      · rintro ⟨open_, hit, all, enough, within⟩
        exact ⟨⟨hit, all⟩, enough, open_, within⟩
      · rintro ⟨⟨hit, all⟩, enough, open_, within⟩
        exact ⟨open_, hit, all, enough, within⟩

end Regex

namespace Text

variable {c : Char}

/-- The letters of identifiers are the letters of the basic alphabet. -/
theorem letter_iff_isAlpha :
    [CharItem.range 'a' 'z', .range 'A' 'Z'].any (·.test c) = true ↔ c.isAlpha = true := by
  have upper : c.isUpper = true ↔ 'A' ≤ c ∧ c ≤ 'Z' := decide_eq_true_iff
  have lower : c.isLower = true ↔ 'a' ≤ c ∧ c ≤ 'z' := by
    change (decide ('a' ≤ c) && decide (c ≤ 'z')) = true ↔ _
    rw [Bool.and_eq_true, decide_eq_true_iff, decide_eq_true_iff]
  have either : c.isAlpha = true ↔ c.isUpper = true ∨ c.isLower = true := Bool.or_eq_true_iff
  rw [either, upper, lower]
  simp [CharItem.test, or_comm]

private theorem isWordChar_of_isAlpha (alphabetic : c.isAlpha = true) : isWordChar c = true := by
  have basic : c.toNat < 128 := by
    have bounds : ('a' ≤ c ∧ c ≤ 'z') ∨ ('A' ≤ c ∧ c ≤ 'Z') := by
      simpa [CharItem.test] using letter_iff_isAlpha.mpr alphabetic
    rcases bounds with ⟨-, upper⟩ | ⟨-, upper⟩
    · exact Nat.lt_of_le_of_lt upper (by decide)
    · exact Nat.lt_of_le_of_lt upper (by decide)
  have alphanumeric : c.isAlphanum = true := Bool.or_eq_true_iff.mpr (.inl alphabetic)
  rw [isWordChar, if_pos basic, alphanumeric]
  rfl

/-- The separator of segments stands in no segment. -/
theorem isWordChar_dot : isWordChar '.' = false := by
  decide

end Text

namespace Pattern

open Regex

variable {environment name : String} {text : List Char}

/-- A segment is a text of word characters that is not empty. -/
theorem matches_segment_iff :
    Matches segment text ↔ text ≠ [] ∧ ∀ c ∈ text, Text.isWordChar c = true := by
  rw [segment, plus, wordChar, matches_rep_oneOf_iff]
  simp [CharItem.test, Nat.one_le_iff_ne_zero, and_comm]

/-- **Identifiers.** An identifier starts with a letter and has word characters only, of which at
most 127 follow its longest front of letters: the expression may take fewer letters for its front,
but that leaves it more characters to count. -/
theorem accepts_sqlIdentifier_iff :
    sqlIdentifier.accepts name = true ↔
      name.toList.head?.any Char.isAlpha = true ∧
        (∀ c ∈ name.toList, Text.isWordChar c = true) ∧
        (name.toList.dropWhile Char.isAlpha).length ≤ 127 := by
  have accepts : sqlIdentifier.accepts name = true ↔ ∃ front back, name.toList = front ++ back ∧
      ((∀ c ∈ front, c.isAlpha = true) ∧ 1 ≤ front.length) ∧
      (∀ c ∈ back, Text.isWordChar c = true) ∧ back.length ≤ 127 := by
    refine (accepts_iff_matches _ name.toList).trans (matches_seq_iff.trans ?_)
    simp only [plus, letter, wordChar, matches_rep_oneOf_iff, Text.letter_iff_isAlpha]
    simp [CharItem.test]
  rw [accepts]
  constructor
  · rintro ⟨front, back, split, ⟨letters, nonempty⟩, word, short⟩
    rw [split]
    refine ⟨?_, ?_, ?_⟩
    · cases front with
      | nil => cases nonempty
      | cons first rest => exact letters first (List.mem_cons_self ..)
    · intro c member
      rcases List.mem_append.mp member with inFront | inBack
      · exact Text.isWordChar_of_isAlpha (letters c inFront)
      · exact word c inBack
    · rw [List.dropWhile_append_of_pos letters]
      exact Nat.le_trans (List.dropWhile_suffix _).length_le short
  · rintro ⟨starts, word, short⟩
    refine ⟨_, _, List.takeWhile_append_dropWhile.symm, ⟨?_, ?_⟩, ?_, short⟩
    · exact List.all_eq_true.mp List.all_takeWhile
    · cases chars : name.toList with
      | nil => simp [chars] at starts
      | cons first rest =>
          have letter : first.isAlpha = true := by simpa [chars] using starts
          rw [List.takeWhile_cons_of_pos letter]
          exact Nat.le_add_left 1 _
    · exact fun c member => word c ((List.dropWhile_suffix _).mem member)

private theorem matches_segment_of_accepts (accepted : sqlIdentifier.accepts name = true) :
    Matches segment name.toList := by
  obtain ⟨starts, word, -⟩ := accepts_sqlIdentifier_iff.mp accepted
  refine matches_segment_iff.mpr ⟨?_, word⟩
  intro empty
  rw [empty] at starts
  cases starts

/-- A name of three parts is three segments with dots between them. -/
theorem accepts_threePartName_iff :
    threePartName.accepts name = true ↔
      ∃ domain schema own : List Char, name.toList = domain ++ '.' :: (schema ++ '.' :: own) ∧
        Matches segment domain ∧ Matches segment schema ∧ Matches segment own := by
  refine (accepts_iff_matches _ name.toList).trans ?_
  simp only [threePartName, matches_inOrder_cons_iff, matches_char_iff]
  constructor
  · rintro ⟨domain, _, split, domainFits, _, _, rfl, rfl, schema, _, rfl, schemaFits, _, _, rfl,
      rfl, own, _, rfl, ownFits, last⟩
    rw [inOrder, matches_empty_iff] at last
    exact ⟨domain, schema, own, by simpa [last] using split, domainFits, schemaFits, ownFits⟩
  · rintro ⟨domain, schema, own, split, domainFits, schemaFits, ownFits⟩
    exact ⟨domain, _, split, domainFits, ['.'], _, rfl, rfl, schema, _, rfl, schemaFits,
      ['.'], _, rfl, rfl, own, [], (List.append_nil own).symm, ownFits, .empty⟩

/-- An identifier, a dot and a name of three parts are a name of four parts. -/
theorem accepts_fourPartName_of_accepts (environmentFits : sqlIdentifier.accepts environment = true)
    (nameFits : threePartName.accepts name = true) :
    fourPartName.accepts (environment ++ "." ++ name) = true := by
  have three : Matches threePartName.body name.toList := (accepts_iff_matches _ _).mp nameFits
  have chars : (environment ++ "." ++ name).toList =
      environment.toList ++ (['.'] ++ name.toList) := by
    simp
  refine (accepts_iff_matches _ _).mpr ?_
  change Matches fourPartName.body (environment ++ "." ++ name).toList
  rw [chars, fourPartName, matches_inOrder_cons_iff]
  refine ⟨_, _, rfl, matches_segment_of_accepts environmentFits, ?_⟩
  rw [matches_inOrder_cons_iff]
  exact ⟨_, _, rfl, .char '.', three⟩

end Pattern

end DeployTree
