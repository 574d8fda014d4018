import DeployTree.Environment.Interpolator

/-! # Where placeholders stand in a text

The placeholders of a text are those whose characters occur in it and whose names are words
(`DeployTree.Placeholder.mem_occurrences_iff`). The character that opens a placeholder stands
nowhere else in it, so two occurrences never overlap. A search that goes on behind the placeholder
found last therefore finds them all (`DeployTree.Placeholder.scan_eq_occurrences`), and replacing
one placeholder leaves the occurrences of every other one in place
(`DeployTree.Placeholder.mem_occurrences_replaceAll`), whatever the value is.
-/

namespace DeployTree

namespace Placeholder

/-- The name of a placeholder that a text can hold is one or more word characters. -/
structure Named (placeholder : Placeholder) : Prop where
  nonempty : placeholder.name ≠ []
  word : ∀ c ∈ placeholder.name, Text.isWordChar c = true

/-- The placeholders of a text, one for each position where one stands. -/
def occurrences : List Char → List Placeholder
  | [] => []
  | c :: rest =>
      match atFront? (c :: rest) with
      | some placeholder => placeholder :: occurrences rest
      | none => occurrences rest

variable {placeholder other : Placeholder} {text rest value : List Char}

private theorem afterOpening?_eq_some_iff :
    afterOpening? text = some rest ↔ text = opening ++ rest := by
  constructor
  · intro found
    unfold afterOpening? at found
    split at found
    · obtain rfl := Option.some.inj found
      rfl
    · cases found
  · rintro rfl
    rfl

/-- A placeholder stands at the front of a text exactly when the text starts with its characters
and its name is a word. -/
theorem atFront?_eq_some_iff :
    atFront? text = some placeholder ↔ placeholder.Named ∧ placeholder.chars <+: text := by
  have closing : Text.isWordChar '\x7d' = false := by decide
  constructor
  · intro found
    unfold atFront? at found
    split at found
    · cases found
    · rename_i rest opened
      obtain rfl := afterOpening?_eq_some_iff.mp opened
      split at found
      · rename_i c name back taken dropped
        obtain rfl := Option.some.inj found
        have whole : rest = (c :: name) ++ '\x7d' :: back := by
          rw [← taken, ← dropped, List.takeWhile_append_dropWhile]
        refine ⟨⟨by simp, fun d member => ?_⟩, back, ?_⟩
        · exact List.all_eq_true.mp List.all_takeWhile d (taken ▸ member)
        · simp [chars, whole]
      · cases found
  · rintro ⟨named, back, rfl⟩
    have opened : afterOpening? (placeholder.chars ++ back) =
        some (placeholder.name ++ '\x7d' :: back) :=
      afterOpening?_eq_some_iff.mpr (by simp [chars])
    have taken : (placeholder.name ++ '\x7d' :: back).takeWhile Text.isWordChar =
        placeholder.name := by
      rw [List.takeWhile_append_of_pos named.word, List.takeWhile_cons_of_neg (by simp [closing]),
        List.append_nil]
    have dropped : (placeholder.name ++ '\x7d' :: back).dropWhile Text.isWordChar =
        '\x7d' :: back := by
      rw [List.dropWhile_append_of_pos named.word, List.dropWhile_cons_of_neg (by simp [closing])]
    obtain ⟨c, name, same⟩ := List.exists_cons_of_ne_nil named.nonempty
    rw [same] at taken dropped
    unfold atFront?
    rw [opened]
    simp only [same, taken, dropped]
    rw [← same]

/-- The placeholders of a text are that at its front, if any, and those of the rest. -/
theorem occurrences_cons (c : Char) (rest : List Char) :
    occurrences (c :: rest) = (atFront? (c :: rest)).toList ++ occurrences rest := by
  rw [occurrences]
  cases atFront? (c :: rest) <;> rfl

/-- The placeholders of a text are those whose names are words and whose characters occur in it. -/
theorem mem_occurrences_iff :
    placeholder ∈ occurrences text ↔ placeholder.Named ∧ placeholder.chars <:+: text := by
  induction text with
  | nil => simp [occurrences, chars, opening]
  | cons c rest ih =>
      rw [List.infix_cons_iff, and_or_left, ← ih, ← atFront?_eq_some_iff, occurrences_cons,
        List.mem_append, Option.mem_toList]

/-- The characters of a placeholder after the one that opens it. -/
def afterDollar (placeholder : Placeholder) : List Char :=
  ['\x7b', 'e', 'n', 'v', '.'] ++ (placeholder.name ++ ['\x7d'])

/-- The characters of a placeholder start with the one that opens it. -/
theorem chars_eq_cons (placeholder : Placeholder) :
    placeholder.chars = '$' :: placeholder.afterDollar := rfl

/-- Only the first character of a placeholder opens one. -/
theorem Named.dollar_notMem (named : placeholder.Named) : '$' ∉ placeholder.afterDollar := by
  have inName : '$' ∉ placeholder.name := fun member => absurd (named.word _ member) (by decide)
  simp [afterDollar, inName]

/-- No placeholder starts with a character other than the one that opens it. -/
theorem atFront?_cons_of_ne {c : Char} (plain : c ≠ '$') : atFront? (c :: rest) = none := by
  refine Option.eq_none_iff_forall_ne_some.mpr fun placeholder found => ?_
  obtain ⟨-, back, same⟩ := atFront?_eq_some_iff.mp found
  rw [chars_eq_cons, List.cons_append, List.cons.injEq] at same
  exact plain same.1.symm

/-- A character that opens no placeholder adds none to a text. -/
theorem occurrences_cons_of_ne {c : Char} (plain : c ≠ '$') :
    occurrences (c :: rest) = occurrences rest := by
  rw [occurrences_cons, atFront?_cons_of_ne plain, Option.toList_none, List.nil_append]

/-- The search from left to right passes over no placeholder: what it skips holds no opening
character. -/
theorem scan_eq_occurrences {skipped : Nat} (plain : '$' ∉ text.take skipped) :
    scan skipped text = occurrences text := by
  induction text generalizing skipped with
  | nil => rw [scan, occurrences]
  | cons c rest ih =>
      cases skipped with
      | succ skipped =>
          obtain ⟨other, plain⟩ : '$' ≠ c ∧ '$' ∉ rest.take skipped := by simpa using plain
          rw [scan, occurrences_cons_of_ne other.symm, ih plain]
      | zero =>
          rw [scan, occurrences_cons]
          cases found : atFront? (c :: rest) with
          | none => exact ih List.not_mem_nil
          | some placeholder =>
              obtain ⟨named, back, same⟩ := atFront?_eq_some_iff.mp found
              obtain ⟨-, rfl⟩ : '$' = c ∧ placeholder.afterDollar ++ back = rest := by
                rwa [chars_eq_cons, List.cons_append, List.cons.injEq] at same
              have skips : '$' ∉ (placeholder.afterDollar ++ back).take
                  (placeholder.chars.length - 1) := by
                rw [chars_eq_cons, List.length_cons, Nat.add_sub_cancel, List.take_left]
                exact named.dollar_notMem
              exact congrArg (placeholder :: ·) (ih skips)

/-- The distinct placeholders of a text are found at every position where one stands. -/
theorem inText_eq (text : String) : inText text = firsts (occurrences text.toList) := by
  rw [inText, scan_eq_occurrences List.not_mem_nil]

/-- Keeping the first of equal items loses no item. -/
theorem mem_firsts {items : List Placeholder} :
    placeholder ∈ firsts items ↔ placeholder ∈ items := by
  induction items with
  | nil => simp [firsts]
  | cons item items ih =>
      by_cases same : placeholder = item <;> simp [firsts, ih, same]

/-- The placeholders found in a text are those that stand at some position of it. -/
theorem mem_inText_iff {text : String} :
    placeholder ∈ inText text ↔ placeholder ∈ occurrences text.toList := by
  rw [inText_eq, mem_firsts]

/-- The name of the variable is what stands between the brackets. -/
theorem variableName_eq (placeholder : Placeholder) :
    placeholder.variableName = String.ofList placeholder.name := by
  have opened : afterOpening? placeholder.chars = some (placeholder.name ++ ['\x7d']) :=
    afterOpening?_eq_some_iff.mpr rfl
  simp [variableName, nameIn, opened]

/-- Text without the opening character is not touched by a replacement. -/
theorem replaceAll_append_of_dollar_notMem {front back : List Char} (clean : '$' ∉ front) :
    replaceAll placeholder.chars value 0 (front ++ back) =
      front ++ replaceAll placeholder.chars value 0 back := by
  induction front with
  | nil => rfl
  | cons c front ih =>
      obtain ⟨other, clean⟩ : '$' ≠ c ∧ '$' ∉ front := by simpa using clean
      have apart : placeholder.chars.isPrefixOf (c :: (front ++ back)) = false := by
        simp [chars_eq_cons, List.isPrefixOf, other]
      rw [List.cons_append, replaceAll, if_neg (by simp [apart]), ih clean, List.cons_append]

/-- An occurrence of one placeholder ends before the occurrence of another that comes later. -/
theorem Named.length_chars_le (named : placeholder.Named) {c : Char} {front back : List Char}
    (starts : placeholder.chars <+: c :: (front ++ other.chars ++ back)) :
    placeholder.chars.length ≤ front.length + 1 := by
  obtain ⟨rest, same⟩ := starts
  rw [chars_eq_cons, List.cons_append, List.cons.injEq] at same
  refine Nat.le_of_not_gt fun longer => ?_
  have inside : front.length < placeholder.afterDollar.length := by
    rw [chars_eq_cons, List.length_cons] at longer
    omega
  have opening : placeholder.afterDollar[front.length]? = some '$' := by
    have here : (placeholder.afterDollar ++ rest)[front.length]? = some '$' := by
      rw [same.2, List.append_assoc, List.getElem?_append_right (Nat.le_refl _), chars_eq_cons]
      simp
    rwa [List.getElem?_append_left inside] at here
  exact named.dollar_notMem (List.mem_of_getElem? opening)

/-- A replacement leaves another placeholder at the front of a text as it is. -/
theorem Named.replaceAll_other_append (named : placeholder.Named) (namedOther : other.Named)
    (apart : placeholder ≠ other) (back : List Char) :
    replaceAll placeholder.chars value 0 (other.chars ++ back) =
      other.chars ++ replaceAll placeholder.chars value 0 back := by
  have elsewhere : placeholder.chars.isPrefixOf (other.chars ++ back) = false := by
    refine Bool.eq_false_iff.mpr fun starts => ?_
    have atFront := atFront?_eq_some_iff.mpr ⟨named, List.isPrefixOf_iff_prefix.mp starts⟩
    have own := atFront?_eq_some_iff.mpr ⟨namedOther, List.prefix_append other.chars back⟩
    exact apart (Option.some.inj (atFront.symm.trans own))
  rw [chars_eq_cons other, List.cons_append] at elsewhere ⊢
  rw [replaceAll, if_neg (by simp [elsewhere]),
    replaceAll_append_of_dollar_notMem namedOther.dollar_notMem, List.cons_append]

/-- Replacing a placeholder keeps the occurrence of another one that has not been passed over. -/
theorem Named.infix_replaceAll (named : placeholder.Named) (namedOther : other.Named)
    (apart : placeholder ≠ other) (front back : List Char) :
    ∀ {skipped : Nat}, skipped ≤ front.length →
      other.chars <:+:
        replaceAll placeholder.chars value skipped (front ++ other.chars ++ back) := by
  induction front with
  | nil =>
      intro skipped within
      obtain rfl : skipped = 0 := by simpa using within
      rw [List.nil_append, named.replaceAll_other_append namedOther apart]
      exact (List.prefix_append _ _).isInfix
  | cons c front ih =>
      intro skipped within
      rw [List.cons_append, List.cons_append]
      cases skipped with
      | succ skipped =>
          rw [replaceAll]
          exact ih (by simpa using within)
      | zero =>
          rw [replaceAll]
          split
          · rename_i starts
            have ends := named.length_chars_le (List.isPrefixOf_iff_prefix.mp starts)
            have later : other.chars <:+: replaceAll placeholder.chars value
                (placeholder.chars.length - 1) (front ++ other.chars ++ back) := ih (by omega)
            exact later.trans (List.suffix_append _ _).isInfix
          · exact List.infix_cons (ih (Nat.zero_le _))

/-- Replacing a placeholder leaves every other placeholder of the text in place. -/
theorem mem_occurrences_replaceAll (named : placeholder.Named) (apart : placeholder ≠ other)
    (member : other ∈ occurrences text) :
    other ∈ occurrences (replaceAll placeholder.chars value 0 text) := by
  obtain ⟨namedOther, front, back, rfl⟩ := mem_occurrences_iff.mp member
  exact mem_occurrences_iff.mpr
    ⟨namedOther, named.infix_replaceAll namedOther apart front back (Nat.zero_le _)⟩

end Placeholder

end DeployTree
