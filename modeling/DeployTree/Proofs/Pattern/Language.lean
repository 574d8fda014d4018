import DeployTree.Pattern

/-! # The language of an expression

Derivatives decide membership: an expression accepts a text exactly when the text belongs to its
language (`DeployTree.Regex.accepts_iff_matches`). The derivative by a character keeps the texts
that complete the character (`DeployTree.Regex.matches_derive_iff`), and an expression accepts
nothing more exactly when it has the empty text (`DeployTree.Regex.nullable_iff`). The smart
constructors change the shape of an expression and not its language.
-/

namespace DeployTree.Regex

variable {first second left right body : Regex} {text : List Char} {c : Char}

private theorem not_matches_never : ¬ Matches .never text := nofun

/-- The empty expression matches the empty text. -/
theorem matches_empty_iff : Matches .empty text ↔ text = [] := by
  constructor
  · rintro ⟨⟩
    rfl
  · rintro rfl
    exact .empty

/-- A character matches itself. -/
theorem matches_char_iff : Matches (.char c) text ↔ text = [c] := by
  constructor
  · rintro ⟨⟩
    rfl
  · rintro rfl
    exact .char c

/-- A class matches each of its characters. -/
theorem matches_oneOf_iff {items : List CharItem} :
    Matches (.oneOf items) text ↔ ∃ c, items.any (·.test c) = true ∧ text = [c] := by
  constructor
  · intro matched
    cases matched with
    | oneOf hit => exact ⟨_, hit, rfl⟩
  · rintro ⟨c, hit, rfl⟩
    exact .oneOf hit

/-- Two expressions in a row match two parts of the text. -/
theorem matches_seq_iff :
    Matches (.seq first second) text ↔
      ∃ front back, text = front ++ back ∧ Matches first front ∧ Matches second back := by
  constructor
  · intro matched
    cases matched with
    | seq front back => exact ⟨_, _, rfl, front, back⟩
  · rintro ⟨front, back, rfl, matchedFront, matchedBack⟩
    exact .seq matchedFront matchedBack

private theorem matches_alt_iff :
    Matches (.alt left right) text ↔ Matches left text ∨ Matches right text := by
  constructor
  · intro matched
    cases matched with
    | left matched => exact .inl matched
    | right matched => exact .inr matched
  · rintro (matched | matched)
    · exact .left matched
    · exact .right matched

/-- A bounded repeat has texts only when its bounds are in order. -/
theorem Matches.least_le {least most : Nat} (matched : Matches (.rep body least (some most)) text) :
    least ≤ most := by
  generalize same : Regex.rep body least (some most) = whole at matched
  induction matched generalizing least most with
  | empty | char | oneOf | seq | left | right | more => cases same
  | done =>
      cases same
      exact Nat.zero_le _
  | moreWithin _ _ _ ih =>
      cases same
      have shorter := ih rfl
      omega

/-- A repeat without lower bound has the empty text, and every repeat that may go on has a text of
its body followed by a text of the repeat that is left. -/
theorem matches_rep_iff {least : Nat} {most : Option Nat} :
    Matches (.rep body least most) text ↔
      (least = 0 ∧ text = []) ∨
        (most ≠ some 0 ∧ ∃ front back, text = front ++ back ∧ Matches body front ∧
          Matches (repeatLess body least most) back) := by
  constructor
  · intro matched
    cases matched with
    | done => exact .inl ⟨rfl, rfl⟩
    | more front back => exact .inr ⟨by simp, _, _, rfl, front, back⟩
    | moreWithin front back => exact .inr ⟨by simp, _, _, rfl, front, back⟩
  · rintro (⟨rfl, rfl⟩ | ⟨open_, front, back, rfl, matchedFront, matchedBack⟩)
    · exact .done
    · match most with
      | none => exact .more matchedFront matchedBack
      | some 0 => exact absurd rfl open_
      | some (most + 1) => exact .moreWithin matchedFront matchedBack

private theorem matches_followedBy_iff :
    Matches (followedBy first second) text ↔ Matches (.seq first second) text := by
  rw [matches_seq_iff]
  unfold followedBy
  split
  · constructor
    · exact fun matched => absurd matched not_matches_never
    · rintro ⟨_, _, _, matched, _⟩
      exact absurd matched not_matches_never
  · constructor
    · exact fun matched => absurd matched not_matches_never
    · rintro ⟨_, _, _, _, matched⟩
      exact absurd matched not_matches_never
  · constructor
    · exact fun matched => ⟨[], text, rfl, .empty, matched⟩
    · rintro ⟨front, back, rfl, matchedFront, matchedBack⟩
      rw [matches_empty_iff.mp matchedFront]
      exact matchedBack
  · constructor
    · exact fun matched => ⟨text, [], by simp, matched, .empty⟩
    · rintro ⟨front, back, rfl, matchedFront, matchedBack⟩
      rw [matches_empty_iff.mp matchedBack, List.append_nil]
      exact matchedFront
  · exact matches_seq_iff

private theorem matches_orElse_iff :
    Matches (orElse left right) text ↔ Matches left text ∨ Matches right text := by
  unfold orElse
  split
  · exact ⟨.inr, fun either => either.resolve_left not_matches_never⟩
  · exact ⟨.inl, fun either => either.resolve_right not_matches_never⟩
  · exact matches_alt_iff

/-- A repeat of a body with the empty text has the empty text when its bounds are in order. -/
theorem matches_rep_nil {most : Option Nat} (matched : Matches body []) :
    ∀ {least : Nat}, (∀ bound, most = some bound → least ≤ bound) →
      Matches (.rep body least most) [] := by
  intro least
  induction least generalizing most with
  | zero => exact fun _ => .done
  | succ least ih =>
      intro ordered
      match most with
      | none => exact matches_rep_iff.mpr (.inr ⟨by simp, [], [], rfl, matched, ih (by simp)⟩)
      | some 0 => exact absurd (ordered 0 rfl) (by omega)
      | some (most + 1) =>
          refine matches_rep_iff.mpr (.inr ⟨by simp, [], [], rfl, matched, ih ?_⟩)
          intro bound same
          have within := ordered (most + 1) rfl
          obtain rfl : most = bound := Option.some.inj same
          omega

/-- An expression is nullable exactly when it has the empty text. -/
theorem nullable_iff (expression : Regex) : expression.nullable = true ↔ Matches expression [] := by
  induction expression with
  | never => simpa [nullable] using not_matches_never
  | empty => simpa [nullable] using Matches.empty
  | char c => simp [nullable, matches_char_iff]
  | oneOf items => simp [nullable, matches_oneOf_iff]
  | seq first second ihFirst ihSecond =>
      simp [nullable, matches_seq_iff, ihFirst, ihSecond, and_assoc]
  | alt left right ihLeft ihRight => simp [nullable, matches_alt_iff, ihLeft, ihRight]
  | rep body least most ih =>
      have emptyBody : Matches (.rep body least most) [] → least = 0 ∨ Matches body [] := by
        intro matched
        rcases matches_rep_iff.mp matched with ⟨zero, _⟩ | ⟨_, front, back, same, matchedFront, _⟩
        · exact .inl zero
        · obtain ⟨rfl, _⟩ := List.append_eq_nil_iff.mp same.symm
          exact .inr matchedFront
      constructor
      · intro null
        cases most with
        | none =>
            rcases (by simpa [nullable, ih] using null : least = 0 ∨ Matches body []) with
              rfl | matched
            · exact .done
            · exact matches_rep_nil matched (by simp)
        | some bound =>
            rcases (by simpa [nullable, ih] using null :
              least = 0 ∨ Matches body [] ∧ least ≤ bound) with rfl | ⟨matched, ordered⟩
            · exact .done
            · exact matches_rep_nil matched (by simpa using ordered)
      · intro matched
        cases most with
        | none => simpa [nullable, ih] using emptyBody matched
        | some bound =>
            simpa [nullable, ih, matched.least_le] using emptyBody matched

/-- A repeat with a text that starts with `c` has a body text that starts with `c`, followed by a
text of the repeat that is left: body texts that are empty may be dropped. -/
theorem Matches.exists_cons_of_rep {least : Nat} {most : Option Nat}
    (matched : Matches (.rep body least most) (c :: text)) :
    most ≠ some 0 ∧ ∃ front back, text = front ++ back ∧ Matches body (c :: front) ∧
      Matches (repeatLess body least most) back := by
  generalize same : Regex.rep body least most = whole at matched
  generalize sameText : c :: text = full at matched
  induction matched generalizing least most with
  | empty | char | oneOf | seq | left | right => cases same
  | done => cases sameText
  | @more _ least front back matchedFront matchedBack _ ih =>
      cases same
      cases front with
      | cons head front =>
          obtain ⟨rfl, rfl⟩ : c = head ∧ text = front ++ back := by simpa using sameText
          exact ⟨by simp, front, back, rfl, matchedFront, matchedBack⟩
      | nil =>
          obtain ⟨_, front, rest, split, matchedHead, matchedRest⟩ := ih rfl sameText
          exact ⟨by simp, front, rest, split, matchedHead,
            matches_rep_iff.mpr (.inr ⟨by simp, [], rest, rfl, matchedFront, matchedRest⟩)⟩
  | @moreWithin _ least most front back matchedFront matchedBack _ ih =>
      cases same
      refine ⟨by simp, ?_⟩
      cases front with
      | cons head front =>
          obtain ⟨rfl, rfl⟩ : c = head ∧ text = front ++ back := by simpa using sameText
          exact ⟨front, back, rfl, matchedFront, matchedBack⟩
      | nil =>
          obtain ⟨open_, front, rest, split, matchedHead, matchedRest⟩ := ih rfl sameText
          cases most with
          | zero => exact absurd rfl open_
          | succ most =>
              exact ⟨front, rest, split, matchedHead,
                matches_rep_iff.mpr (.inr ⟨by simp, [], rest, rfl, matchedFront, matchedRest⟩)⟩

/-- The derivative by a character has the texts that complete the character. -/
theorem matches_derive_iff (expression : Regex) :
    Matches (derive c expression) text ↔ Matches expression (c :: text) := by
  induction expression generalizing text with
  | never =>
      exact ⟨fun matched => absurd matched not_matches_never,
        fun matched => absurd matched not_matches_never⟩
  | empty => simpa [derive, matches_empty_iff] using not_matches_never
  | char own =>
      by_cases same : own = c
      · simp [derive, same, matches_char_iff, matches_empty_iff]
      · simpa [derive, same, matches_char_iff, Ne.symm same] using not_matches_never
  | oneOf items =>
      by_cases hit : items.any (·.test c) = true
      · rw [derive, if_pos hit, matches_empty_iff, matches_oneOf_iff]
        constructor
        · rintro rfl
          exact ⟨c, hit, rfl⟩
        · rintro ⟨other, _, same⟩
          exact (List.cons.inj same).2
      · rw [derive, if_neg hit, matches_oneOf_iff]
        constructor
        · exact fun matched => absurd matched not_matches_never
        · rintro ⟨other, otherHit, same⟩
          obtain ⟨rfl, _⟩ := List.cons.inj same
          exact absurd otherHit hit
  | seq first second ihFirst ihSecond =>
      have started : Matches (followedBy (derive c first) second) text ↔
          ∃ front back, text = front ++ back ∧ Matches first (c :: front) ∧
            Matches second back := by
        simp only [matches_followedBy_iff, matches_seq_iff, ihFirst]
      have split : Matches (.seq first second) (c :: text) ↔
          Matches (followedBy (derive c first) second) text ∨
            (Matches first [] ∧ Matches second (c :: text)) := by
        rw [matches_seq_iff, started]
        constructor
        · rintro ⟨front, back, same, matchedFront, matchedBack⟩
          cases front with
          | nil => exact .inr ⟨matchedFront, by rwa [same]⟩
          | cons head front =>
              obtain ⟨rfl, rfl⟩ : c = head ∧ text = front ++ back := by simpa using same
              exact .inl ⟨front, back, rfl, matchedFront, matchedBack⟩
        · rintro (⟨front, back, rfl, matchedFront, matchedBack⟩ | ⟨matchedFront, matchedBack⟩)
          · exact ⟨c :: front, back, rfl, matchedFront, matchedBack⟩
          · exact ⟨[], c :: text, rfl, matchedFront, matchedBack⟩
      rw [split, ← nullable_iff first, ← ihSecond]
      by_cases null : first.nullable = true <;> simp [derive, null, matches_orElse_iff]
  | alt left right ihLeft ihRight =>
      rw [derive, matches_orElse_iff, matches_alt_iff, ihLeft, ihRight]
  | rep body least most ih =>
      have step : Matches (followedBy (derive c body) (repeatLess body least most)) text ↔
          ∃ front back, text = front ++ back ∧ Matches body (c :: front) ∧
            Matches (repeatLess body least most) back := by
        simp only [matches_followedBy_iff, matches_seq_iff, ih]
      unfold derive
      split
      · exact ⟨fun matched => absurd matched not_matches_never,
          fun matched => absurd rfl matched.exists_cons_of_rep.1⟩
      · rename_i open_
        rw [step]
        constructor
        · rintro ⟨front, back, rfl, matchedFront, matchedBack⟩
          exact matches_rep_iff.mpr
            (.inr ⟨open_, c :: front, back, rfl, matchedFront, matchedBack⟩)
        · exact fun matched => matched.exists_cons_of_rep.2

/-- **Acceptance is membership.** An expression accepts exactly the texts of its language. -/
theorem accepts_iff_matches (expression : Regex) (text : List Char) :
    expression.accepts text = true ↔ Matches expression text := by
  induction text generalizing expression with
  | nil => exact nullable_iff expression
  | cons c text ih =>
      rw [← matches_derive_iff, ← ih (derive c expression)]
      rfl

variable {expressions tail : List Regex} {head : Regex}

/-- Alternatives match what one of them matches. -/
theorem matches_anyOf_iff :
    Matches (anyOf expressions) text ↔ ∃ expression ∈ expressions, Matches expression text := by
  induction expressions with
  | nil => simp [anyOf, not_matches_never]
  | cons first rest ih =>
      cases rest with
      | nil => simp [anyOf]
      | cons second rest =>
          rw [anyOf, matches_alt_iff, ih]
          simp only [List.mem_cons, exists_eq_or_imp]

/-- Expressions in a row match the text part by part. -/
theorem matches_inOrder_cons_iff :
    Matches (inOrder (head :: tail)) text ↔
      ∃ front back, text = front ++ back ∧ Matches head front ∧ Matches (inOrder tail) back := by
  cases tail with
  | nil =>
      constructor
      · exact fun matched => ⟨text, [], by simp, matched, .empty⟩
      · rintro ⟨front, back, rfl, matched, last⟩
        rw [matches_empty_iff.mp last, List.append_nil]
        exact matched
  | cons second rest => exact matches_seq_iff

private theorem matches_inOrder_map_char_iff {chars : List Char} :
    Matches (inOrder (chars.map .char)) text ↔ text = chars := by
  induction chars generalizing text with
  | nil => exact matches_empty_iff
  | cons c chars ih =>
      simp only [List.map_cons, matches_inOrder_cons_iff, matches_char_iff, ih]
      constructor
      · rintro ⟨front, back, rfl, rfl, rfl⟩
        rfl
      · rintro rfl
        exact ⟨[c], chars, rfl, rfl, rfl⟩

/-- A word has itself for its only text. -/
theorem matches_word_iff {own : String} : Matches (word own) text ↔ text = own.toList :=
  matches_inOrder_map_char_iff

end DeployTree.Regex
