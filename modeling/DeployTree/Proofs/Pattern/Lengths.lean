import DeployTree.Proofs.Pattern.Names

/-! # Names with a bound on their length

Two patterns count characters. An identifier may be of any length, because the letters in front are
not counted, but only so many characters may follow them; the name of a bucket has a least and a
greatest length. Both are told from the characters of a text, with no look at the ways to divide it
among the parts of the expression (`DeployTree.Pattern.accepts_iff_lengths`). A repeat between two
single characters has the texts that are longer by two than the repeat, as long as what may stand at
the ends may also stand inside (`DeployTree.Regex.matches_between_rep_iff`).
-/

namespace DeployTree

namespace Regex

variable {ends inner : List CharItem} {body : Regex} {text middle : List Char} {first last : Char}
  {least most : Nat}

section Between

private theorem length_between : (first :: (middle ++ [last])).length = middle.length + 2 := by
  rw [List.length_cons, List.length_append, List.length_singleton]

private theorem getLast?_between : (first :: (middle ++ [last])).getLast? = some last :=
  List.getLast?_concat (l := first :: middle)

private theorem forall_mem_between {P : Char → Prop} :
    (∀ c ∈ first :: (middle ++ [last]), P c) ↔ P first ∧ (∀ c ∈ middle, P c) ∧ P last := by
  rw [List.forall_mem_cons, List.forall_mem_append, List.forall_mem_singleton]

/-- A text of two characters or more has a first and, apart from it, a last one. -/
theorem two_le_length_iff :
    2 ≤ text.length ↔ ∃ first middle last, text = first :: (middle ++ [last]) := by
  constructor
  · intro long
    match text, long with
    | first :: second :: rest, _ =>
        obtain ⟨middle, last, same⟩ :=
          (List.eq_nil_or_concat (second :: rest)).resolve_left (List.cons_ne_nil second rest)
        exact ⟨first, middle, last, by rw [same, List.concat_eq_append]⟩
  · rintro ⟨first, middle, last, rfl⟩
    exact length_between ▸ Nat.le_add_left 2 middle.length

end Between

/-- A text of an expression between two characters of one set. -/
theorem matches_between_iff :
    Matches (.inOrder [.oneOf ends, body, .oneOf ends]) text ↔
      ∃ first middle last, text = first :: (middle ++ [last]) ∧
        ends.any (·.test first) = true ∧ Matches body middle ∧
          ends.any (·.test last) = true := by
  simp only [matches_inOrder_cons_iff, matches_oneOf_iff]
  constructor
  · rintro ⟨_, _, rfl, ⟨first, starts, rfl⟩, middle, _, rfl, inside, _, _, rfl,
      ⟨last, stops, rfl⟩, none⟩
    obtain rfl := matches_empty_iff.mp none
    exact ⟨first, middle, last, by simp, starts, inside, stops⟩
  · rintro ⟨first, middle, last, rfl, starts, inside, stops⟩
    exact ⟨[first], _, rfl, ⟨first, starts, rfl⟩, middle, [last], rfl, inside, [last], [],
      rfl, ⟨last, stops, rfl⟩, .empty⟩

/-- A repeat between two characters has the texts of an admitted length whose characters may all
stand inside and whose ends may stand at the ends. The ends count as two characters more. -/
theorem matches_between_rep_iff
    (fits : ∀ c, ends.any (·.test c) = true → inner.any (·.test c) = true) :
    Matches (.inOrder [.oneOf ends, .rep (.oneOf inner) least (some most), .oneOf ends]) text ↔
      (least + 2 ≤ text.length ∧ text.length ≤ most + 2) ∧
        (∀ c ∈ text, inner.any (·.test c) = true) ∧
        (∀ c ∈ text.head?, ends.any (·.test c) = true) ∧
        ∀ c ∈ text.getLast?, ends.any (·.test c) = true := by
  rw [matches_between_iff]
  constructor
  · rintro ⟨first, middle, last, rfl, starts, inside, stops⟩
    obtain ⟨all, enough, within⟩ := matches_rep_oneOf_iff.mp inside
    rw [length_between, forall_mem_between, getLast?_between]
    refine ⟨⟨?_, ?_⟩, ⟨fits first starts, all, fits last stops⟩, ?_, ?_⟩
    · exact Nat.add_le_add_right enough 2
    · exact Nat.add_le_add_right (within most rfl) 2
    · rintro c ⟨⟩
      exact starts
    · rintro c ⟨⟩
      exact stops
  · rintro ⟨⟨lower, upper⟩, all, starts, stops⟩
    -- Even a repeat of nothing leaves two characters, so the text has two ends.
    obtain ⟨first, middle, last, rfl⟩ :=
      two_le_length_iff.mp (Nat.le_trans (Nat.le_add_left 2 least) lower)
    rw [length_between] at lower upper
    obtain ⟨-, inside, -⟩ := forall_mem_between.mp all
    refine ⟨first, middle, last, rfl, starts first rfl, ?_, stops last getLast?_between⟩
    refine matches_rep_oneOf_iff.mpr ⟨inside, Nat.le_of_add_le_add_right lower, ?_⟩
    rintro bound ⟨⟩
    exact Nat.le_of_add_le_add_right upper

end Regex

namespace Pattern

open Regex

variable {text : String} {c : Char}

/-- A character that the name of a bucket may start and end with: a small letter or a digit. -/
def IsBucketEnd (c : Char) : Prop := ('a' ≤ c ∧ c ≤ 'z') ∨ ('0' ≤ c ∧ c ≤ '9')

/-- A character that the name of a bucket may hold: one it may start with, a dot or a hyphen. -/
def IsBucketChar (c : Char) : Prop := IsBucketEnd c ∨ c = '.' ∨ c = '-'

private theorem isBucketEnd_iff :
    [CharItem.range 'a' 'z', .range '0' '9'].any (·.test c) = true ↔ IsBucketEnd c := by
  simp [CharItem.test, IsBucketEnd]

private theorem isBucketChar_iff :
    [CharItem.range 'a' 'z', .range '0' '9', .single '.', .single '-'].any (·.test c) = true ↔
      IsBucketChar c := by
  simp [CharItem.test, IsBucketChar, IsBucketEnd, or_assoc, @eq_comm Char c]

/-- **Names of buckets.** The name of a bucket has 3 to 63 characters, each a small letter, a digit,
a dot or a hyphen, and neither a dot nor a hyphen at its ends. -/
theorem accepts_bucketName_iff :
    bucketName.accepts text = true ↔
      (3 ≤ text.length ∧ text.length ≤ 63) ∧ (∀ c ∈ text.toList, IsBucketChar c) ∧
        (∀ c ∈ text.toList.head?, IsBucketEnd c) ∧ ∀ c ∈ text.toList.getLast?, IsBucketEnd c := by
  have endsFit (c : Char) : [CharItem.range 'a' 'z', .range '0' '9'].any (·.test c) = true →
      [CharItem.range 'a' 'z', .range '0' '9', .single '.', .single '-'].any (·.test c) = true :=
    fun hit => isBucketChar_iff.mpr (.inl (isBucketEnd_iff.mp hit))
  refine (accepts_iff_matches _ text.toList).trans ((matches_between_rep_iff endsFit).trans ?_)
  simp only [isBucketEnd_iff, isBucketChar_iff, String.length_toList, Nat.reduceAdd]

/-- **Lengths.** An identifier starts with a letter, has word characters only, and at most 127 of
them follow its longest front of letters. The name of a bucket has 3 to 63 characters, each a small
letter, a digit, a dot or a hyphen, with a small letter or a digit at either end. -/
theorem accepts_iff_lengths (text : String) :
    (sqlIdentifier.accepts text = true ↔
        text.toList.head?.any Char.isAlpha = true ∧
          (∀ c ∈ text.toList, Text.isWordChar c = true) ∧
          (text.toList.dropWhile Char.isAlpha).length ≤ 127) ∧
      (bucketName.accepts text = true ↔
        (3 ≤ text.length ∧ text.length ≤ 63) ∧ (∀ c ∈ text.toList, IsBucketChar c) ∧
          (∀ c ∈ text.toList.head?, IsBucketEnd c) ∧
          ∀ c ∈ text.toList.getLast?, IsBucketEnd c) :=
  ⟨accepts_sqlIdentifier_iff, accepts_bucketName_iff⟩

end Pattern

end DeployTree
