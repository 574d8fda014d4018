import DeployTree.Proofs.Pattern.Names

/-! # The grammar of dotted names

A dotted name is words with dots between them. Split at every dot, a text fits a pattern for such
names exactly when it has an admitted number of segments and each of them is a word
(`DeployTree.Pattern.accepts_iff_segments`). A word holds no dot, so a text can be put together from
words in one way only, the one that splitting finds
(`DeployTree.Pattern.exists_joined_iff_segments`). A pattern that repeats a further segment up to
some bound has the names of every length up to there
(`DeployTree.Pattern.matches_atMost_iff`).
-/

namespace DeployTree

namespace Regex

variable {text : List Char} {body : Regex}

/-- An optional text is none or a text of the expression. -/
theorem matches_orEmpty_iff : Matches (orEmpty body) text ↔ text = [] ∨ Matches body text := by
  rw [orEmpty, matches_rep_iff, repeatLess]
  constructor
  · rintro (⟨-, rfl⟩ | ⟨-, front, back, rfl, matched, last⟩)
    · exact .inl rfl
    · obtain rfl : back = [] := by simpa using matches_rep_iff.mp last
      exact .inr (by rwa [List.append_nil])
  · rintro (rfl | matched)
    · exact .inl ⟨rfl, rfl⟩
    · exact .inr ⟨by simp, text, [], (List.append_nil text).symm, matched, .done⟩

end Regex

namespace Pattern

open Regex

/-- The segments of a text: what stands between its dots. -/
def segments (text : List Char) : List (List Char) := text.splitOn '.'

/-- A word: one or more word characters. -/
def IsWord (text : List Char) : Prop := text ≠ [] ∧ ∀ c ∈ text, Text.isWordChar c = true

/-- The expression of a dotted name with so many segments after its first. -/
def dotted : Nat → Regex
  | 0 => segment
  | further + 1 => .seq segment (.seq (.char '.') (dotted further))

/-- The expression of a dotted name with at most so many segments after its first. -/
def atMost (further : Nat) : Regex := .seq segment (.rep furtherSegment 0 (some further))

/-- Whether every segment of a text is a word. -/
def OnlyWords (text : List Char) : Prop := ∀ part ∈ segments text, IsWord part

variable {text : List Char} {further : Nat}

private theorem IsWord.dot_notMem (word : IsWord text) : '.' ∉ text :=
  fun member => absurd (word.2 _ member) (by simp [Text.isWordChar_dot])

private theorem matches_segment_iff_isWord : Matches segment text ↔ IsWord text :=
  matches_segment_iff

/-- Words with dots between them are the segments of the text that they make up. -/
theorem exists_joined_iff_segments (counts : Nat → Prop) :
    (∃ first more, counts (first :: more).length ∧ (∀ part ∈ first :: more, IsWord part) ∧
        text = ['.'].intercalate (first :: more)) ↔
      counts (segments text).length ∧ OnlyWords text := by
  constructor
  · rintro ⟨first, more, count, words, rfl⟩
    have split : segments (['.'].intercalate (first :: more)) = first :: more :=
      List.splitOn_intercalate '.' (fun part member => (words part member).dot_notMem) (by simp)
    rw [OnlyWords, split]
    exact ⟨count, words⟩
  · rintro ⟨count, words⟩
    obtain ⟨first, more, split⟩ := List.exists_cons_of_ne_nil (List.splitOn_ne_nil '.' text)
    have joined : ['.'].intercalate (segments text) = text := List.intercalate_splitOn '.'
    change segments text = first :: more at split
    rw [OnlyWords, split] at words
    rw [split] at count joined
    exact ⟨first, more, count, words, joined.symm⟩

private theorem matches_dotted_succ_iff :
    Matches (dotted (further + 1)) text ↔
      ∃ front back, text = front ++ '.' :: back ∧ Matches segment front ∧
        Matches (dotted further) back := by
  simp only [dotted, matches_seq_iff, matches_char_iff]
  constructor
  · rintro ⟨front, _, rfl, word, _, back, rfl, rfl, name⟩
    exact ⟨front, back, rfl, word, name⟩
  · rintro ⟨front, back, rfl, word, name⟩
    exact ⟨front, '.' :: back, rfl, word, ['.'], back, rfl, rfl, name⟩

/-- The names with a given number of segments are words with dots between them. -/
theorem matches_dotted_iff :
    Matches (dotted further) text ↔
      ∃ first more, (first :: more).length = further + 1 ∧ (∀ part ∈ first :: more, IsWord part) ∧
        text = ['.'].intercalate (first :: more) := by
  induction further generalizing text with
  | zero =>
      rw [dotted, matches_segment_iff_isWord]
      constructor
      · exact fun word => ⟨text, [], rfl, by simpa using word, by simp⟩
      · rintro ⟨first, more, count, words, rfl⟩
        obtain rfl : more = [] := by simpa using count
        simpa using words
  | succ further ih =>
      simp only [matches_dotted_succ_iff, matches_segment_iff_isWord, ih]
      constructor
      · rintro ⟨word, _, rfl, isWord, first, more, count, words, rfl⟩
        refine ⟨word, first :: more, by simpa using count, ?_, ?_⟩
        · exact List.forall_mem_cons.mpr ⟨isWord, words⟩
        · rw [List.intercalate_cons_cons, List.append_assoc, List.singleton_append]
      · rintro ⟨word, more, count, words, rfl⟩
        obtain ⟨isWord, words⟩ := List.forall_mem_cons.mp words
        cases more with
        | nil => simp at count
        | cons first more =>
            refine ⟨word, _, ?_, isWord, first, more, by simpa using count, words, rfl⟩
            rw [List.intercalate_cons_cons, List.append_assoc, List.singleton_append]

private theorem matches_atMost_zero_iff : Matches (atMost 0) text ↔ Matches segment text := by
  rw [atMost, matches_seq_iff]
  constructor
  · rintro ⟨front, back, rfl, word, none⟩
    obtain rfl : back = [] := by simpa using matches_rep_iff.mp none
    rwa [List.append_nil]
  · exact fun word => ⟨text, [], (List.append_nil text).symm, word, .done⟩

/-- Further segments up to a bound are none, or a dot and a word before the others. -/
theorem matches_rep_furtherSegment_succ_iff :
    Matches (.rep furtherSegment 0 (some (further + 1))) text ↔
      text = [] ∨ ∃ next rest, text = '.' :: (next ++ rest) ∧ Matches segment next ∧
        Matches (.rep furtherSegment 0 (some further)) rest := by
  rw [matches_rep_iff, repeatLess]
  simp only [furtherSegment, matches_seq_iff, matches_char_iff]
  constructor
  · rintro (⟨-, rfl⟩ | ⟨-, _, rest, rfl, ⟨_, next, rfl, rfl, word⟩, later⟩)
    · exact .inl rfl
    · exact .inr ⟨next, rest, rfl, word, later⟩
  · rintro (rfl | ⟨next, rest, rfl, word, later⟩)
    · exact .inl ⟨trivial, rfl⟩
    · exact .inr ⟨by simp, '.' :: next, rest, rfl, ⟨['.'], next, rfl, rfl, word⟩, later⟩

/-- A name with a bound on its further segments is a word, or a word and a dot before a name with
one segment less to come. -/
theorem matches_atMost_succ_iff :
    Matches (atMost (further + 1)) text ↔
      Matches segment text ∨
        ∃ front back, text = front ++ '.' :: back ∧ Matches segment front ∧
          Matches (atMost further) back := by
  simp only [atMost, matches_seq_iff, matches_rep_furtherSegment_succ_iff]
  constructor
  · rintro ⟨front, _, rfl, word, rfl | ⟨next, rest, rfl, nextWord, later⟩⟩
    · rw [List.append_nil]
      exact .inl word
    · exact .inr ⟨front, next ++ rest, rfl, word, next, rest, rfl, nextWord, later⟩
  · rintro (word | ⟨front, _, rfl, word, next, rest, rfl, nextWord, later⟩)
    · exact ⟨text, [], (List.append_nil text).symm, word, .inl rfl⟩
    · exact ⟨front, _, rfl, word, .inr ⟨next, rest, rfl, nextWord, later⟩⟩

/-- A bound on the further segments admits the names of every number up to it. -/
theorem matches_atMost_iff :
    Matches (atMost further) text ↔ ∃ count ≤ further, Matches (dotted count) text := by
  induction further generalizing text with
  | zero => simp [matches_atMost_zero_iff, dotted]
  | succ further ih =>
      rw [matches_atMost_succ_iff]
      constructor
      · rintro (word | ⟨front, back, split, word, name⟩)
        · exact ⟨0, Nat.zero_le _, word⟩
        · obtain ⟨count, within, counted⟩ := ih.mp name
          exact ⟨count + 1, Nat.succ_le_succ within,
            matches_dotted_succ_iff.mpr ⟨front, back, split, word, counted⟩⟩
      · rintro ⟨count, within, counted⟩
        cases count with
        | zero => exact .inl counted
        | succ count =>
            obtain ⟨front, back, split, word, name⟩ := matches_dotted_succ_iff.mp counted
            exact .inr
              ⟨front, back, split, word, ih.mpr ⟨count, Nat.le_of_succ_le_succ within, name⟩⟩

/-- Split at every dot, a name with a given number of segments has that many words. -/
theorem matches_dotted_iff_segments (further : Nat) :
    Matches (dotted further) text ↔ (segments text).length = further + 1 ∧ OnlyWords text :=
  matches_dotted_iff.trans (exists_joined_iff_segments (· = further + 1))

private theorem matches_atMost_iff_segments (further : Nat) :
    Matches (atMost further) text ↔
      (1 ≤ (segments text).length ∧ (segments text).length ≤ further + 1) ∧ OnlyWords text := by
  simp only [matches_atMost_iff, matches_dotted_iff_segments]
  constructor
  · rintro ⟨count, within, counted, words⟩
    exact ⟨by omega, words⟩
  · rintro ⟨⟨some, most⟩, words⟩
    exact ⟨(segments text).length - 1, by omega, by omega, words⟩

/-- **Dotted names.** Split at every dot, a text fits a pattern for dotted names exactly when the
number of its segments is one that the pattern admits and every segment is a word. -/
theorem accepts_iff_segments (text : String) :
    (threePartName.accepts text = true ↔
        (segments text.toList).length = 3 ∧ OnlyWords text.toList) ∧
      (fourPartName.accepts text = true ↔
        (segments text.toList).length = 4 ∧ OnlyWords text.toList) ∧
      (dottedPrefix.accepts text = true ↔
        (1 ≤ (segments text.toList).length ∧ (segments text.toList).length ≤ 4) ∧
          OnlyWords text.toList) ∧
      (shortDottedName.accepts text = true ↔
        (1 ≤ (segments text.toList).length ∧ (segments text.toList).length ≤ 3) ∧
          OnlyWords text.toList) ∧
      (twoPartNameOrEmpty.accepts text = true ↔
        text = "" ∨ ((segments text.toList).length = 2 ∧ OnlyWords text.toList)) := by
  have accepts (pattern : Pattern) (cased : pattern.caseless = false) :
      pattern.accepts text = true ↔ Matches pattern.body text.toList := by
    rw [Pattern.accepts, fits, cased]
    exact accepts_iff_matches _ _
  refine ⟨?_, ?_, ?_, ?_, ?_⟩
  · exact (accepts threePartName rfl).trans (matches_dotted_iff_segments 2)
  · exact (accepts fourPartName rfl).trans (matches_dotted_iff_segments 3)
  · exact (accepts dottedPrefix rfl).trans (matches_atMost_iff_segments 3)
  · exact (accepts shortDottedName rfl).trans (matches_atMost_iff_segments 2)
  · have twoOrNone : Matches twoPartNameOrEmpty.body text.toList ↔
        text.toList = [] ∨ Matches (dotted 1) text.toList := matches_orEmpty_iff
    rw [accepts twoPartNameOrEmpty rfl, twoOrNone, matches_dotted_iff_segments,
      String.toList_eq_nil_iff]

end Pattern

end DeployTree
