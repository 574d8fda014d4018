import DeployTree.Proofs.Environment.Occurrence
import DeployTree.Proofs.Pattern.DottedNames
import Mathlib.Data.List.Infix

/-! # What is found in a text

The search for placeholders lists every text of their form that stands anywhere in a text, once each
and by the position where it stands first (`DeployTree.Placeholder.lists_inText`). No occurrence is
missed, be it behind another placeholder, inside a broken one or a repetition, because the search
finds what stands at any position (`DeployTree.Placeholder.inText_eq`). Their order follows along
the text: one character more at its front moves every position by one, and only a placeholder at the
very front comes before all others (`DeployTree.Placeholder.pairwise_firstPosition`).
-/

namespace DeployTree.Placeholder

open Pattern (IsWord)

/-- The number of characters before the first occurrence of a part in a text. -/
def firstPosition (part text : List Char) : Nat :=
  text.tails.findIdx fun tail => part.isPrefixOf tail

/-- What it means that a list has the placeholders of a text: all texts of the form that occur in
it, once each and by first position, and under the names that they are made of. -/
structure Lists (text : String) (found : List Placeholder) : Prop where
  nodup : (found.map Placeholder.text).Nodup
  mem_iff : ∀ part : String, part ∈ found.map Placeholder.text ↔
    (∃ word : String, IsWord word.toList ∧ part = "$\x7benv." ++ word ++ "\x7d") ∧
      part.toList <:+: text.toList
  inOrder : found.Pairwise fun earlier later =>
    firstPosition earlier.chars text.toList < firstPosition later.chars text.toList
  named : ∀ placeholder ∈ found, IsWord placeholder.variableName.toList ∧
    placeholder.text = "$\x7benv." ++ placeholder.variableName ++ "\x7d"

variable {placeholder : Placeholder} {c : Char} {part rest : List Char}

private theorem named_iff_isWord : placeholder.Named ↔ IsWord placeholder.name :=
  ⟨fun named => ⟨named.nonempty, named.word⟩, fun word => ⟨word.1, word.2⟩⟩

private theorem text_eq (name : List Char) :
    text ⟨name⟩ = "$\x7benv." ++ String.ofList name ++ "\x7d" :=
  String.toList_inj.mp (by simp [text, chars, opening])

private theorem firstPosition_eq_zero (starts : part <+: c :: rest) :
    firstPosition part (c :: rest) = 0 := by
  rw [firstPosition, List.tails_cons, List.findIdx_cons, List.isPrefixOf_iff_prefix.mpr starts]
  rfl

/-- A part that does not stand at the front stands one position further than without the first
character. -/
theorem firstPosition_of_not_prefix (elsewhere : ¬ part <+: c :: rest) :
    firstPosition part (c :: rest) = firstPosition part rest + 1 := by
  have differs : part.isPrefixOf (c :: rest) = false :=
    Bool.eq_false_iff.mpr fun starts => elsewhere (List.isPrefixOf_iff_prefix.mp starts)
  rw [firstPosition, List.tails_cons, List.findIdx_cons, differs]
  rfl

/-- The distinct placeholders of a text come in the order of their first positions. -/
theorem pairwise_firstPosition (text : List Char) :
    (firsts (occurrences text)).Pairwise fun earlier later =>
      firstPosition earlier.chars text < firstPosition later.chars text := by
  induction text with
  | nil => exact List.Pairwise.nil
  | cons c rest ih =>
      have behind {placeholder : Placeholder} (member : placeholder ∈ firsts (occurrences rest))
          (other : atFront? (c :: rest) ≠ some placeholder) :
          firstPosition placeholder.chars (c :: rest) =
            firstPosition placeholder.chars rest + 1 := by
        obtain ⟨named, -⟩ := mem_occurrences_iff.mp (mem_firsts.mp member)
        exact firstPosition_of_not_prefix fun starts =>
          other (atFront?_eq_some_iff.mpr ⟨named, starts⟩)
      rw [occurrences_cons]
      cases found : atFront? (c :: rest) with
      | none =>
          refine ih.imp_of_mem fun earlier later before => ?_
          rw [behind earlier (by simp [found]), behind later (by simp [found])]
          exact Nat.succ_lt_succ before
      | some first =>
          obtain ⟨-, starts⟩ := atFront?_eq_some_iff.mp found
          -- a later occurrence of `first` is no longer listed, so all the others move by one
          have others {placeholder : Placeholder} (member : placeholder ∈
              (firsts (occurrences rest)).filter fun other => other ≠ first) :
              firstPosition placeholder.chars (c :: rest) =
                firstPosition placeholder.chars rest + 1 := by
            obtain ⟨listed, apart⟩ := List.mem_filter.mp member
            have other : placeholder ≠ first := of_decide_eq_true apart
            exact behind listed fun same => other (Option.some.inj (found.symm.trans same)).symm
          refine List.pairwise_cons.mpr ⟨fun later member => ?_, ?_⟩
          · rw [firstPosition_eq_zero starts, others member]
            exact Nat.succ_pos _
          · refine (ih.filter _).imp_of_mem fun earlier later before => ?_
            rw [others earlier, others later]
            exact Nat.succ_lt_succ before

/-- **Finding placeholders.** The placeholders found in a text are those that occur anywhere in it,
without repetition and in the order of their first occurrences. -/
theorem lists_inText (content : String) : Lists content (inText content) := by
  have member {placeholder : Placeholder} : placeholder ∈ inText content ↔
      placeholder.Named ∧ placeholder.chars <:+: content.toList :=
    mem_inText_iff.trans mem_occurrences_iff
  have ordered : (inText content).Pairwise fun earlier later =>
      firstPosition earlier.chars content.toList < firstPosition later.chars content.toList := by
    rw [inText_eq]
    exact pairwise_firstPosition content.toList
  refine
    { nodup := ?_
      mem_iff := fun part => ?_
      inOrder := ordered
      named := fun placeholder found => ?_ }
  · refine List.pairwise_map.mpr (ordered.imp fun before same => ?_)
    rw [String.ofList_injective same] at before
    exact Nat.lt_irrefl _ before
  · rw [List.mem_map]
    constructor
    · rintro ⟨placeholder, found, rfl⟩
      obtain ⟨named, occurs⟩ := member.mp found
      refine ⟨⟨String.ofList placeholder.name, ?_, text_eq placeholder.name⟩, ?_⟩
      · rwa [String.toList_ofList, ← named_iff_isWord]
      · rwa [Placeholder.text, String.toList_ofList]
    · rintro ⟨⟨word, isWord, rfl⟩, occurs⟩
      have spelled : Placeholder.text ⟨word.toList⟩ = "$\x7benv." ++ word ++ "\x7d" := by
        rw [text_eq, String.ofList_toList]
      rw [← spelled, Placeholder.text, String.toList_ofList] at occurs
      exact ⟨⟨word.toList⟩, member.mpr ⟨named_iff_isWord.mpr isWord, occurs⟩, spelled⟩
  · obtain ⟨named, -⟩ := member.mp found
    rw [variableName_eq, String.toList_ofList]
    exact ⟨named_iff_isWord.mp named, text_eq placeholder.name⟩

/-- A placeholder inside a broken one is found, and a repeated one is listed once. -/
example :
    (inText "$\x7benv.A$\x7benv.B\x7d\x7d$\x7benv.C\x7d$\x7benv.B\x7d").map variableName =
      ["B", "C"] := by
  decide

end DeployTree.Placeholder
