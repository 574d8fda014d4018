import DeployTree.Proofs.Environment.Lingering
import Mathlib.Data.List.Infix

/-! # Filling a text at once

Placeholders are replaced one after another, each in the text that the replacements before it left.
On some texts this is the same as one pass that replaces every placeholder where it stands: the
text is *clean*, so that the opening character stands at the start of placeholders only, and no
value holds that character (`DeployTree.Interpolator.fillsAtOnce_of_clean`). What carries the proof
is the shape of a clean text, single characters and whole placeholders in turn
(`DeployTree.Placeholder.Woven`). After some of the placeholders have been replaced, the text that
is reached is the pass over the *original* text that fills these and spells the others out
(`DeployTree.Placeholder.Woven.replaceAll_substitute`). So neither the order of the placeholders
matters nor what their values spell, and no placeholder is left for another run.
-/

namespace DeployTree

namespace Placeholder

/-- One pass over a text from left to right that puts the value of each placeholder in its place and
copies everything else, after `skipped` characters of a placeholder that has its value already. -/
def substitute (value : Placeholder → List Char) : Nat → List Char → List Char
  | _, [] => []
  | skipped + 1, _ :: rest => substitute value skipped rest
  | 0, c :: rest =>
      match atFront? (c :: rest) with
      | some placeholder =>
          value placeholder ++ substitute value (placeholder.chars.length - 1) rest
      | none => c :: substitute value 0 rest

/-- A text in which every opening character is the start of a placeholder. -/
def Clean (text : List Char) : Prop :=
  ∀ tail ∈ text.tails, tail.head? = some '$' → (atFront? tail).isSome = true

instance (text : List Char) : Decidable (Clean text) :=
  inferInstanceAs
    (Decidable (∀ tail ∈ text.tails, tail.head? = some '$' → (atFront? tail).isSome = true))

/-- Texts of single characters other than the opening one and of whole placeholders. -/
inductive Woven : List Char → Prop where
  | nil : Woven []
  | letter {c : Char} {rest : List Char} (plain : c ≠ '$') (woven : Woven rest) : Woven (c :: rest)
  | hole {placeholder : Placeholder} {rest : List Char} (named : placeholder.Named)
      (woven : Woven rest) : Woven (placeholder.chars ++ rest)

/-- What a placeholder stands for when only some placeholders have been replaced. -/
def partly (value : Placeholder → List Char) (done : List Placeholder)
    (placeholder : Placeholder) : List Char :=
  if placeholder ∈ done then value placeholder else placeholder.chars

variable {placeholder other : Placeholder} {done : List Placeholder}
  {text rest front back : List Char} {c : Char} {value filling : Placeholder → List Char}

private theorem Clean.of_suffix (clean : Clean text) (part : rest <:+ text) : Clean rest := by
  intro tail ends
  exact clean tail ((List.mem_tails ..).mpr (((List.mem_tails ..).mp ends).trans part))

private theorem Clean.woven (clean : Clean text) : Woven text := by
  -- A placeholder takes several characters at once, so the induction is on the length.
  induction size : text.length using Nat.strongRecOn generalizing text with
  | _ size ih =>
      subst size
      match text with
      | [] => exact .nil
      | c :: rest =>
          by_cases opens : c = '$'
          · have starts := clean (c :: rest) (by simp) (by simp [opens])
            obtain ⟨placeholder, found⟩ := Option.isSome_iff_exists.mp starts
            obtain ⟨named, back, same⟩ := atFront?_eq_some_iff.mp found
            have shorter : back.length < (c :: rest).length := by
              rw [← same, List.length_append, chars_eq_cons, List.length_cons]
              omega
            have after : Clean back := clean.of_suffix (same ▸ List.suffix_append _ back)
            rw [← same]
            exact .hole named (ih _ shorter after rfl)
          · have after : Clean rest := clean.of_suffix (List.suffix_cons c rest)
            exact .letter opens (ih _ (Nat.lt_succ_self _) after rfl)

private theorem Named.atFront?_append (named : placeholder.Named) (rest : List Char) :
    atFront? (placeholder.chars ++ rest) = some placeholder :=
  atFront?_eq_some_iff.mpr ⟨named, List.prefix_append _ rest⟩

private theorem occurrences_append_of_dollar_notMem (plain : '$' ∉ front) :
    occurrences (front ++ back) = occurrences back := by
  induction front with
  | nil => rfl
  | cons c front ih =>
      obtain ⟨other, plain⟩ : '$' ≠ c ∧ '$' ∉ front := by simpa using plain
      rw [List.cons_append, occurrences_cons_of_ne other.symm, ih plain]

/-- A text without the character that opens a placeholder holds none. -/
theorem occurrences_of_dollar_notMem {text : List Char} (plain : '$' ∉ text) :
    occurrences text = [] := by
  have none : occurrences (text ++ []) = occurrences [] := occurrences_append_of_dollar_notMem plain
  rwa [List.append_nil] at none

private theorem Named.occurrences_append (named : placeholder.Named) (rest : List Char) :
    occurrences (placeholder.chars ++ rest) = placeholder :: occurrences rest := by
  have found := named.atFront?_append rest
  rw [chars_eq_cons, List.cons_append] at found ⊢
  rw [occurrences_cons, found, occurrences_append_of_dollar_notMem named.dollar_notMem,
    Option.toList_some, List.singleton_append]

private theorem substitute_cons_of_ne (plain : c ≠ '$') :
    substitute value 0 (c :: rest) = c :: substitute value 0 rest := by
  rw [substitute, atFront?_cons_of_ne plain]

private theorem substitute_length_append (front back : List Char) :
    substitute value front.length (front ++ back) = substitute value 0 back := by
  induction front with
  | nil => rfl
  | cons c front ih => exact ih

private theorem Named.substitute_append (named : placeholder.Named) (rest : List Char) :
    substitute value 0 (placeholder.chars ++ rest) =
      value placeholder ++ substitute value 0 rest := by
  have found : atFront? ('$' :: (placeholder.afterDollar ++ rest)) = some placeholder :=
    named.atFront?_append rest
  calc substitute value 0 (placeholder.chars ++ rest)
      = substitute value 0 ('$' :: (placeholder.afterDollar ++ rest)) := rfl
    _ = value placeholder ++ substitute value placeholder.afterDollar.length
          (placeholder.afterDollar ++ rest) := by
        rw [substitute, found]
        rfl
    _ = value placeholder ++ substitute value 0 rest := by
        rw [substitute_length_append]

private theorem Woven.substitute_chars (woven : Woven text) : substitute chars 0 text = text := by
  induction woven with
  | nil => rfl
  | letter plain _ ih => rw [substitute_cons_of_ne plain, ih]
  | hole named _ ih => rw [named.substitute_append, ih]

/-- The pass depends on the values of the placeholders of the text only. -/
theorem Woven.substitute_congr (woven : Woven text)
    (agree : ∀ placeholder ∈ occurrences text, value placeholder = filling placeholder) :
    substitute value 0 text = substitute filling 0 text := by
  induction woven with
  | nil => rfl
  | letter plain _ ih =>
      rw [occurrences_cons_of_ne plain] at agree
      rw [substitute_cons_of_ne plain, substitute_cons_of_ne plain, ih agree]
  | hole named _ ih =>
      rw [named.occurrences_append, List.forall_mem_cons] at agree
      rw [named.substitute_append, named.substitute_append, agree.1, ih agree.2]

/-- Values without the opening character leave none of them in the text. -/
theorem Woven.dollar_notMem_substitute (woven : Woven text)
    (plainValues : ∀ placeholder ∈ occurrences text, '$' ∉ value placeholder) :
    '$' ∉ substitute value 0 text := by
  induction woven with
  | nil => exact List.not_mem_nil
  | letter plain _ ih =>
      rw [occurrences_cons_of_ne plain] at plainValues
      rw [substitute_cons_of_ne plain, List.mem_cons, not_or]
      exact ⟨plain.symm, ih plainValues⟩
  | hole named _ ih =>
      rw [named.occurrences_append, List.forall_mem_cons] at plainValues
      rw [named.substitute_append, List.mem_append, not_or]
      exact ⟨plainValues.1, ih plainValues.2⟩

private theorem partly_of_mem (member : placeholder ∈ done) :
    partly value done placeholder = value placeholder :=
  if_pos member

private theorem partly_of_notMem (outside : placeholder ∉ done) :
    partly value done placeholder = placeholder.chars :=
  if_neg outside

private theorem replaceAll_cons_of_ne {filler : List Char} (plain : c ≠ '$') :
    replaceAll placeholder.chars filler 0 (c :: rest) =
      c :: replaceAll placeholder.chars filler 0 rest :=
  have single : '$' ∉ [c] := by simpa using plain.symm
  replaceAll_append_of_dollar_notMem single

private theorem replaceAll_length_append (part filler front back : List Char) :
    replaceAll part filler front.length (front ++ back) = replaceAll part filler 0 back := by
  induction front with
  | nil => rfl
  | cons c front ih => exact ih

private theorem replaceAll_own_append (filler : List Char) :
    replaceAll placeholder.chars filler 0 (placeholder.chars ++ rest) =
      filler ++ replaceAll placeholder.chars filler 0 rest := by
  have starts : placeholder.chars.isPrefixOf ('$' :: (placeholder.afterDollar ++ rest)) = true :=
    List.isPrefixOf_iff_prefix.mpr (List.prefix_append placeholder.chars rest)
  calc replaceAll placeholder.chars filler 0 (placeholder.chars ++ rest)
      = replaceAll placeholder.chars filler 0 ('$' :: (placeholder.afterDollar ++ rest)) := rfl
    _ = filler ++ replaceAll placeholder.chars filler placeholder.afterDollar.length
          (placeholder.afterDollar ++ rest) := by
        rw [replaceAll, if_pos starts]
        rfl
    _ = filler ++ replaceAll placeholder.chars filler 0 rest := by
        rw [replaceAll_length_append]

/-- **The text reached after some replacements.** Replacing one more placeholder in a text that is
filled in part gives the text with that one filled, too. -/
theorem Woven.replaceAll_substitute (woven : Woven text) (named : placeholder.Named)
    (plainValues : ∀ other ∈ done, '$' ∉ value other) :
    replaceAll placeholder.chars (value placeholder) 0 (substitute (partly value done) 0 text) =
      substitute (partly value (placeholder :: done)) 0 text := by
  induction woven with
  | nil => rfl
  | letter plain _ ih =>
      rw [substitute_cons_of_ne plain, substitute_cons_of_ne plain, replaceAll_cons_of_ne plain, ih]
  | @hole other rest namedOther _ ih =>
      rw [namedOther.substitute_append, namedOther.substitute_append]
      -- A value stays because it opens no placeholder; an open place is this one or stays, too.
      by_cases filled : other ∈ done
      · rw [partly_of_mem filled, partly_of_mem (List.mem_cons_of_mem _ filled),
          replaceAll_append_of_dollar_notMem (plainValues other filled), ih]
      · rw [partly_of_notMem filled]
        by_cases same : placeholder = other
        · subst same
          rw [partly_of_mem List.mem_cons_self, replaceAll_own_append, ih]
        · have still : other ∉ placeholder :: done := by simp [filled, Ne.symm same]
          rw [partly_of_notMem still, named.replaceAll_other_append namedOther same, ih]

end Placeholder

namespace Interpolator

open Placeholder

variable {interpolator : Interpolator} {placeholder : Placeholder}
  {pending done : List Placeholder} {text : List Char}

/-- What the source of variables binds a placeholder to. -/
def boundTo (interpolator : Interpolator) (placeholder : Placeholder) : List Char :=
  ((interpolator.source placeholder.variableName).getD "").toList

/-- A text with every placeholder replaced by what it is bound to, in one pass. -/
def substituted (interpolator : Interpolator) (text : String) : String :=
  String.ofList (substitute interpolator.boundTo 0 text.toList)

/-- The variable of a placeholder may be read and is bound to a value without the character that
opens a placeholder. -/
def BindsPlainly (interpolator : Interpolator) (placeholder : Placeholder) : Prop :=
  interpolator.names.permits placeholder.variableName = true ∧
    ∃ value ∈ interpolator.source placeholder.variableName, '$' ∉ value.toList

instance : Decidable (interpolator.BindsPlainly placeholder) :=
  inferInstanceAs (Decidable (_ ∧ ∃ value ∈ interpolator.source placeholder.variableName, _))

private theorem BindsPlainly.value_eq (binds : interpolator.BindsPlainly placeholder) :
    interpolator.value placeholder.variableName =
      .ok (String.ofList (interpolator.boundTo placeholder)) := by
  obtain ⟨permitted, value, bound, -⟩ := binds
  rw [Option.mem_def] at bound
  simp [Interpolator.value, boundTo, permitted, bound]

private theorem BindsPlainly.dollar_notMem (binds : interpolator.BindsPlainly placeholder) :
    '$' ∉ interpolator.boundTo placeholder := by
  obtain ⟨-, value, bound, plain⟩ := binds
  rw [Option.mem_def] at bound
  simpa [boundTo, bound] using plain

/-- Replacing placeholders in turn fills them in the original text, wherever they come from. -/
theorem replaceEach_substitute (woven : Woven text)
    (named : ∀ placeholder ∈ pending, placeholder.Named)
    (binds : ∀ placeholder ∈ pending, interpolator.BindsPlainly placeholder)
    (filled : ∀ placeholder ∈ done, '$' ∉ interpolator.boundTo placeholder) :
    (interpolator.replaceEach pending
        (substitute (partly interpolator.boundTo done) 0 text)).outcome =
      .ok (substitute (partly interpolator.boundTo (pending.reverse ++ done)) 0 text) := by
  induction pending generalizing done with
  | nil => rfl
  | cons placeholder rest ih =>
      obtain ⟨namedHere, namedRest⟩ := List.forall_mem_cons.mp named
      obtain ⟨bindsHere, bindsRest⟩ := List.forall_mem_cons.mp binds
      have filledNext : ∀ other ∈ placeholder :: done, '$' ∉ interpolator.boundTo other :=
        List.forall_mem_cons.mpr ⟨bindsHere.dollar_notMem, filled⟩
      refine replaceEach_cons_eq_ok_iff.mpr ⟨_, bindsHere.value_eq, ?_⟩
      rw [String.toList_ofList, woven.replaceAll_substitute namedHere filled,
        ih namedRest bindsRest filledNext, List.reverse_cons, List.append_assoc,
        List.singleton_append]

/-- Replacing in turn any placeholders among which are all those of a text fills the text. -/
theorem replaceEach_eq_substitute (woven : Woven text)
    (named : ∀ placeholder ∈ pending, placeholder.Named)
    (binds : ∀ placeholder ∈ pending, interpolator.BindsPlainly placeholder)
    (covered : ∀ placeholder ∈ occurrences text, placeholder ∈ pending) :
    (interpolator.replaceEach pending text).outcome =
      .ok (substitute interpolator.boundTo 0 text) := by
  have start : substitute (partly interpolator.boundTo []) 0 text = text := by
    rw [woven.substitute_congr fun placeholder _ => partly_of_notMem List.not_mem_nil,
      woven.substitute_chars]
  have final : substitute (partly interpolator.boundTo (pending.reverse ++ [])) 0 text =
      substitute interpolator.boundTo 0 text :=
    woven.substitute_congr fun placeholder member =>
      partly_of_mem (by simpa using covered placeholder member)
  have run := replaceEach_substitute woven named binds (List.forall_mem_nil _)
  rwa [start, final] at run

/-- A text without the character that opens a placeholder stays as it is. -/
theorem interpolate_of_dollar_notMem {text : String} (plain : '$' ∉ text.toList) :
    (interpolator.interpolate text).outcome = .ok text := by
  refine interpolate_eq_ok_iff.mpr ⟨text.toList, ?_, String.ofList_toList⟩
  rw [inText_eq, occurrences_of_dollar_notMem plain]
  rfl

/-- Interpolation of a text is one pass over it, whatever order its placeholders are taken in, and
leaves nothing to interpolate. -/
structure FillsAtOnce (interpolator : Interpolator) (text : String) : Prop where
  fills : (interpolator.interpolate text).outcome = .ok (interpolator.substituted text)
  anyOrder : ∀ order : List Placeholder, order.Perm (inText text) →
    (interpolator.replaceEach order text.toList).outcome =
      .ok (interpolator.substituted text).toList
  settled : ∀ again : Interpolator,
    (again.interpolate (interpolator.substituted text)).outcome =
      .ok (interpolator.substituted text)

/-- **One pass over a clean text.** In a clean text whose variables are bound to values without the
opening character, replacing the placeholders in turn is replacing them all at once. -/
theorem fillsAtOnce_of_clean {text : String} (clean : Clean text.toList)
    (binds : ∀ placeholder ∈ inText text, interpolator.BindsPlainly placeholder) :
    interpolator.FillsAtOnce text := by
  have woven := clean.woven
  have inOrder (order : List Placeholder) (same : order.Perm (inText text)) :
      (interpolator.replaceEach order text.toList).outcome =
        .ok (interpolator.substituted text).toList := by
    have mem_iff (placeholder : Placeholder) :
        placeholder ∈ order ↔ placeholder ∈ occurrences text.toList :=
      same.mem_iff.trans mem_inText_iff
    rw [substituted, String.toList_ofList]
    exact replaceEach_eq_substitute woven
      (fun placeholder member => (mem_occurrences_iff.mp ((mem_iff placeholder).mp member)).1)
      (fun placeholder member => binds placeholder (same.mem_iff.mp member))
      (fun placeholder => (mem_iff placeholder).mpr)
  have plain : '$' ∉ (interpolator.substituted text).toList := by
    rw [substituted, String.toList_ofList]
    exact woven.dollar_notMem_substitute fun placeholder member =>
      (binds placeholder (mem_inText_iff.mpr member)).dollar_notMem
  exact {
    fills := interpolate_eq_ok_iff.mpr
      ⟨_, inOrder _ (List.Perm.refl _), String.ofList_toList⟩
    anyOrder := inOrder
    settled := fun _ => interpolate_of_dollar_notMem plain }

/-- Bindings whose values are parts of a placeholder, though none opens one. -/
def torn : Interpolator :=
  ⟨.standard, Bindings.lookup (Dictionary.ofList
    [("CONVERGDB_A", "\x7benv.CONVERGDB_B\x7d"), ("CONVERGDB_B", "A\x7d")])⟩

/-- Values that would complete a placeholder if one were open. -/
theorem fillsAtOnce_torn :
    Clean "$\x7benv.CONVERGDB_B\x7d$\x7benv.CONVERGDB_A\x7denv.$\x7benv.CONVERGDB_B\x7d".toList ∧
      torn.substituted
          "$\x7benv.CONVERGDB_B\x7d$\x7benv.CONVERGDB_A\x7denv.$\x7benv.CONVERGDB_B\x7d" =
        "A\x7d\x7benv.CONVERGDB_B\x7denv.A\x7d" ∧
      torn.FillsAtOnce
        "$\x7benv.CONVERGDB_B\x7d$\x7benv.CONVERGDB_A\x7denv.$\x7benv.CONVERGDB_B\x7d" := by
  refine ⟨by decide +kernel, by decide +kernel, ?_⟩
  exact fillsAtOnce_of_clean (by decide +kernel) (by decide +kernel)

end Interpolator

end DeployTree
