import DeployTree.Proofs.Environment.Occurrence

/-! # Placeholders that stay in a text

Interpolation finds the placeholders of a text once and replaces them in turn in the text reached so
far. A value may bring a placeholder in, or complete one together with the text around it. A
placeholder that is still to be replaced goes away later; any other one stays to the end
(`DeployTree.Interpolator.mem_occurrences_replaceEach`), because no later replacement touches it. So
a text is free of placeholders after interpolation exactly when every replacement brings in only
placeholders that are still to come (`DeployTree.Interpolator.inText_interpolate_eq_nil_iff`).
-/

namespace DeployTree.Interpolator

open Placeholder

/-- The placeholders that a replacement brings into a text: those of the text it leaves which were
not there before, and the replaced one if it is there again. -/
def brought (placeholder : Placeholder) (value text : List Char) : List Placeholder :=
  (occurrences (replaceAll placeholder.chars value 0 text)).filter fun other =>
    other = placeholder ∨ other ∉ occurrences text

/-- Whether replacing placeholders in turn brings only placeholders into the text that are still to
be replaced. -/
def bringsOnlyPending (interpolator : Interpolator) : List Placeholder → List Char → Bool
  | [], _ => true
  | placeholder :: rest, text =>
      match interpolator.value placeholder.variableName with
      | .error _ => true
      | .ok value =>
          (brought placeholder value.toList text).all (· ∈ rest) &&
            bringsOnlyPending interpolator rest
              (replaceAll placeholder.chars value.toList 0 text)

variable {interpolator : Interpolator} {placeholder other : Placeholder}
  {pending rest : List Placeholder} {text reached value : List Char}

private theorem mem_brought_iff :
    other ∈ brought placeholder value text ↔
      other ∈ occurrences (replaceAll placeholder.chars value 0 text) ∧
        (other = placeholder ∨ other ∉ occurrences text) := by
  simp [brought]

/-- Placeholders are replaced in turn when the first has a value and the others are replaced in the
text that it leaves. -/
theorem replaceEach_cons_eq_ok_iff :
    (interpolator.replaceEach (placeholder :: rest) text).outcome = .ok reached ↔
      ∃ value, interpolator.value placeholder.variableName = .ok value ∧
        (interpolator.replaceEach rest
          (replaceAll placeholder.chars value.toList 0 text)).outcome = .ok reached := by
  simp [replaceEach, Run.outcome_bind_eq_ok_iff]

/-- A placeholder that is not among those to be replaced stays. -/
theorem mem_occurrences_replaceEach (named : ∀ placeholder ∈ pending, placeholder.Named)
    (outside : other ∉ pending) (member : other ∈ occurrences text)
    (ok : (interpolator.replaceEach pending text).outcome = .ok reached) :
    other ∈ occurrences reached := by
  induction pending generalizing text with
  | nil =>
      obtain rfl : text = reached := by simpa [replaceEach] using ok
      exact member
  | cons placeholder rest ih =>
      obtain ⟨value, _, ok⟩ := replaceEach_cons_eq_ok_iff.mp ok
      obtain ⟨apart, outside⟩ : other ≠ placeholder ∧ other ∉ rest := by simpa using outside
      exact ih (fun next later => named next (List.mem_cons_of_mem _ later)) outside
        (mem_occurrences_replaceAll (named placeholder (List.mem_cons_self ..)) apart.symm member)
        ok

/-- Placeholders that are all still to be replaced are gone in the end exactly when every
replacement brings in only such ones. -/
theorem occurrences_replaceEach_eq_nil_iff (named : ∀ placeholder ∈ pending, placeholder.Named)
    (covered : ∀ placeholder ∈ occurrences text, placeholder ∈ pending)
    (ok : (interpolator.replaceEach pending text).outcome = .ok reached) :
    occurrences reached = [] ↔ interpolator.bringsOnlyPending pending text = true := by
  induction pending generalizing text with
  | nil =>
      obtain rfl : text = reached := by simpa [replaceEach] using ok
      simpa [bringsOnlyPending] using List.eq_nil_iff_forall_not_mem.mpr
        fun placeholder member => absurd (covered placeholder member) (by simp)
  | cons placeholder rest ih =>
      obtain ⟨value, bound, ok⟩ := replaceEach_cons_eq_ok_iff.mp ok
      have namedRest : ∀ next ∈ rest, next.Named := fun next later =>
        named next (List.mem_cons_of_mem _ later)
      -- What the text holds after the step was there before under another name, or was brought in.
      have coveredNext
          (onlyPending : ∀ other ∈ brought placeholder value.toList text, other ∈ rest) :
          ∀ other ∈ occurrences (replaceAll placeholder.chars value.toList 0 text),
            other ∈ rest := by
        intro other member
        by_cases new : other = placeholder ∨ other ∉ occurrences text
        · exact onlyPending other (mem_brought_iff.mpr ⟨member, new⟩)
        · obtain ⟨apart, old⟩ := not_or.mp new
          exact (List.mem_cons.mp (covered other (Decidable.not_not.mp old))).resolve_left apart
      have step : interpolator.bringsOnlyPending (placeholder :: rest) text = true ↔
          (∀ other ∈ brought placeholder value.toList text, other ∈ rest) ∧
            interpolator.bringsOnlyPending rest
              (replaceAll placeholder.chars value.toList 0 text) = true := by
        simp [bringsOnlyPending, bound]
      rw [step]
      constructor
      · intro clean
        have onlyPending : ∀ other ∈ brought placeholder value.toList text, other ∈ rest := by
          intro other member
          refine Decidable.byContradiction fun outside => ?_
          have stays :=
            mem_occurrences_replaceEach namedRest outside (mem_brought_iff.mp member).1 ok
          rw [clean] at stays
          exact List.not_mem_nil stays
        exact ⟨onlyPending, (ih namedRest (coveredNext onlyPending) ok).mp clean⟩
      · rintro ⟨onlyPending, later⟩
        exact (ih namedRest (coveredNext onlyPending) ok).mpr later

/-- Interpolation gives what replacing the placeholders of the text one after another gives. -/
theorem interpolate_eq_ok_iff {text filled : String} :
    (interpolator.interpolate text).outcome = .ok filled ↔
      ∃ reached, (interpolator.replaceEach (inText text) text.toList).outcome = .ok reached ∧
        String.ofList reached = filled := by
  simp [interpolate, Run.outcome_bind_eq_ok_iff]

/-- **Texts free of placeholders.** An interpolated text holds no placeholder exactly when every
replacement brings in only placeholders that are still to be replaced. -/
theorem inText_interpolate_eq_nil_iff {interpolator : Interpolator} {text filled : String}
    (ok : (interpolator.interpolate text).outcome = .ok filled) :
    inText filled = [] ↔ interpolator.bringsOnlyPending (inText text) text.toList = true := by
  obtain ⟨reached, replaced, rfl⟩ := interpolate_eq_ok_iff.mp ok
  have named : ∀ placeholder ∈ inText text, placeholder.Named := fun placeholder member =>
    (mem_occurrences_iff.mp (mem_inText_iff.mp member)).1
  have free : inText (String.ofList reached) = [] ↔ occurrences reached = [] := by
    simp only [List.eq_nil_iff_forall_not_mem, mem_inText_iff, String.toList_ofList]
  rw [free]
  exact occurrences_replaceEach_eq_nil_iff named (fun placeholder => mem_inText_iff.mpr) replaced

/-- Bindings of which one has the placeholder of the other for its value. -/
def referring : Interpolator :=
  ⟨.standard, Bindings.lookup (Dictionary.ofList
    [("CONVERGDB_A", "$\x7benv.CONVERGDB_B\x7d"), ("CONVERGDB_B", "x")])⟩

/-- A value that is a placeholder of the text itself, still to be replaced, leaves nothing behind.
-/
theorem inText_interpolate_referring_both :
    (referring.interpolate "$\x7benv.CONVERGDB_A\x7d$\x7benv.CONVERGDB_B\x7d").outcome = .ok "xx" ∧
      (inText "xx" = [] ↔
        referring.bringsOnlyPending (inText "$\x7benv.CONVERGDB_A\x7d$\x7benv.CONVERGDB_B\x7d")
          "$\x7benv.CONVERGDB_A\x7d$\x7benv.CONVERGDB_B\x7d".toList = true) := by
  have filled : (referring.interpolate
      "$\x7benv.CONVERGDB_A\x7d$\x7benv.CONVERGDB_B\x7d").outcome = .ok "xx" := by
    decide +kernel
  exact ⟨filled, inText_interpolate_eq_nil_iff filled⟩

/-- A value that is a placeholder of no other part of the text stays as a placeholder. -/
theorem inText_interpolate_referring_ne_nil :
    (referring.interpolate "$\x7benv.CONVERGDB_A\x7d").outcome =
        .ok "$\x7benv.CONVERGDB_B\x7d" ∧
      inText "$\x7benv.CONVERGDB_B\x7d" ≠ [] := by
  decide +kernel

end DeployTree.Interpolator
