import DeployTree.Proofs.Environment.Filling

/-! # Interpolators that agree on a text

Two interpolators agree on a text when each of its placeholders has the same value or the same error
under both (`DeployTree.Interpolator.AgreesOn`). Values may spell further placeholders while the
text is filled; none of them is looked up, because what is replaced is settled before the first
replacement. So interpolators that agree on a text fill it alike
(`DeployTree.Interpolator.AgreesOn.interpolate_eq`), and the same holds for the texts of a node that
are filled in turn (`DeployTree.Interpolator.interpolated_congr`).
-/

namespace DeployTree.Interpolator

/-- Whether every placeholder of a text has the same value or the same error under both. -/
def AgreesOn (first second : Interpolator) (text : String) : Prop :=
  ∀ placeholder ∈ Placeholder.inText text,
    first.value placeholder.variableName = second.value placeholder.variableName

variable {first second : Interpolator} {text : String}

/-- A source is asked for a variable of the namespace only. -/
theorem value_congr {names : Namespace} {source other : Lookup} {name : String}
    (agree : names.permits name = true → source name = other name) :
    value ⟨names, source⟩ name = value ⟨names, other⟩ name := by
  unfold value
  split
  · rename_i permitted
    simp only [agree permitted]
  · rfl

private theorem replaceEach_congr {pending : List Placeholder}
    (agree : ∀ placeholder ∈ pending,
      first.value placeholder.variableName = second.value placeholder.variableName)
    (reached : List Char) :
    first.replaceEach pending reached = second.replaceEach pending reached := by
  induction pending generalizing reached with
  | nil => rfl
  | cons placeholder rest ih =>
      have later := ih fun other member => agree other (List.mem_cons_of_mem _ member)
      simp only [replaceEach, agree placeholder (List.mem_cons_self ..), later]

/-- Interpolators that agree on a text fill it in the same run. -/
theorem AgreesOn.interpolate_eq (agrees : first.AgreesOn second text) :
    first.interpolate text = second.interpolate text := by
  rw [interpolate, interpolate, replaceEach_congr agrees]

variable {ν : Type} [Attributed ν]

private theorem interpolateNamed_congr {fields : List (TextField ν)} {node : ν}
    (agree : ∀ text ∈ first.fieldTexts fields node, first.AgreesOn second text) :
    first.interpolateNamed (fields.map TextField.name) node =
      second.interpolateNamed (fields.map TextField.name) node := by
  induction fields generalizing node with
  | nil => rfl
  | cons field rest ih =>
      rw [fieldTexts, List.forall_mem_append] at agree
      obtain ⟨here, later⟩ := agree
      have reads := field.reads node
      cases setting : field.get node with
      | none =>
          rw [setting] at reads later
          rw [field.set_filled_none setting] at later
          simp only [List.map_cons, interpolateNamed, reads, Option.map_none, ih later]
      | some content =>
          rw [setting] at reads here later
          have run := (here content (List.mem_singleton_self content)).interpolate_eq
          simp only [List.map_cons, interpolateNamed, reads, Option.map_some, ← run]
          cases ended : (first.interpolate content).outcome with
          | error error => rfl
          | ok filledText =>
              rw [first.filled_of_ok ended] at later
              simp only [field.attempts, ih later]

/-- Interpolators that agree on the texts of a node fill it in the same run. -/
theorem interpolated_congr {fields : List (TextField ν)} {node : ν}
    (agree : ∀ text ∈ first.fieldTexts fields node, first.AgreesOn second text) :
    first.interpolated (fields.map TextField.name) node =
      second.interpolated (fields.map TextField.name) node := by
  unfold interpolated
  rw [interpolateNamed_congr agree]

end DeployTree.Interpolator
