import DeployTree.Description.Document
import DeployTree.Proofs.Description.Rendering

/-! # Checking and generating

Checking a document leaves out the output and does everything else that generating does. The output
of a tree that comes from a description and has been resolved and validated cannot fail
(`DeployTree.Description.exists_output_of_validate`); hence checking succeeds exactly when
generating does, and fails with the same error (`DeployTree.Description.check_iff_generateFrom`).
-/

namespace DeployTree

namespace Run

variable {α β γ : Type}

/-- Whether two runs both have a value or fail with the same error. -/
def EndsLike (first : Run α) (second : Run β) : Prop :=
  first.outcome.map (fun _ => ()) = second.outcome.map fun _ => ()

/-- Runs that have a value end alike, whatever the values are. -/
theorem EndsLike.of_ok {first : Run α} {second : Run β} {value : α} {other : β}
    (ok : first.outcome = .ok value) (also : second.outcome = .ok other) :
    first.EndsLike second := by
  rw [EndsLike, ok, also]
  rfl

/-- Runs that go on in two ways end alike when they do so after every value. -/
theorem EndsLike.bind {first : Run α} {second : α → Run β} {third : α → Run γ}
    (alike : ∀ value, first.outcome = .ok value → (second value).EndsLike (third value)) :
    (first >>= second).EndsLike (first >>= third) := by
  cases ended : first.outcome with
  | error error =>
      rw [EndsLike, outcome_bind_of_error ended, outcome_bind_of_error ended]
      rfl
  | ok value =>
      rw [EndsLike, outcome_bind_of_ok ended, outcome_bind_of_ok ended]
      exact alike value ended

private theorem EndsLike.exists_ok_iff {first : Run α} {second : Run β}
    (alike : first.EndsLike second) :
    (∃ value, first.outcome = .ok value) ↔ ∃ value, second.outcome = .ok value := by
  unfold EndsLike at alike
  cases ended : first.outcome <;> cases also : second.outcome <;>
    simp_all [Except.map]

private theorem EndsLike.error_iff {first : Run α} {second : Run β} (alike : first.EndsLike second)
    (error : Error) : first.outcome = .error error ↔ second.outcome = .error error := by
  unfold EndsLike at alike
  cases ended : first.outcome <;> cases also : second.outcome <;>
    simp_all [Except.map]

end Run

namespace Description

variable {description : Description} {interpolator : Interpolator} {tree : Draft}
  {resolved : Tree Element .resolved} {validated : Tree Element .validated}

/-- **The output cannot fail.** A tree that was built from a description and has been resolved and
validated gives its output. -/
theorem exists_output_of_validate (built : description.build.outcome = .ok tree)
    (resolves : (tree.resolve interpolator).outcome = .ok resolved)
    (validates : resolved.validate.outcome = .ok validated) :
    ∃ output, validated.output.outcome = .ok output := by
  obtain rfl := eq_settledTree_of_resolve built resolves
  rw [validate_settledTree built] at validates
  obtain ⟨-, same⟩ := unlessFound_eq_ok_iff.mp validates
  obtain rfl := Except.ok.inj same
  exact ⟨_, output_settledTree built interpolator⟩

/-- **Checking and generating agree.** A document passes the check exactly when its output can be
generated, and otherwise both give the same error: what generating does after the check cannot
fail. -/
theorem check_iff_generateFrom (text : String) (interpolator : Interpolator) :
    ((∃ nodes, (check text interpolator).outcome = .ok nodes) ↔
        ∃ output, (generateFrom text interpolator).outcome = .ok output) ∧
      (∀ error, (check text interpolator).outcome = .error error ↔
        (generateFrom text interpolator).outcome = .error error) ∧
      ∀ (description : Description) (tree : Draft) (resolved : Tree Element .resolved)
        (validated : Tree Element .validated), description.build.outcome = .ok tree →
          (tree.resolve interpolator).outcome = .ok resolved →
          resolved.validate.outcome = .ok validated →
          ∃ output, validated.output.outcome = .ok output := by
  have alike : (check text interpolator).EndsLike (generateFrom text interpolator) := by
    apply Run.EndsLike.bind
    intro description _
    apply Run.EndsLike.bind
    intro tree built
    apply Run.EndsLike.bind
    intro resolved resolves
    apply Run.EndsLike.bind
    intro validated validates
    obtain ⟨output, ok⟩ := exists_output_of_validate built resolves validates
    exact .of_ok rfl ok
  exact ⟨alike.exists_ok_iff, alike.error_iff,
    fun _ _ _ _ built resolves validates => exists_output_of_validate built resolves validates⟩

/-- A document of a deployment with one relation that has one column. -/
def columnDocument : String :=
  "\x7b\"environment\":\"prod\",\"region\":\"us-west-2\",\"storage_format\":\"json\"," ++
    "\"relations\":[\x7b\"relation_name\":\"sales.orders.raw\"," ++
      "\"attributes\":[\x7b\"name\":\"id\",\"data_type\":\"int\"\x7d]\x7d]\x7d"

/-- The document of one column is both checked and generated. -/
theorem check_columnDocument :
    (check columnDocument ⟨.standard, fun _ => none⟩).outcome = .ok 3 ∧
      (∃ output, (generateFrom columnDocument ⟨.standard, fun _ => none⟩).outcome = .ok output) ∧
      ∃ (description : Description) (tree : Draft) (resolved : Tree Element .resolved)
        (validated : Tree Element .validated),
        description.build.outcome = .ok tree ∧
          (tree.resolve ⟨.standard, fun _ => none⟩).outcome = .ok resolved ∧
          resolved.validate.outcome = .ok validated ∧
          ∃ output, validated.output.outcome = .ok output := by
  have checked : (check columnDocument ⟨.standard, fun _ => none⟩).outcome = .ok 3 := by
    decide +kernel
  obtain ⟨agree, -, never⟩ := check_iff_generateFrom columnDocument ⟨.standard, fun _ => none⟩
  refine ⟨checked, agree.mp ⟨3, checked⟩, ?_⟩
  obtain ⟨description, -, rest⟩ := Run.outcome_bind_eq_ok_iff.mp checked
  obtain ⟨tree, built, rest⟩ := Run.outcome_bind_eq_ok_iff.mp rest
  obtain ⟨resolved, resolves, rest⟩ := Run.outcome_bind_eq_ok_iff.mp rest
  obtain ⟨validated, validates, -⟩ := Run.outcome_bind_eq_ok_iff.mp rest
  exact ⟨description, tree, resolved, validated, built, resolves, validates,
    never description tree resolved validated built resolves validates⟩

end Description

end DeployTree
