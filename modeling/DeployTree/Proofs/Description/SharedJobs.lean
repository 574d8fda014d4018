import DeployTree.Proofs.Description.JobNames
import DeployTree.Proofs.Json.Leaves

/-! # Relations that share a job

Where relations leave their jobs without names, a job stands for all relations of the deployment
whose full names are the same but for dots in the places of low lines, and for no others
(`DeployTree.Description.sharesJob_iff_of_generate`). A relation shares its job with no other one if
the low lines of all names come after their dots.
-/

namespace DeployTree

namespace Json

/-- The entry of a relation in an output. -/
def relationAt? (output : Json) (number : Nat) : Option Json :=
  match output.field "relations" with
  | .array relations => relations[number]?
  | _ => none

/-- Whether the entry of a relation in an output gives these names to the relation and its job. -/
structure GivesNames (entry : Json) (name full job : String) : Prop where
  relationName : entry.field "relation_name" = .string name
  fullRelationName : entry.field "full_relation_name" = .string full
  etlJobName : entry.field "etl_job_name" = .string job

end Json

namespace Description

open Pattern (sqlIdentifier threePartName)

variable {description : Description} {interpolator : Interpolator} {output : Json} {number : Nat}
  {relation other : RelationDescription}

private theorem relationAt?_rendering (fill : Option String → Option String)
    (listed : description.relations[number]? = some relation) :
    (description.rendering fill).relationAt? number =
      some (relation.rendering fill description) := by
  change (description.relations.map _)[number]? = _
  rw [List.getElem?_map, listed]
  rfl

/-- The entry of a relation without a name for its job names the job after the full name. -/
theorem givesNames_rendering {environment name : String} (unnamed : relation.Unnamed interpolator)
    (environmentSet : interpolator.filled description.environment = some environment)
    (nameSet : interpolator.filled relation.relationName = some name) :
    (relation.rendering interpolator.filled description).GivesNames name
      (environment ++ "." ++ name) (Relation.jobName (environment ++ "." ++ name)) where
  relationName := congrArg Json.ofText? nameSet
  fullRelationName := by
    change Json.ofText? (fullName (interpolator.filled description.environment)
      (interpolator.filled relation.relationName)) = _
    rw [environmentSet, nameSet]
    rfl
  etlJobName :=
    congrArg Json.ofText? (settled_etlJobName unnamed environmentSet nameSet)

/-- Where generating succeeds, the environment is set, and every relation has a name that fits. -/
theorem exists_names_of_generate
    (generated : (description.generate interpolator).outcome = .ok output) :
    ∃ environment, interpolator.filled description.environment = some environment ∧
      ∀ relation ∈ description.relations, ∃ name,
        interpolator.filled relation.relationName = some name ∧
          threePartName.accepts name = true := by
  obtain ⟨-, unbroken, -⟩ := of_generate_eq_ok generated
  have deploymentKeeps := keeps_of_breach?_eq_none (unbroken _ (List.mem_cons_self ..))
  obtain ⟨environment, environmentSet, -⟩ : ∃ environment,
      interpolator.filled description.environment = some environment ∧
        sqlIdentifier.accepts environment = true :=
    deploymentKeeps.exists_accepted "environment" (List.mem_cons_self ..) rfl
  refine ⟨environment, environmentSet, fun relation member => ?_⟩
  have relationKeeps :=
    keeps_of_breach?_eq_none (unbroken _ (settled_mem_settledNodes description member))
  exact relationKeeps.exists_accepted "relation_name" (List.mem_cons_self ..) rfl

/-- **Shared jobs.** Where generating succeeds, two relations without names for their jobs have one
job exactly when their full names are the same but for dots in the places of low lines. Full names
that differ have different jobs where the low lines of both names come after their dots. -/
theorem sharesJob_iff_of_generate {first second : Nat}
    (generated : (description.generate interpolator).outcome = .ok output)
    (listed : description.relations[first]? = some relation)
    (otherListed : description.relations[second]? = some other)
    (unnamed : relation.Unnamed interpolator) (otherUnnamed : other.Unnamed interpolator) :
    ∃ entry name full job otherEntry otherName otherFull otherJob,
      output.relationAt? first = some entry ∧ entry.GivesNames name full job ∧
      output.relationAt? second = some otherEntry ∧
      otherEntry.GivesNames otherName otherFull otherJob ∧
      (job = otherJob ↔ Relation.Alike full otherFull) ∧
      (Relation.DotsFirst name → Relation.DotsFirst otherName → full ≠ otherFull →
        job ≠ otherJob) := by
  obtain ⟨environment, environmentSet, names⟩ := exists_names_of_generate generated
  obtain ⟨name, nameSet, nameFits⟩ := names relation (List.mem_of_getElem? listed)
  obtain ⟨otherName, otherSet, otherFits⟩ := names other (List.mem_of_getElem? otherListed)
  obtain ⟨-, -, rfl⟩ := of_generate_eq_ok generated
  refine ⟨_, name, _, _, _, otherName, _, _, relationAt?_rendering _ listed,
    givesNames_rendering unnamed environmentSet nameSet, relationAt?_rendering _ otherListed,
    givesNames_rendering otherUnnamed environmentSet otherSet, Relation.jobName_eq_iff, ?_⟩
  exact Relation.jobName_ne_of_dotsFirst environment nameFits otherFits

/-- A relation with a name, and without a name for its job. -/
def namedRelation (name : String) : RelationDescription :=
  { RelationDescription.unset with relationName := some name }

/-- A deployment of two relations with names. -/
def namedPair (name other : String) : Description :=
  { unset with
    environment := some "prod"
    region := some "us-west-2"
    storageFormat := some "json"
    relations := [namedRelation name, namedRelation other] }

private theorem generate_namedPair (name other : String)
    (free : withoutVariables.firstObstacle? (namedPair name other).interpolatedTexts = none)
    (unbroken : ((namedPair name other).settledNodes withoutVariables.filled).findSome? breach? =
      none) :
    ((namedPair name other).generate withoutVariables).outcome =
      .ok ((namedPair name other).rendering withoutVariables.filled) := by
  obtain ⟨tree, built⟩ : ∃ tree, (namedPair name other).build.outcome = .ok tree :=
    exists_build (show 3 ≤ NodeId.capacity by decide)
  rw [generate_of_build built, free, unbroken]
  rfl

/-- A low line in the last part of a name leaves the job to its relation. -/
theorem sharesJob_iff_namedPair :
    ∃ output,
      ((namedPair "sales.orders.raw" "sales.orders.new_raw").generate withoutVariables).outcome =
        .ok output ∧
      ∃ entry name full job otherEntry otherName otherFull otherJob,
        output.relationAt? 0 = some entry ∧ entry.GivesNames name full job ∧
        output.relationAt? 1 = some otherEntry ∧
        otherEntry.GivesNames otherName otherFull otherJob ∧
        (job = otherJob ↔ Relation.Alike full otherFull) ∧
        (Relation.DotsFirst name → Relation.DotsFirst otherName → full ≠ otherFull →
          job ≠ otherJob) := by
  have generated := generate_namedPair "sales.orders.raw" "sales.orders.new_raw"
    (by decide +kernel) (by decide +kernel)
  have listed : (namedPair "sales.orders.raw" "sales.orders.new_raw").relations[0]? =
      some (namedRelation "sales.orders.raw") := rfl
  have otherListed : (namedPair "sales.orders.raw" "sales.orders.new_raw").relations[1]? =
      some (namedRelation "sales.orders.new_raw") := rfl
  exact ⟨_, generated,
    sharesJob_iff_of_generate generated listed otherListed (.inl rfl) (.inl rfl)⟩

/-- Two names whose low lines stand on either side of the first dot have one job. -/
theorem exists_sharedJob_namedPair :
    ∃ output entry otherEntry,
      ((namedPair "a_b.c.d" "a.b_c.d").generate withoutVariables).outcome = .ok output ∧
      (∀ relation ∈ (namedPair "a_b.c.d" "a.b_c.d").relations,
        relation.Unnamed withoutVariables) ∧
      output.relationAt? 0 = some entry ∧
      entry.GivesNames "a_b.c.d" "prod.a_b.c.d" "prod_a_b_c_d" ∧
      output.relationAt? 1 = some otherEntry ∧
      otherEntry.GivesNames "a.b_c.d" "prod.a.b_c.d" "prod_a_b_c_d" := by
  have generated := generate_namedPair "a_b.c.d" "a.b_c.d" (by decide +kernel) (by decide +kernel)
  refine ⟨_, _, _, generated, ?_, relationAt?_rendering _ rfl, ?_, relationAt?_rendering _ rfl, ?_⟩
  · exact List.forall_mem_cons.mpr ⟨.inl rfl, List.forall_mem_singleton.mpr (.inl rfl)⟩
  · exact ⟨by decide +kernel, by decide +kernel, by decide +kernel⟩
  · exact ⟨by decide +kernel, by decide +kernel, by decide +kernel⟩

end Description

end DeployTree
