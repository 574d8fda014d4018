import DeployTree.Proofs.Description.Rendering
import DeployTree.Proofs.Environment.Occurrence

/-! # Success and failure of a description

A description that generates gives its rendering, and every name in it is made from settings that
are there (`DeployTree.Description.eq_rendering_of_generate`). With an identifier for every node, a
description fails in two ways only, placeholders before rules, each time with the first in document
order (`DeployTree.Description.outcome_generate`).
-/

namespace DeployTree.Description

variable {description : Description} {interpolator : Interpolator}

/-- **What is generated.** The output for a description is its rendering: every placeholder has been
replaced, and the environment and the names of the relations are set. -/
theorem eq_rendering_of_generate {ir : Json}
    (ok : (description.generate interpolator).outcome = .ok ir) :
    ir = description.rendering interpolator.filled ∧
      (∀ text ∈ description.interpolatedTexts,
        ∃ filled, (interpolator.interpolate text).outcome = .ok filled) ∧
      ∃ environment, interpolator.filled description.environment = some environment ∧
        ∀ relation ∈ description.relations,
          ∃ name, interpolator.filled relation.relationName = some name ∧
            fullName (interpolator.filled description.environment)
              (interpolator.filled relation.relationName) =
                some (environment ++ "." ++ name) := by
  obtain ⟨free, unbroken, same⟩ := of_generate_eq_ok ok
  refine ⟨same, fun text member =>
    interpolator.exists_interpolate_of_firstObstacle?_eq_none free member, ?_⟩
  have deploymentKeeps := keeps_of_breach?_eq_none (unbroken _ (List.mem_cons_self ..))
  obtain ⟨environment, environmentSet, -⟩ : ∃ environment,
      interpolator.filled description.environment = some environment ∧ _ :=
    deploymentKeeps.exists_accepted "environment" (List.mem_cons_self ..) rfl
  refine ⟨environment, environmentSet, fun relation member => ?_⟩
  have relationKeeps :=
    keeps_of_breach?_eq_none (unbroken _ (settled_mem_settledNodes _ member))
  obtain ⟨name, nameSet, -⟩ : ∃ name,
      interpolator.filled relation.relationName = some name ∧ _ :=
    relationKeeps.exists_accepted "relation_name" (List.mem_cons_self ..) rfl
  refine ⟨name, nameSet, ?_⟩
  rw [environmentSet, nameSet]
  rfl

/-- Variables of which one is bound to the empty text. -/
def regional : Interpolator :=
  ⟨.standard, Bindings.lookup (Dictionary.ofList
    [("CONVERGDB_REGION", "us-west-2"), ("CONVERGDB_EMPTY", "")])⟩

/-- A deployment and a relation that both have a placeholder for their region. -/
def regionDescription : Description where
  environment := some "prod"
  region := some "$\x7benv.CONVERGDB_REGION\x7d"
  serviceRole := none
  scriptBucket := none
  storageFormat := some "parquet"
  relations :=
    [{ RelationDescription.unset with
        relationName := some "sales.orders.raw"
        region := some "$\x7benv.CONVERGDB_EMPTY\x7d"
        columns :=
          [{ ColumnDescription.unset with
              name := some "id"
              dataType := some "bigint"
              partition := some (.text "T") }] }]

/-- The output for `regionDescription`. -/
def regionOutput : Json :=
  .object
    [ ("environment", .string "prod"), ("region", .string "us-west-2"), ("service_role", .null),
      ("script_bucket", .null), ("storage_format", .string "parquet"),
      ("relations", .array
        [ .object
          [ ("relation_name", .string "sales.orders.raw"),
            ("full_relation_name", .string "prod.sales.orders.raw"),
            ("region", .string "us-west-2"), ("service_role", .null), ("script_bucket", .null),
            ("storage_format", .string "parquet"), ("source_relation_prefix", .null),
            ("etl_job_name", .string "prod_sales_orders_raw"), ("use_inventory", .null),
            ("attributes", .array
              [ .object
                [ ("name", .string "id"), ("data_type", .string "bigint"), ("expression", .null),
                  ("source_field", .null), ("required", .null), ("partition", .bool true),
                  ("relation", .string "prod.sales.orders.raw") ] ]) ] ]) ]

/-- A region that is bound to the empty text gives way to that of the deployment. -/
theorem regionOutput_eq_rendering :
    (regionDescription.generate regional).outcome = .ok regionOutput ∧
      regionOutput = regionDescription.rendering regional.filled := by
  have generates : (regionDescription.generate regional).outcome = .ok regionOutput := by
    obtain ⟨tree, built⟩ : ∃ tree, regionDescription.build.outcome = .ok tree :=
      exists_build (by decide)
    rw [generate_of_build built]
    decide +kernel
  exact ⟨generates, (eq_rendering_of_generate generates).1⟩

/-- **How generating ends.** A description whose nodes all have identifiers fails with the first of
its placeholders that cannot be replaced; without one, with the first rule that is broken, node by
node; else it generates its rendering. An error names a variable of the description, or a broken
rule. -/
theorem outcome_generate (fits : description.nodeCount ≤ NodeId.capacity)
    (interpolator : Interpolator) :
    (description.generate interpolator).outcome =
        (match interpolator.firstObstacle? description.interpolatedTexts with
        | some obstacle => .error obstacle
        | none =>
            match (description.settledNodes interpolator.filled).findSome? breach? with
            | some breach => .error breach
            | none => .ok (description.rendering interpolator.filled)) ∧
      ∀ error, (description.generate interpolator).outcome = .error error →
        (∃ name ∈ description.variableNames,
          (interpolator.names.permits name = false ∧
              error = .configuration (.outsideNamespace name interpolator.names.start)) ∨
            (interpolator.names.permits name = true ∧ interpolator.source name = none ∧
              error = .configuration (.unbound name))) ∨
          ∃ breach, error = .validation breach := by
  obtain ⟨tree, built⟩ := exists_build fits
  refine ⟨generate_of_build built interpolator, fun error failed => ?_⟩
  rw [generate_of_build built] at failed
  cases found : interpolator.firstObstacle? description.interpolatedTexts with
  | some obstacle =>
      rw [found] at failed
      obtain rfl : obstacle = error := Except.error.inj failed
      obtain ⟨placeholder, occurs, blocked⟩ := List.exists_of_findSome?_eq_some found
      obtain ⟨text, member, inside⟩ := List.mem_flatMap.mp occurs
      refine .inl ⟨placeholder.variableName, ?_, interpolator.obstacle?_cases blocked⟩
      refine List.mem_flatMap.mpr ⟨text, member, List.mem_map.mpr ⟨placeholder, ?_, rfl⟩⟩
      exact Placeholder.mem_inText_iff.mpr inside
  | none =>
      rw [found] at failed
      cases broken : (description.settledNodes interpolator.filled).findSome? breach? with
      | some breach =>
          rw [broken] at failed
          obtain rfl : breach = error := Except.error.inj failed
          obtain ⟨element, -, breaks⟩ := List.exists_of_findSome?_eq_some broken
          exact .inr (isValidation_of_breach?_eq_some breaks)
      | none =>
          rw [broken] at failed
          cases failed

/-- A placeholder without a value is reported also where an earlier setting breaks a rule. -/
theorem outcome_generate_unbound :
    ({ regionDescription with
        environment := some "no name"
        storageFormat := some "$\x7benv.CONVERGDB_MISSING\x7d" }.generate regional).outcome =
      .error (.configuration (.unbound "CONVERGDB_MISSING")) := by
  refine (outcome_generate ?_ regional).1.trans ?_
  · decide
  · decide +kernel

end DeployTree.Description
