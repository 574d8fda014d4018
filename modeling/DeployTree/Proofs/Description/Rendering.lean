import DeployTree.Proofs.Description.Settling
import DeployTree.Proofs.Schema.Breach

/-! # What a description generates

The output for a description can be written down field by field, in document order
(`DeployTree.Description.rendering`). Generating goes through a tree instead, in three passes; it
comes to the same (`DeployTree.Description.generate_of_build`). It fails with the first placeholder
that cannot be replaced, else with the first rule that a settled node breaks, and in no other way.
-/

namespace DeployTree

section Rendering

variable (fill : Option String → Option String)

/-- The output for a column of a relation with the given full name. -/
def ColumnDescription.rendering (relationName : Option String) (column : ColumnDescription) :
    Json :=
  .object
    [ ("name", .ofText? column.name),
      ("data_type", .ofText? column.dataType),
      ("expression", .ofText? (fill column.expression)),
      ("source_field", .ofText? column.sourceField),
      ("required", Value.flagJson column.required),
      ("partition", Value.flagJson column.partition),
      ("relation", .ofText? relationName) ]

/-- The output for a relation: its own settings or those of the deployment, its names, its columns.
-/
def RelationDescription.rendering (description : Description) (relation : RelationDescription) :
    Json :=
  let name := fullName (fill description.environment) (fill relation.relationName)
  .object
    [ ("relation_name", .ofText? (fill relation.relationName)),
      ("full_relation_name", .ofText? name),
      ("region", .ofText? (ownOr (fill description.region) (fill relation.region))),
      ("service_role",
        .ofText? (ownOr (fill description.serviceRole) (fill relation.serviceRole))),
      ("script_bucket",
        .ofText? (ownOr (fill description.scriptBucket) (fill relation.scriptBucket))),
      ("storage_format",
        .ofText? (ownOr (fill description.storageFormat) (fill relation.storageFormat))),
      ("source_relation_prefix", .ofText? (fill relation.sourceRelationPrefix)),
      ("etl_job_name",
        .ofText? (ownOr (name.map Relation.jobName) (fill relation.etlJobName))),
      ("use_inventory", Value.flagJson relation.useInventory),
      ("attributes", .array (relation.columns.map (ColumnDescription.rendering fill name))) ]

namespace Description

/-- The output for a description: the settings of the deployment, then its relations in order. -/
def rendering (description : Description) : Json :=
  .object
    [ ("environment", .ofText? (fill description.environment)),
      ("region", .ofText? (fill description.region)),
      ("service_role", .ofText? (fill description.serviceRole)),
      ("script_bucket", .ofText? (fill description.scriptBucket)),
      ("storage_format", .ofText? (fill description.storageFormat)),
      ("relations",
        .array (description.relations.map (RelationDescription.rendering fill description))) ]

/-- The settled columns of a relation. -/
def settledColumns (relation : RelationDescription) : List Element :=
  relation.columns.map fun column => .column (column.settled fill)

/-- The settled nodes of a description in document order: the deployment, then every relation before
its columns. -/
def settledNodes (description : Description) : List Element :=
  .deployment (description.settled fill) ::
    description.relations.flatMap fun relation =>
      .relation (relation.settled fill description) :: settledColumns fill relation

variable {fill} {interpolator : Interpolator} {description : Description}

/-- The settled nodes hold every relation. -/
theorem settled_mem_settledNodes {relation : RelationDescription} (description : Description)
    (member : relation ∈ description.relations) :
    Element.relation (relation.settled fill description) ∈ description.settledNodes fill :=
  List.mem_cons_of_mem _ (List.mem_flatMap.mpr ⟨relation, member, List.mem_cons_self ..⟩)

/-- The settled nodes hold every column. -/
theorem column_mem_settledNodes {relation : RelationDescription} {column : ColumnDescription}
    (description : Description) (listed : relation ∈ description.relations)
    (member : column ∈ relation.columns) :
    Element.column (column.settled fill) ∈ description.settledNodes fill := by
  apply List.mem_cons_of_mem
  apply List.mem_flatMap.mpr
  refine ⟨relation, listed, List.mem_cons_of_mem _ ?_⟩
  exact List.mem_map.mpr ⟨column, member, rfl⟩

/-- The settled nodes in their positions are those in document order. -/
theorem nodes_settledWhole (fill : Option String → Option String) (description : Description) :
    (description.settledWhole fill).nodes = description.settledNodes fill := by
  rw [settledWhole, Forest.nodes, settledForest, nodes_relationForest, Forest.nodes,
    List.append_nil, settledNodes]
  rfl

/-- No node of a description is a probe. -/
theorem ne_probe_of_mem_settledNodes {element : Element}
    (member : element ∈ description.settledNodes fill) (probe : Probe) :
    element ≠ .probe probe := by
  rintro rfl
  simp [settledNodes, settledColumns] at member

private theorem settingJson_text (setting : Option String) :
    Value.settingJson (setting.map .text) = .ofText? setting := by
  cases setting <;> rfl

/-- The outputs of settled columns under a settled relation. -/
theorem exists_outputs_columnForest (fill : Option String → Option String) (outlook : Outlook)
    (relation : Relation) (start : Nat) (columns : List ColumnDescription) :
    ∃ outputs, ((columnForest (ColumnDescription.settled fill) start columns).outputs
        (Element.manner interpolator) (outlook.beneath (Element.relation relation))).outcome =
          .ok outputs ∧
      outputs.map ChildOutput.output =
        columns.map (ColumnDescription.rendering fill relation.fullRelationName) := by
  induction columns generalizing start with
  | nil => exact ⟨[], rfl, rfl⟩
  | cons column rest ih =>
      obtain ⟨outputs, ok, same⟩ := ih (start + 1)
      have above : Column.relationName
          (outlook.beneath (Element.relation relation)).outputScope =
            .ok (relation.fullRelationName.map .text) := by
        rw [Column.relationName_eq]
        refine (congrArg (Outlook.setting · _) (Outlook.outlook_view _)).trans ?_
        exact Outlook.setting_beneath rfl
      have own : (Element.manner interpolator).output
          (outlook.beneath (Element.relation relation)) [] (.column (column.settled fill)) =
            pure (column.rendering fill relation.fullRelationName) := by
        change Run.ofExcept (Column.output _ (column.settled fill)) = _
        rw [Column.output, above, ColumnDescription.rendering,
          ← settingJson_text relation.fullRelationName]
        rfl
      refine ⟨⟨.wrapping start, Column.kindName,
        column.rendering fill relation.fullRelationName⟩ :: outputs, ?_, ?_⟩
      · simp only [columnForest, Forest.outputs, pure_bind, own]
        rw [Run.outcome_bind_of_ok ok]
        rfl
      · simp [same]

/-- The outputs of settled relations. -/
theorem exists_outputs_settledForest (fill : Option String → Option String)
    (description : Description) (outlook : Outlook) (start : Nat)
    (relations : List RelationDescription) :
    ∃ outputs, ((settledForest fill description start relations).outputs
        (Element.manner interpolator) outlook).outcome = .ok outputs ∧
      outputs.map ChildOutput.output =
        relations.map (RelationDescription.rendering fill description) := by
  unfold settledForest
  induction relations generalizing start with
  | nil => exact ⟨[], rfl, rfl⟩
  | cons relation rest ih =>
      obtain ⟨outputs, ok, same⟩ := ih (start + relation.nodeCount)
      obtain ⟨inside, insideOk, insideSame⟩ := exists_outputs_columnForest fill outlook
        (relation.settled fill description) (start + 1) relation.columns
      have own : (Element.manner interpolator).output outlook inside
          (.relation (relation.settled fill description)) =
            pure (relation.rendering fill description) := by
        change Run.ofExcept (.ok (Relation.output inside (relation.settled fill description))) = _
        rw [Relation.output, insideSame]
        rfl
      refine ⟨⟨.wrapping start, Relation.kindName, relation.rendering fill description⟩ :: outputs,
        ?_, ?_⟩
      · rw [relationForest, Forest.outputs, Run.outcome_bind_of_ok insideOk, own, pure_bind,
          Run.outcome_bind_of_ok ok]
        rfl
      · simp [same]

variable {tree : Draft}

/-- **The validate pass.** Validating the settled tree ends with the first of its nodes that breaks
a rule. -/
theorem validate_settledTree (built : description.build.outcome = .ok tree)
    (fill : Option String → Option String) :
    (description.settledTree fill tree).validate.outcome =
      unlessFound ((description.settledNodes fill).findSome? breach?)
        (.ok ⟨(description.settledTree fill tree).arena⟩) := by
  have nodes := nodes_settledWhole fill description
  have validated : (description.settledWhole fill).validated.outcome = _ :=
    Forest.validated_outcome fun element member =>
      Element.validate_outcome (ne_probe_of_mem_settledNodes (nodes ▸ member))
  rw [nodes] at validated
  rw [(spans_settledTree built fill).validate, Run.outcome_bind_of_unlessFound validated]
  rfl

/-- **The output.** The settled tree gives the rendering of the description. -/
theorem output_settledTree (built : description.build.outcome = .ok tree)
    (interpolator : Interpolator) :
    (Tree.output ⟨(description.settledTree interpolator.filled tree).arena⟩).outcome =
      .ok (description.rendering interpolator.filled) := by
  let deployment := Element.deployment (description.settled interpolator.filled)
  obtain ⟨outputs, outputsOk, same⟩ := exists_outputs_settledForest interpolator.filled description
    (Outlook.beneath none deployment) 1 description.relations
  have spans := spans_settledTree built interpolator.filled
  have output : (Element.manner interpolator).output none outputs deployment =
      pure (description.rendering interpolator.filled) := by
    change Run.ofExcept (.ok (Deployment.output outputs _)) = _
    rw [Deployment.output, same]
    rfl
  refine (congrArg Run.outcome (spans.output (Element.manner interpolator))).trans ?_
  rw [Run.outcome_bind_of_ok outputsOk, output]
  rfl

/-- **The outcome of generating.** A description that is built generates its rendering, unless a
placeholder cannot be replaced or a settled node breaks a rule. -/
theorem generate_of_build (built : description.build.outcome = .ok tree)
    (interpolator : Interpolator) :
    (description.generate interpolator).outcome =
      unlessFound (interpolator.firstObstacle? description.interpolatedTexts)
        (unlessFound ((description.settledNodes interpolator.filled).findSome? breach?)
          (.ok (description.rendering interpolator.filled))) := by
  rw [generate, Run.outcome_bind_of_ok built, Tree.generate,
    Run.outcome_bind_of_unlessFound (resolve_of_build built interpolator),
    Run.outcome_bind_of_unlessFound (validate_settledTree built interpolator.filled),
    output_settledTree built interpolator]

/-- A description that generates has no placeholder without a value, breaks no rule and generates
its rendering. -/
theorem of_generate_eq_ok {ir : Json}
    (ok : (description.generate interpolator).outcome = .ok ir) :
    interpolator.firstObstacle? description.interpolatedTexts = none ∧
      (∀ element ∈ description.settledNodes interpolator.filled, breach? element = none) ∧
      ir = description.rendering interpolator.filled := by
  obtain ⟨tree, built, -⟩ := Run.outcome_bind_eq_ok_iff.mp ok
  rw [generate_of_build built] at ok
  obtain ⟨free, kept⟩ := unlessFound_eq_ok_iff.mp ok
  obtain ⟨unbroken, same⟩ := unlessFound_eq_ok_iff.mp kept
  exact ⟨free, List.findSome?_eq_none_iff.mp unbroken, (Except.ok.inj same).symm⟩

end Description

end Rendering

end DeployTree
