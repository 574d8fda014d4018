import DeployTree.Proofs.Description.Settling
import DeployTree.Proofs.Environment.Agreement

/-! # Which variables a description depends on

A description is generated in the same run, with the same output or the same error, under any two
sources that agree on the variables of the namespace that the description mentions
(`DeployTree.Description.generate_eq_of_agree`). Other variables make no difference, not even
those that a value mentions.
-/

namespace DeployTree

variable {first second : Interpolator} {description : Description}

/-- Interpolators that agree on the texts of the deployment resolve it alike. -/
theorem Description.resolve_node_congr
    (agree : ∀ text ∈ [description.environment, description.region, description.serviceRole,
      description.scriptBucket, description.storageFormat].filterMap id,
      first.AgreesOn second text) (outlook : Outlook) :
    (Element.manner first).resolve outlook (.deployment description.node) =
      (Element.manner second).resolve outlook (.deployment description.node) := by
  simp only [filterMap_id_cons] at agree
  have same : first.interpolated (Deployment.textFields.map Interpolator.TextField.name)
      description.node = _ := Interpolator.interpolated_congr agree
  exact congrArg (Element.deployment <$> ·) same

private theorem ColumnDescription.resolve_node_congr {column : ColumnDescription}
    (agree : ∀ text ∈ column.expression.toList, first.AgreesOn second text) (outlook : Outlook) :
    (Element.manner first).resolve outlook (.column column.node) =
      (Element.manner second).resolve outlook (.column column.node) := by
  rw [← List.append_nil column.expression.toList] at agree
  have same : first.interpolated (Column.textFields.map Interpolator.TextField.name)
      column.node = _ := Interpolator.interpolated_congr agree
  exact congrArg (Element.column <$> ·) same

/-- What a relation takes from above and derives is read off without an interpolator. -/
theorem RelationDescription.resolve_node_congr {relation : RelationDescription}
    (agree : ∀ text ∈ [relation.relationName, relation.sourceRelationPrefix, relation.etlJobName,
      relation.region, relation.serviceRole, relation.scriptBucket,
      relation.storageFormat].filterMap id, first.AgreesOn second text) (outlook : Outlook) :
    (Element.manner first).resolve outlook (.relation relation.node) =
      (Element.manner second).resolve outlook (.relation relation.node) := by
  simp only [filterMap_id_cons] at agree
  have same : first.interpolated (Relation.textFields.map Interpolator.TextField.name)
      relation.node = second.interpolated _ relation.node := Interpolator.interpolated_congr agree
  have above : (outlook.resolveScope first).view.outlook (outlook.resolveScope first).parent =
      (outlook.resolveScope second).view.outlook (outlook.resolveScope second).parent := rfl
  have resolves : relation.node.resolve (outlook.resolveScope first) =
      relation.node.resolve (outlook.resolveScope second) := by
    simp only [Relation.resolve, Relation.inherit_congr above]
    exact congrArg (· >>= _) same
  exact congrArg (Element.relation <$> ·) resolves

namespace Description

/-- Interpolators that agree on the texts of the relations and their columns resolve all of them
alike. -/
theorem resolved_builtForest_congr {relations : List RelationDescription}
    (agree : ∀ text ∈ relations.flatMap RelationDescription.interpolatedTexts,
      first.AgreesOn second text) (outlook : Outlook) (start : Nat) :
    (builtForest start relations).resolved (Element.manner first) outlook =
      (builtForest start relations).resolved (Element.manner second) outlook := by
  apply Forest.resolved_congr
  intro node member outlook
  rw [builtForest, nodes_relationForest] at member
  obtain ⟨relation, listed, member⟩ := List.mem_flatMap.mp member
  have own : ∀ text ∈ relation.interpolatedTexts, first.AgreesOn second text :=
    fun text inside => agree text (List.mem_flatMap.mpr ⟨relation, listed, inside⟩)
  rw [RelationDescription.interpolatedTexts, List.forall_mem_append] at own
  obtain ⟨settings, expressions⟩ := own
  rcases List.mem_cons.mp member with rfl | member
  · exact RelationDescription.resolve_node_congr settings outlook
  · obtain ⟨column, among, rfl⟩ := List.mem_map.mp member
    apply ColumnDescription.resolve_node_congr
    intro text given
    exact expressions text (List.mem_filterMap.mpr ⟨column, among, Option.mem_toList.mp given⟩)

/-- **Noninterference.** A description is generated in the same run, with the same output or the
same error, under any two sources that agree on those of its variables that belong to the
namespace. -/
theorem generate_eq_of_agree {names : Namespace} {source other : Lookup}
    (agree : ∀ name ∈ description.variableNames,
      names.permits name = true → source name = other name) :
    description.generate ⟨names, source⟩ = description.generate ⟨names, other⟩ := by
  have agrees : ∀ text ∈ description.interpolatedTexts,
      Interpolator.AgreesOn ⟨names, source⟩ ⟨names, other⟩ text := by
    intro text member placeholder inside
    apply Interpolator.value_congr
    apply agree
    exact List.mem_flatMap.mpr ⟨text, member, List.mem_map.mpr ⟨placeholder, inside, rfl⟩⟩
  rw [interpolatedTexts_eq, List.forall_mem_append] at agrees
  obtain ⟨settings, inRelations⟩ := agrees
  apply Run.bind_congr_of_ok
  intro tree built
  have resolves : tree.resolve ⟨names, source⟩ = tree.resolve ⟨names, other⟩ := by
    have spans := spans_of_build built
    rw [spans.resolve (Element.manner _), spans.resolve (Element.manner _)]
    simp only [Forest.resolved, resolve_node_congr settings, resolved_builtForest_congr inRelations]
  rw [Tree.generate, Tree.generate, resolves]

/-- A source that binds a variable of the document to the placeholder of another one. -/
def detour (target : String) : Lookup :=
  Bindings.lookup (Dictionary.ofList
    [("CONVERGDB_A", "$\x7benv.CONVERGDB_B\x7d"), ("CONVERGDB_B", target), ("HOME", target)])

/-- A document in which a column refers to the bound variable. -/
def detourDescription : Description :=
  { Description.unset with
    environment := some "prod"
    region := some "us-west-2"
    storageFormat := some "json"
    relations :=
      [{ RelationDescription.unset with
          relationName := some "sales.orders.raw"
          columns :=
            [{ ColumnDescription.unset with
                name := some "id"
                dataType := some "int"
                expression := some "$\x7benv.CONVERGDB_A\x7d" }] }] }

/-- The other variable is not looked up, so its value makes no difference. -/
theorem generate_detour :
    detourDescription.variableNames = ["CONVERGDB_A"] ∧
      detour "x" "CONVERGDB_B" ≠ detour "y" "CONVERGDB_B" ∧
      detourDescription.generate ⟨.standard, detour "x"⟩ =
        detourDescription.generate ⟨.standard, detour "y"⟩ ∧
      (detourDescription.generate ⟨.standard, detour "x"⟩).outcome.isOk = true := by
  have names : detourDescription.variableNames = ["CONVERGDB_A"] := by decide
  refine ⟨names, by decide, ?_, by decide +kernel⟩
  apply generate_eq_of_agree
  intro name member _
  rw [names, List.mem_singleton] at member
  subst member
  decide

end Description

end DeployTree
