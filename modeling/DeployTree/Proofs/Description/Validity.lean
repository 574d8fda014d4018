import DeployTree.Description.Document
import DeployTree.Proofs.Description.Rendering
import DeployTree.Proofs.Json.Leaves

/-! # What every output keeps to

The output for a document is valid: the settings and names in it fit their patterns, those that must
be set are set, and the full name of a relation is the environment of the deployment and the name of
the relation (`DeployTree.Json.ValidDeployment`). Only the expressions of columns are free; no other
string holds the character that opens a placeholder, whatever the variables are bound to
(`DeployTree.Description.validDeployment_of_generateFrom`).
-/

namespace DeployTree

namespace Json

/-- The output for a column has a name and a data type; its source, if there is one, has two parts.
-/
structure ValidColumn (column : Json) : Prop where
  name : (column.field "name").Fits .sqlIdentifier
  dataType : (column.field "data_type").Fits .dataType
  sourceField : (column.field "source_field").FitsOrNull .twoPartNameOrEmpty

/-- The output for a relation has its names, a region and a storage format, and what else is set
fits its pattern. At its first dot the full name falls into the environment and the relation's name.
The columns are valid. -/
structure ValidRelation (environment : String) (relation : Json) : Prop where
  relationName : (relation.field "relation_name").Fits .threePartName
  fullRelationName : (relation.field "full_relation_name").Fits .fourPartName
  region : (relation.field "region").Fits .region
  storageFormat : (relation.field "storage_format").Fits .storageFormat
  serviceRole : (relation.field "service_role").FitsOrNull .roleName
  scriptBucket : (relation.field "script_bucket").FitsOrNull .bucketName
  sourceRelationPrefix :
    (relation.field "source_relation_prefix").FitsOrNull .dottedPrefix
  etlJobName : (relation.field "etl_job_name").FitsOrNull .sqlIdentifier
  split : ∃ whole name, relation.field "full_relation_name" = .string whole ∧
    relation.field "relation_name" = .string name ∧
    whole.toList.takeWhile (· ≠ '.') = environment.toList ∧
    whole.toList.dropWhile (· ≠ '.') = '.' :: name.toList
  columns : ∃ columns, relation.field "attributes" = .array columns ∧
    ∀ column ∈ columns, column.ValidColumn

/-- The output for a document has an environment and a region, what else is set fits its pattern,
and the relations are valid in the environment. -/
structure ValidDeployment (output : Json) : Prop where
  environment : (output.field "environment").Fits .sqlIdentifier
  region : (output.field "region").Fits .region
  serviceRole : (output.field "service_role").FitsOrNull .roleName
  scriptBucket : (output.field "script_bucket").FitsOrNull .bucketName
  storageFormat : (output.field "storage_format").FitsOrNull .storageFormat
  relations : ∃ environment relations, output.field "environment" = .string environment ∧
    output.field "relations" = .array relations ∧
    ∀ relation ∈ relations, relation.ValidRelation environment

end Json

section Nodes

variable {ν : Type} [Attributed ν] {node : ν} {rules : List Rule} {pattern : Pattern}
  {setting : Option String}

private theorem Keeps.fits (keeps : Keeps node rules) (name : String)
    (listed : .mandatory name pattern ∈ rules)
    (reads : Attributed.read node name = .ok (setting.map .text)) :
    (Json.ofText? setting).Fits pattern := by
  obtain ⟨text, rfl, accepted⟩ := keeps.exists_accepted name listed reads
  exact ⟨text, rfl, accepted⟩

private theorem Keeps.fitsOrNull (keeps : Keeps node rules) (name : String)
    (listed : .optional name pattern ∈ rules)
    (reads : Attributed.read node name = .ok (setting.map .text)) :
    (Json.ofText? setting).FitsOrNull pattern := by
  cases setting with
  | none => exact .inl rfl
  | some text => exact .inr ⟨text, rfl, keeps.accepts_of_optional name listed reads rfl⟩

end Nodes

private theorem split_fullName {environment : String} (plain : '.' ∉ environment.toList)
    (name : String) :
    (environment ++ "." ++ name).toList.takeWhile (· ≠ '.') = environment.toList ∧
      (environment ++ "." ++ name).toList.dropWhile (· ≠ '.') = '.' :: name.toList := by
  have chars : (environment ++ "." ++ name).toList =
      environment.toList ++ '.' :: name.toList := by
    simp
  have other : ∀ c ∈ environment.toList, decide (c ≠ '.') = true := by
    intro c member
    apply decide_eq_true
    rintro rfl
    exact plain member
  rw [chars]
  constructor
  · rw [List.takeWhile_append_of_pos other]
    simp
  · rw [List.dropWhile_append_of_pos other]
    simp

variable {fill : Option String → Option String}

private theorem ColumnDescription.validColumn_rendering {column : ColumnDescription}
    (keeps : Keeps (Element.column (column.settled fill)) Column.rules)
    (relationName : Option String) : (column.rendering fill relationName).ValidColumn where
  name := keeps.fits "name" (by decide) rfl
  dataType := keeps.fits "data_type" (by decide) rfl
  sourceField := keeps.fitsOrNull "source_field" (by decide) rfl

/-- Only the expression of a column may hold anything. -/
theorem ColumnDescription.cleanOutside_rendering {column : ColumnDescription}
    {relationName : Option String} (valid : (column.rendering fill relationName).ValidColumn)
    (relationFits : (Json.ofText? relationName).Fits .fourPartName) :
    (column.rendering fill relationName).CleanOutside ["expression"] := by
  apply Json.cleanOutside_object
  simp only [List.forall_mem_cons]
  refine ⟨valid.name.clean (by decide), valid.dataType.clean (by decide),
    Json.cleanOutside_nil_ofText? _, valid.sourceField.clean (by decide),
    Json.clean_flagJson _, Json.clean_flagJson _, relationFits.clean (by decide), ?_⟩
  exact fun member absent => nomatch absent

section Relations

variable {description : Description} {relation : RelationDescription} {environment : String}

private theorem RelationDescription.validRelation_rendering
    (environmentSet : fill description.environment = some environment)
    (plain : '.' ∉ environment.toList)
    (keeps : Keeps (Element.relation (relation.settled fill description)) Relation.rules)
    (columnsKeep : ∀ column ∈ relation.columns,
      Keeps (Element.column (column.settled fill)) Column.rules) :
    (relation.rendering fill description).ValidRelation environment where
  relationName := keeps.fits "relation_name" (by decide) rfl
  fullRelationName := keeps.fits "full_relation_name" (by decide) rfl
  region := keeps.fits "region" (by decide) rfl
  storageFormat := keeps.fits "storage_format" (by decide) rfl
  serviceRole := keeps.fitsOrNull "service_role" (by decide) rfl
  scriptBucket := keeps.fitsOrNull "script_bucket" (by decide) rfl
  sourceRelationPrefix := keeps.fitsOrNull "source_relation_prefix" (by decide) rfl
  etlJobName := keeps.fitsOrNull "etl_job_name" (by decide) rfl
  split := by
    obtain ⟨name, nameSet, -⟩ : ∃ name, fill relation.relationName = some name ∧ _ :=
      keeps.exists_accepted "relation_name" (List.mem_cons_self ..) rfl
    obtain ⟨front, back⟩ := split_fullName plain name
    refine ⟨environment ++ "." ++ name, name, ?_, ?_, front, back⟩
    · change Json.ofText? (fullName (fill description.environment) (fill relation.relationName)) = _
      rw [environmentSet, nameSet]
      rfl
    · change Json.ofText? (fill relation.relationName) = _
      rw [nameSet]
      rfl
  columns := by
    refine ⟨_, rfl, ?_⟩
    intro column member
    obtain ⟨described, listed, rfl⟩ := List.mem_map.mp member
    exact described.validColumn_rendering (columnsKeep described listed) _

private theorem RelationDescription.cleanOutside_rendering
    (valid : (relation.rendering fill description).ValidRelation environment) :
    (relation.rendering fill description).CleanOutside ["attributes", "expression"] := by
  obtain ⟨columns, same, columnsValid⟩ := valid.columns
  have columnsClean : (Json.array (relation.columns.map (ColumnDescription.rendering fill
      (fullName (fill description.environment) (fill relation.relationName))))).CleanOutside
        ["expression"] := by
    apply Json.cleanOutside_array
    intro column member
    obtain ⟨described, listed, rfl⟩ := List.mem_map.mp member
    refine described.cleanOutside_rendering (columnsValid _ ?_) valid.fullRelationName
    rwa [← Json.array.inj same]
  apply Json.cleanOutside_object
  simp only [List.forall_mem_cons]
  refine ⟨valid.relationName.clean (by decide), valid.fullRelationName.clean (by decide),
    valid.region.clean (by decide), valid.serviceRole.clean (by decide),
    valid.scriptBucket.clean (by decide), valid.storageFormat.clean (by decide),
    valid.sourceRelationPrefix.clean (by decide), valid.etlJobName.clean (by decide),
    Json.clean_flagJson _, columnsClean, ?_⟩
  exact fun member absent => nomatch absent

end Relations

namespace Description

variable {description : Description}

private theorem validDeployment_rendering
    (unbroken : ∀ element ∈ description.settledNodes fill, breach? element = none) :
    (description.rendering fill).ValidDeployment := by
  have keeps : Keeps (Element.deployment (description.settled fill)) Deployment.rules :=
    keeps_of_breach?_eq_none (unbroken _ (List.mem_cons_self ..))
  refine
    { environment := keeps.fits "environment" (by decide) rfl
      region := keeps.fits "region" (by decide) rfl
      serviceRole := keeps.fitsOrNull "service_role" (by decide) rfl
      scriptBucket := keeps.fitsOrNull "script_bucket" (by decide) rfl
      storageFormat := keeps.fitsOrNull "storage_format" (by decide) rfl
      relations := ?_ }
  obtain ⟨environment, environmentSet, accepted⟩ : ∃ environment,
      fill description.environment = some environment ∧
        Pattern.sqlIdentifier.accepts environment = true :=
    keeps.exists_accepted "environment" (by decide) rfl
  have plain := Pattern.dot_notMem_of_sqlIdentifier accepted
  refine ⟨environment, _, congrArg Json.ofText? environmentSet, rfl, ?_⟩
  intro output member
  obtain ⟨relation, listed, rfl⟩ := List.mem_map.mp member
  apply relation.validRelation_rendering environmentSet plain
  · exact keeps_of_breach?_eq_none (unbroken _ (settled_mem_settledNodes _ listed))
  · intro column inside
    exact keeps_of_breach?_eq_none (unbroken _ (column_mem_settledNodes _ listed inside))

private theorem cleanOutside_rendering (valid : (description.rendering fill).ValidDeployment) :
    (description.rendering fill).CleanOutside ["relations", "attributes", "expression"] := by
  obtain ⟨environment, relations, -, same, relationsValid⟩ := valid.relations
  have relationsClean : (Json.array (description.relations.map
      (RelationDescription.rendering fill description))).CleanOutside
        ["attributes", "expression"] := by
    apply Json.cleanOutside_array
    intro output member
    obtain ⟨relation, listed, rfl⟩ := List.mem_map.mp member
    refine relation.cleanOutside_rendering (relationsValid _ ?_)
    rwa [← Json.array.inj same]
  apply Json.cleanOutside_object
  simp only [List.forall_mem_cons]
  refine ⟨valid.environment.clean (by decide), valid.region.clean (by decide),
    valid.serviceRole.clean (by decide), valid.scriptBucket.clean (by decide),
    valid.storageFormat.clean (by decide), relationsClean, ?_⟩
  exact fun member absent => nomatch absent

/-- **Valid outputs.** Whatever a document says and whatever the variables are bound to, the output
is valid, and the character that opens a placeholder is in no string but the expressions of columns.
-/
theorem validDeployment_of_generateFrom {text : String} {interpolator : Interpolator}
    {output : Json} (ok : (generateFrom text interpolator).outcome = .ok output) :
    output.ValidDeployment ∧ output.CleanOutside ["relations", "attributes", "expression"] := by
  obtain ⟨description, -, generated⟩ := Run.outcome_bind_eq_ok_iff.mp ok
  obtain ⟨-, unbroken, rfl⟩ := of_generate_eq_ok generated
  have valid := validDeployment_rendering unbroken
  exact ⟨valid, cleanOutside_rendering valid⟩

/-- Every variable is bound to a placeholder. -/
def nesting : Interpolator := ⟨.standard, fun _ => some "$\x7benv.CONVERGDB_B\x7d"⟩

/-- A document with a column that is computed from a variable. -/
def computedDocument : String :=
  "\x7b\"environment\":\"prod\",\"region\":\"us-west-2\",\"storage_format\":\"json\"," ++
    "\"relations\":[\x7b\"relation_name\":\"sales.orders.raw\",\"attributes\":[" ++
      "\x7b\"name\":\"id\",\"data_type\":\"int\"," ++
        "\"expression\":\"$\x7benv.CONVERGDB_A\x7d\"\x7d]\x7d]\x7d"

/-- What `computedDocument` says. -/
def computedDescription : Description :=
  { Description.unset with
    environment := some "prod"
    region := some "us-west-2"
    storageFormat := some "json"
    relations :=
      [{ RelationDescription.unset with
          relationName := some "sales.orders.raw"
          columns :=
            [{ ColumnDescription.unset with
                name := some "id"
                dataType := some "int"
                expression := some "$\x7benv.CONVERGDB_A\x7d" }] }] }

/-- A placeholder that a variable is bound to may stay in an expression. -/
theorem validDeployment_of_computedDocument :
    (generateFrom computedDocument nesting).outcome =
        .ok (computedDescription.rendering nesting.filled) ∧
      (computedDescription.rendering nesting.filled).ValidDeployment ∧
      (computedDescription.rendering nesting.filled).CleanOutside
        ["relations", "attributes", "expression"] := by
  have generates : (generateFrom computedDocument nesting).outcome =
      .ok (computedDescription.rendering nesting.filled) := by
    have parsed : (Run.ofExcept (parse computedDocument)).outcome = .ok computedDescription := by
      decide +kernel
    obtain ⟨tree, built⟩ : ∃ tree, computedDescription.build.outcome = .ok tree :=
      exists_build (by decide)
    rw [generateFrom]
    refine (Run.outcome_bind_of_ok parsed _).trans ?_
    rw [generate_of_build built]
    decide +kernel
  exact ⟨generates, validDeployment_of_generateFrom generates⟩

end Description

end DeployTree
