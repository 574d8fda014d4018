import DeployTree.Proofs.Description.Layout
import DeployTree.Proofs.Environment.Filling
import DeployTree.Proofs.Schema.Manner
import DeployTree.Proofs.Schema.Table

/-! # What the nodes of a description become

Resolving fills the placeholders of a deployment; a relation then takes from it the settings that it
does not give itself, and derives its full name and the name of its job. Written down field by field
this needs neither a tree nor an order of work (`DeployTree.Description.settled`,
`DeployTree.RelationDescription.settled`, `DeployTree.ColumnDescription.settled`). The resolve pass
arrives at exactly these nodes, unless a placeholder stands in its way
(`DeployTree.Description.fills_builtForest`).
-/

namespace DeployTree

/-- A setting of a relation: its own, unless that is unset or empty; then that of the deployment. -/
def ownOr (above : Option String) : Option String → Option String
  | none => above
  | some own => if own = "" then above else some own

/-- The full name of a relation: the environment and the relation's name, when both are set. -/
def fullName : Option String → Option String → Option String
  | some environment, some name => some (environment ++ "." ++ name)
  | _, _ => none

section Settled

variable (fill : Option String → Option String)

/-- The deployment with its placeholders filled. -/
def Description.settled (description : Description) : Deployment where
  environment := fill description.environment
  region := fill description.region
  serviceRole := fill description.serviceRole
  scriptBucket := fill description.scriptBucket
  storageFormat := fill description.storageFormat

/-- A relation with its placeholders filled, its settings chosen and its names derived. -/
def RelationDescription.settled (description : Description) (relation : RelationDescription) :
    Relation where
  relationName := fill relation.relationName
  fullRelationName := fullName (fill description.environment) (fill relation.relationName)
  region := ownOr (fill description.region) (fill relation.region)
  serviceRole := ownOr (fill description.serviceRole) (fill relation.serviceRole)
  scriptBucket := ownOr (fill description.scriptBucket) (fill relation.scriptBucket)
  storageFormat := ownOr (fill description.storageFormat) (fill relation.storageFormat)
  sourceRelationPrefix := fill relation.sourceRelationPrefix
  etlJobName :=
    ownOr ((fullName (fill description.environment) (fill relation.relationName)).map
      Relation.jobName) (fill relation.etlJobName)
  useInventory := relation.useInventory

/-- A column with its placeholders filled. -/
def ColumnDescription.settled (column : ColumnDescription) : Column where
  name := column.name
  dataType := column.dataType
  expression := fill column.expression
  sourceField := column.sourceField
  required := column.required
  partition := column.partition

end Settled

open Interpolator (TextField)

/-- The attributes of a deployment that may hold placeholders. -/
def Deployment.textFields : List (TextField Deployment) :=
  [ .mk "environment" environment fun text node => { node with environment := text },
    .mk "region" region fun text node => { node with region := text },
    .mk "service_role" serviceRole fun text node => { node with serviceRole := text },
    .mk "script_bucket" scriptBucket fun text node => { node with scriptBucket := text },
    .mk "storage_format" storageFormat fun text node => { node with storageFormat := text } ]

/-- The attributes of a relation that may hold placeholders. -/
def Relation.textFields : List (TextField Relation) :=
  [ .mk "relation_name" relationName fun text node => { node with relationName := text },
    .mk "source_relation_prefix" sourceRelationPrefix
      fun text node => { node with sourceRelationPrefix := text },
    .mk "etl_job_name" etlJobName fun text node => { node with etlJobName := text },
    .mk "region" region fun text node => { node with region := text },
    .mk "service_role" serviceRole fun text node => { node with serviceRole := text },
    .mk "script_bucket" scriptBucket fun text node => { node with scriptBucket := text },
    .mk "storage_format" storageFormat fun text node => { node with storageFormat := text } ]

/-- The attribute of a column that may hold placeholders. -/
def Column.textFields : List (TextField Column) :=
  [.mk "expression" expression fun text node => { node with expression := text }]

/-- The texts of a relation and its columns that may hold placeholders. -/
def RelationDescription.interpolatedTexts (relation : RelationDescription) : List String :=
  [relation.relationName, relation.sourceRelationPrefix, relation.etlJobName, relation.region,
    relation.serviceRole, relation.scriptBucket, relation.storageFormat].filterMap id ++
    relation.columns.filterMap ColumnDescription.expression

variable {interpolator : Interpolator} {description : Description} {outlook : Outlook}

/-- The given settings of a list are that of its head, if given, and those of its tail. -/
theorem filterMap_id_cons {α : Type} (setting : Option α) (rest : List (Option α)) :
    (setting :: rest).filterMap id = setting.toList ++ rest.filterMap id := by
  cases setting <;> rfl

/-- Resolving the deployment fills its texts. -/
theorem Description.fills_node (description : Description) (outlook : Outlook) :
    Run.Fills interpolator
      ((Element.manner interpolator).resolve outlook (.deployment description.node))
      ([description.environment, description.region, description.serviceRole,
        description.scriptBucket, description.storageFormat].filterMap id)
      (.deployment (description.settled interpolator.filled)) := by
  have fills := (interpolator.fills_interpolated Deployment.textFields description.node).map
    Element.deployment
  simp only [filterMap_id_cons]
  exact fills

/-- Resolving a column fills its text. -/
theorem ColumnDescription.fills_node (column : ColumnDescription) (outlook : Outlook) :
    Run.Fills interpolator
      ((Element.manner interpolator).resolve outlook (.column column.node))
      column.expression.toList (.column (column.settled interpolator.filled)) := by
  have fills := (interpolator.fills_interpolated Column.textFields column.node).map Element.column
  rw [← List.append_nil column.expression.toList]
  exact fills

/-- A node that inherits nothing passes its own values on. -/
theorem Outlook.setting_beneath {ν : Type} [Attributed ν] {node : ν} {name : String}
    (own : Attributed.inherits node name = false) :
    (outlook.beneath node).setting name = Attributed.read node name :=
  outlook.settingOf_eq_read own

namespace Relation

/-- A relation with the settings of a deployment where it has none of its own. -/
def withSettings (deployment : Deployment) (relation : Relation) : Relation :=
  { relation with
    region := ownOr deployment.region relation.region
    serviceRole := ownOr deployment.serviceRole relation.serviceRole
    scriptBucket := ownOr deployment.scriptBucket relation.scriptBucket
    storageFormat := ownOr deployment.storageFormat relation.storageFormat }

variable {ν : Type} [Attributed ν] {scope : ResolveScope ν} {deployment : Deployment}

/-- The setting in force is written where the relation has none of its own. -/
theorem inherit_cons {name : String} {names : List String} {relation written : Relation}
    {own above : Option String} (under : (scope.view.outlook scope.parent).isSome = true)
    (reads : Attributed.read relation name = .ok (own.map .text))
    (given : (scope.view.outlook scope.parent).setting name = .ok (above.map .text))
    (writes : Attributed.write relation name ((ownOr above own).map .text) = .ok written) :
    inherit scope (name :: names) relation = inherit scope names written := by
  have setting : scope.ownOrInherited relation name = .ok ((ownOr above own).map .text) := by
    obtain ⟨settings, found⟩ := Option.isSome_iff_exists.mp under
    rw [found] at given
    rw [ResolveScope.ownOrInherited_eq, found, Outlook.ownOrInherited, reads]
    cases own with
    | none => exact given
    | some content =>
        by_cases blank : content = ""
        · simpa [ownOr, blank, Value.isGiven, Outlook.setting] using given
        · simp [ownOr, blank, Value.isGiven]
  rw [inherit, setting]
  change (Attributed.write relation name ((ownOr above own).map .text) >>= inherit scope names) = _
  rw [writes]
  rfl

private theorem write_text {name : String} {get : Relation → Option String}
    {set : Option String → Relation → Relation}
    (found : Attribute.find? attributes name = some (.text name get set)) (relation : Relation)
    (setting : Option String) :
    Attributed.write relation name (setting.map .text) = .ok (set setting relation) := by
  rw [followsTable.write_eq, Attribute.write, found]
  cases setting <;> rfl

/-- The derived names come from the environment and the relation's own names. -/
theorem derive_eq (environment : Option String) (relation : Relation) :
    derive (environment.map .text) relation =
      { relation with
        fullRelationName := fullName environment relation.relationName
        etlJobName :=
          ownOr ((fullName environment relation.relationName).map jobName)
            relation.etlJobName } := by
  have name : joinName (environment.map .text) relation.relationName =
      fullName environment relation.relationName := by
    cases environment <;> cases relation.relationName <;> rfl
  have job (above : Option String) :
      (if Value.isGiven (relation.etlJobName.map .text) then relation.etlJobName else above) =
        ownOr above relation.etlJobName := by
    cases relation.etlJobName with
    | none => rfl
    | some own =>
        by_cases blank : own = ""
        · simp [ownOr, blank, Value.isGiven]
        · simp [ownOr, blank, Value.isGiven]
  rw [derive, name, job]

/-- A relation reads the settings of the deployment above it. -/
theorem setting_of_deployment {name : String} {setting : Option String}
    (above : scope.view.outlook scope.parent = outlook.beneath (Element.deployment deployment))
    (reads : Attributed.read deployment name = .ok (setting.map .text)) :
    (scope.view.outlook scope.parent).setting name = .ok (setting.map .text) := by
  rw [above, Outlook.setting_beneath rfl]
  exact reads

/-- Beneath a deployment a relation inherits the settings of the deployment. -/
theorem inherit_of_deployment
    (above : scope.view.outlook scope.parent = outlook.beneath (Element.deployment deployment))
    (relation : Relation) :
    inherit scope inheritedNames relation = .ok (relation.withSettings deployment) := by
  have under : (scope.view.outlook scope.parent).isSome = true := by
    rw [above]
    rfl
  have given {name : String} {setting : Option String}
      (reads : Attributed.read deployment name = .ok (setting.map .text)) :=
    setting_of_deployment above reads
  rw [inheritedNames, inherit_cons under rfl (given rfl) (write_text rfl _ _),
    inherit_cons under rfl (given rfl) (write_text rfl _ _),
    inherit_cons under rfl (given rfl) (write_text rfl _ _),
    inherit_cons under rfl (given rfl) (write_text rfl _ _)]
  rfl

/-- Under a deployment a relation fills its texts, takes its settings and derives its names. -/
theorem fills_resolve
    (above : scope.view.outlook scope.parent = outlook.beneath (Element.deployment deployment))
    (relation : Relation) :
    Run.Fills scope.interpolator (relation.resolve scope)
      (scope.interpolator.fieldTexts textFields relation)
      (derive (deployment.environment.map .text)
        ((scope.interpolator.filledNode textFields relation).withSettings deployment)) := by
  have environment : scope.parentSetting "environment" =
      .ok (deployment.environment.map .text) := by
    rw [ResolveScope.parentSetting_eq]
    exact setting_of_deployment above rfl
  refine (scope.interpolator.fills_interpolated textFields relation).bind_pure ?_
  rw [inherit_of_deployment above, environment]
  rfl

end Relation

/-- Resolving a relation under the settled deployment fills its texts and settles it. -/
theorem RelationDescription.fills_node (description : Description)
    (relation : RelationDescription) (outlook : Outlook) :
    Run.Fills interpolator
      ((Element.manner interpolator).resolve
        (outlook.beneath (Element.deployment (description.settled interpolator.filled)))
        (.relation relation.node))
      ([relation.relationName, relation.sourceRelationPrefix, relation.etlJobName,
        relation.region, relation.serviceRole, relation.scriptBucket,
        relation.storageFormat].filterMap id)
      (.relation (relation.settled interpolator.filled description)) := by
  let scope := (outlook.beneath
    (Element.deployment (description.settled interpolator.filled))).resolveScope interpolator
  have above : scope.view.outlook scope.parent = outlook.beneath
      (Element.deployment (description.settled interpolator.filled)) :=
    Outlook.outlook_view _
  have fills := (Relation.fills_resolve above relation.node).map Element.relation
  rw [Relation.derive_eq] at fills
  simp only [filterMap_id_cons]
  exact fills

namespace Description

/-- The relations of a description in their positions, as they are once they have been resolved. -/
def settledForest (fill : Option String → Option String) (description : Description) (start : Nat)
    (relations : List RelationDescription) : Forest Element :=
  relationForest (RelationDescription.settled fill description) (ColumnDescription.settled fill)
    start relations

/-- Resolving columns settles them one after another. -/
theorem fills_columnForest (outlook : Outlook) (start : Nat) (columns : List ColumnDescription) :
    Run.Fills interpolator
      ((columnForest ColumnDescription.node start columns).resolved
        (Element.manner interpolator) outlook)
      (columns.filterMap ColumnDescription.expression)
      (columnForest (ColumnDescription.settled interpolator.filled) start columns) := by
  induction columns generalizing start with
  | nil => rfl
  | cons column rest ih =>
      have texts : (column :: rest).filterMap ColumnDescription.expression =
          column.expression.toList ++ rest.filterMap ColumnDescription.expression := by
        cases same : column.expression <;> simp [same]
      rw [texts]
      refine Run.Fills.emit_bind (.bind (column.fills_node outlook) ?_)
      rw [Forest.resolved, pure_bind]
      exact (ih (start + 1)).bind_pure (.pure _)

/-- Resolving relations under the settled deployment settles them one after another, each before its
columns. -/
theorem fills_builtForest (outlook : Outlook) (start : Nat)
    (relations : List RelationDescription) :
    Run.Fills interpolator
      ((builtForest start relations).resolved (Element.manner interpolator)
        (outlook.beneath (Element.deployment (description.settled interpolator.filled))))
      (relations.flatMap RelationDescription.interpolatedTexts)
      (settledForest interpolator.filled description start relations) := by
  induction relations generalizing start with
  | nil => rfl
  | cons relation rest ih =>
      rw [List.flatMap_cons, RelationDescription.interpolatedTexts, List.append_assoc]
      refine Run.Fills.emit_bind (.bind (relation.fills_node description outlook) ?_)
      refine .bind (fills_columnForest _ (start + 1) relation.columns) ?_
      exact (ih (start + relation.nodeCount)).bind_pure (.pure _)

/-- The texts of a description are those of the deployment, then those of its relations. -/
theorem interpolatedTexts_eq (description : Description) :
    description.interpolatedTexts =
      [description.environment, description.region, description.serviceRole,
        description.scriptBucket, description.storageFormat].filterMap id ++
        description.relations.flatMap RelationDescription.interpolatedTexts := by
  rw [interpolatedTexts, List.filterMap_append, List.filterMap_flatMap]
  simp only [List.filterMap_append, List.filterMap_map]
  rfl

/-- All nodes of a description in their positions, as they are once they have been resolved. -/
def settledWhole (fill : Option String → Option String) (description : Description) :
    Forest Element :=
  .branch .root (.deployment (description.settled fill))
    (settledForest fill description 1 description.relations) .empty

/-- The tree of a description with its nodes settled. -/
def settledTree (fill : Option String → Option String) (description : Description)
    (tree : Draft) : Tree Element .resolved :=
  ⟨(description.settledWhole fill).rewrite tree.arena⟩

variable {tree : Draft}

/-- The settled nodes in their positions are the whole settled tree. -/
theorem spans_settledTree (built : description.build.outcome = .ok tree)
    (fill : Option String → Option String) :
    (description.settledWhole fill).Spans (description.settledTree fill tree).arena := by
  apply (spans_of_build built).rewrite
  rw [settledWhole, settledForest, Forest.outline, Forest.outline,
    outline_relationForest _ _ RelationDescription.node ColumnDescription.node]
  rfl

/-- **The resolve pass.** Resolving the tree of a description settles its nodes, unless a
placeholder cannot be replaced. -/
theorem resolve_of_build (built : description.build.outcome = .ok tree)
    (interpolator : Interpolator) :
    (tree.resolve interpolator).outcome =
      unlessFound (interpolator.firstObstacle? description.interpolatedTexts)
        (.ok (description.settledTree interpolator.filled tree)) := by
  have fills : Run.Fills interpolator
      (Forest.resolved (Element.manner interpolator) none
        (.branch .root (.deployment description.node) (builtForest 1 description.relations)
          .empty))
      description.interpolatedTexts (description.settledWhole interpolator.filled) := by
    rw [interpolatedTexts_eq]
    refine Run.Fills.emit_bind (.bind (description.fills_node none) ?_)
    exact (fills_builtForest none 1 description.relations).bind_pure (.pure _)
  rw [(spans_of_build built).resolve (Element.manner interpolator), fills.outcome_bind]
  rfl

/-- The tree that resolving gives is the settled one. -/
theorem eq_settledTree_of_resolve {resolved : Tree Element .resolved}
    (built : description.build.outcome = .ok tree)
    (resolves : (tree.resolve interpolator).outcome = .ok resolved) :
    resolved = description.settledTree interpolator.filled tree := by
  rw [resolve_of_build built] at resolves
  obtain ⟨-, settled⟩ := unlessFound_eq_ok_iff.mp resolves
  exact (Except.ok.inj settled).symm

end Description

end DeployTree
