import DeployTree.Schema
import DeployTree.Tree.Node
import DeployTree.Value.Encoding

/-! # Relations

A relation stands under a deployment. Its region, service role, script bucket and
storage format are those of the deployment where it gives none. Its full name is
the environment of the deployment and its own name of three parts; the name of its
job is made from the full name where none is given.
-/

namespace DeployTree

/-- A relation of a deployment. Its own name has three parts, domain, schema and relation; the full
name has four, starts with the environment and is derived. The prefix is the dotted front of the
name of the relation that this one is made from. -/
structure Relation where
  relationName : Option String
  fullRelationName : Option String
  region : Option String
  serviceRole : Option String
  scriptBucket : Option String
  storageFormat : Option String
  sourceRelationPrefix : Option String
  etlJobName : Option String
  useInventory : Option Value
deriving DecidableEq

namespace Relation

/-- The relation with nothing set. -/
def unset : Relation := ⟨none, none, none, none, none, none, none, none, none⟩

/-- The name of the kind. -/
def kindName : String := "relation"

/-- The attributes in the order in which they are listed. -/
def attributes : List (Attribute Relation) :=
  [ .text "relation_name" relationName fun text node => { node with relationName := text },
    .text "full_relation_name" fullRelationName
      fun text node => { node with fullRelationName := text },
    .text "region" region fun text node => { node with region := text },
    .text "service_role" serviceRole fun text node => { node with serviceRole := text },
    .text "script_bucket" scriptBucket fun text node => { node with scriptBucket := text },
    .text "storage_format" storageFormat fun text node => { node with storageFormat := text },
    .text "source_relation_prefix" sourceRelationPrefix
      fun text node => { node with sourceRelationPrefix := text },
    .text "etl_job_name" etlJobName fun text node => { node with etlJobName := text },
    .any "use_inventory" useInventory fun value node => { node with useInventory := value } ]

/-- The value of an attribute. -/
def read (relation : Relation) (name : String) : Except Error (Option Value) :=
  match name with
  | "relation_name" => .ok (relation.relationName.map .text)
  | "full_relation_name" => .ok (relation.fullRelationName.map .text)
  | "region" => .ok (relation.region.map .text)
  | "service_role" => .ok (relation.serviceRole.map .text)
  | "script_bucket" => .ok (relation.scriptBucket.map .text)
  | "storage_format" => .ok (relation.storageFormat.map .text)
  | "source_relation_prefix" => .ok (relation.sourceRelationPrefix.map .text)
  | "etl_job_name" => .ok (relation.etlJobName.map .text)
  | "use_inventory" => .ok relation.useInventory
  | _ => .error (.unknownAttribute kindName name)

/-- Writes an attribute in place. -/
def assign (name : String) (setting : Option Value) : ExceptT Error (StateM Relation) Unit :=
  match name with
  | "relation_name" =>
      assignText kindName name setting fun text node => { node with relationName := text }
  | "full_relation_name" =>
      assignText kindName name setting fun text node => { node with fullRelationName := text }
  | "region" => assignText kindName name setting fun text node => { node with region := text }
  | "service_role" =>
      assignText kindName name setting fun text node => { node with serviceRole := text }
  | "script_bucket" =>
      assignText kindName name setting fun text node => { node with scriptBucket := text }
  | "storage_format" =>
      assignText kindName name setting fun text node => { node with storageFormat := text }
  | "source_relation_prefix" =>
      assignText kindName name setting fun text node => { node with sourceRelationPrefix := text }
  | "etl_job_name" =>
      assignText kindName name setting fun text node => { node with etlJobName := text }
  | "use_inventory" => modify fun node => { node with useInventory := setting }
  | _ => throw (.unknownAttribute kindName name)

/-- The rules in the order in which they are checked. -/
def rules : List Rule :=
  [ .mandatory "relation_name" .threePartName,
    .mandatory "full_relation_name" .fourPartName,
    .mandatory "region" .region,
    .mandatory "storage_format" .storageFormat,
    .optional "service_role" .roleName,
    .optional "script_bucket" .bucketName,
    .optional "source_relation_prefix" .dottedPrefix,
    .optional "etl_job_name" .sqlIdentifier,
    .flag "use_inventory" ]

/-- The attributes for which a relation falls back to its parent. -/
def inheritedNames : List String := ["region", "service_role", "script_bucket", "storage_format"]

/-- The attributes that may hold placeholders, in the order in which they are filled. -/
def interpolatedNames : List String :=
  ["relation_name", "source_relation_prefix", "etl_job_name", "region", "service_role",
    "script_bucket", "storage_format"]

instance : Attributed Relation where
  kind _ := kindName
  read := read
  assign := assign
  rules _ := rules
  inherits _ name := inheritedNames.contains name

variable {ν : Type} [Attributed ν]

/-- Writes the settings in force of some attributes: own values where given, else those of
the parent. -/
def inherit (scope : ResolveScope ν) : List String → Relation → Except Error Relation
  | [], relation => .ok relation
  | name :: rest, relation => do
      let setting ← scope.ownOrInherited relation name
      let written ← Attributed.write relation name setting
      inherit scope rest written

/-- The full name: the environment and the relation's own name, when both are set. -/
def joinName : Option Value → Option String → Option String
  | some (.text environment), some name => some (environment ++ "." ++ name)
  | _, _ => none

/-- The name of a job: the full name with low lines in place of the dots. -/
def jobName (fullName : String) : String :=
  String.ofList (fullName.toList.map fun c => if c = '.' then '_' else c)

/-- Derives the full name and, where none is given, the name of the job. -/
def derive (environment : Option Value) (relation : Relation) : Relation :=
  let fullName := joinName environment relation.relationName
  { relation with
    fullRelationName := fullName
    etlJobName :=
      if Value.isGiven (relation.etlJobName.map .text) then relation.etlJobName
      else fullName.map jobName }

/-- Fills the placeholders, then the inherited settings, then the derived names. -/
def resolve (scope : ResolveScope ν) (relation : Relation) : Run Relation := do
  let filled ← scope.interpolated interpolatedNames relation
  let settled ← Run.ofExcept (inherit scope inheritedNames filled)
  let environment ← Run.ofExcept (scope.parentSetting "environment")
  let named := derive environment settled
  Run.emit (.relationResolved named.fullRelationName)
  pure named

/-- The names and settings, then the columns in order. -/
def output (children : List ChildOutput) (relation : Relation) : Json :=
  .object
    [ ("relation_name", .ofText? relation.relationName),
      ("full_relation_name", .ofText? relation.fullRelationName),
      ("region", .ofText? relation.region),
      ("service_role", .ofText? relation.serviceRole),
      ("script_bucket", .ofText? relation.scriptBucket),
      ("storage_format", .ofText? relation.storageFormat),
      ("source_relation_prefix", .ofText? relation.sourceRelationPrefix),
      ("etl_job_name", .ofText? relation.etlJobName),
      ("use_inventory", Value.flagJson relation.useInventory),
      ("attributes", .array (children.map ChildOutput.output)) ]

end Relation

end DeployTree
