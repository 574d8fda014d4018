import DeployTree.Description
import DeployTree.Json.Printer
import DeployTree.Json.ValueReader

/-! # Deployment documents

A document is a JSON object, or an array of the fields in order, for a deployment;
relations and columns are written the same way inside. Unknown and repeated fields
are refused. A field that is missing or `null` is unset; the lists of relations and
columns may be missing but not `null`. Encoding writes every field, so that a
document of an encoded description reads back as that description.
-/

namespace DeployTree

open Json (Reader)

/-- Reads an attribute value with lists nested at most `depth` deep. -/
def Value.reader (depth : Nat) : Reader Value := do
  match Value.ofJson? (← Reader.value depth) with
  | some value => pure value
  | none => Reader.failOpen .noAttributeValue

/-- Reads a text that is a value and nothing else. -/
def Value.parse (text : String) : Except Error Value :=
  match Reader.run (Value.reader Reader.maxDepth) text with
  | .ok value => .ok value
  | .error failure => .error (.invalidDescription (.stopped failure))

/-- Reads a text that is the position of a node and nothing else. -/
def NodeId.parse (text : String) : Except Error NodeId :=
  match Reader.run Reader.word32 text with
  | .error failure => .error (.invalidDescription (.stopped failure))
  | .ok index =>
      match NodeId.ofIndex? index with
      | some id => .ok id
      | none => .error (.invalidTree .full)

namespace Description

/-- A field that holds a text or is unset. -/
def textField {σ : Type} (name : String) (put : Option String → σ → σ) : Reader.Field σ where
  name := name
  read := put <$> Reader.optional Reader.string
  mayEnd := false

/-- A field that holds a value with lists nested at most `depth` deep, or is unset. -/
def valueField {σ : Type} (depth : Nat) (name : String) (put : Option Value → σ → σ) :
    Reader.Field σ where
  name := name
  read := put <$> Reader.optional (Value.reader depth)
  mayEnd := false

/-- A field that holds a list, the last field of its record. -/
def listField {σ α : Type} (name : String) (item : Reader α) (put : List α → σ → σ) :
    Reader.Field σ where
  name := name
  read := put <$> Reader.sequence item
  mayEnd := true

/-- The fields of a column. A value of a column stands inside five arrays or objects. -/
def columnFields : List (Reader.Field ColumnDescription) :=
  let depth := Reader.maxDepth - 5
  [ textField "name" fun text column => { column with name := text },
    textField "data_type" fun text column => { column with dataType := text },
    textField "expression" fun text column => { column with expression := text },
    textField "source_field" fun text column => { column with sourceField := text },
    valueField depth "required" fun value column => { column with required := value },
    valueField depth "partition" fun value column => { column with partition := value } ]

/-- Reads a column. -/
def column : Reader ColumnDescription :=
  Reader.record "struct AttributeDescription" columnFields .unset

/-- The fields of a relation. A value of a relation stands inside three arrays or objects. -/
def relationFields : List (Reader.Field RelationDescription) :=
  let depth := Reader.maxDepth - 3
  [ textField "relation_name" fun text relation => { relation with relationName := text },
    textField "region" fun text relation => { relation with region := text },
    textField "service_role" fun text relation => { relation with serviceRole := text },
    textField "script_bucket" fun text relation => { relation with scriptBucket := text },
    textField "storage_format" fun text relation => { relation with storageFormat := text },
    textField "source_relation_prefix"
      fun text relation => { relation with sourceRelationPrefix := text },
    textField "etl_job_name" fun text relation => { relation with etlJobName := text },
    valueField depth "use_inventory"
      fun value relation => { relation with useInventory := value },
    listField "attributes" column fun columns relation => { relation with columns := columns } ]

/-- Reads a relation. -/
def relation : Reader RelationDescription :=
  Reader.record "struct RelationDescription" relationFields .unset

/-- The fields of a deployment. -/
def fields : List (Reader.Field Description) :=
  [ textField "environment" fun text whole => { whole with environment := text },
    textField "region" fun text whole => { whole with region := text },
    textField "service_role" fun text whole => { whole with serviceRole := text },
    textField "script_bucket" fun text whole => { whole with scriptBucket := text },
    textField "storage_format" fun text whole => { whole with storageFormat := text },
    listField "relations" relation fun relations whole => { whole with relations := relations } ]

/-- Reads a deployment. -/
def reader : Reader Description :=
  Reader.record "struct DeploymentDescription" fields .unset

/-- The description that a document gives. -/
def parse (document : String) : Except Error Description :=
  match Reader.run reader document with
  | .ok description => .ok description
  | .error failure => .error (.invalidDescription (.stopped failure))

/-- The JSON form of a column. -/
def columnToJson (column : ColumnDescription) : Json :=
  .object
    [ ("name", .ofText? column.name),
      ("data_type", .ofText? column.dataType),
      ("expression", .ofText? column.expression),
      ("source_field", .ofText? column.sourceField),
      ("required", Value.settingJson column.required),
      ("partition", Value.settingJson column.partition) ]

/-- The JSON form of a relation. -/
def relationToJson (relation : RelationDescription) : Json :=
  .object
    [ ("relation_name", .ofText? relation.relationName),
      ("region", .ofText? relation.region),
      ("service_role", .ofText? relation.serviceRole),
      ("script_bucket", .ofText? relation.scriptBucket),
      ("storage_format", .ofText? relation.storageFormat),
      ("source_relation_prefix", .ofText? relation.sourceRelationPrefix),
      ("etl_job_name", .ofText? relation.etlJobName),
      ("use_inventory", Value.settingJson relation.useInventory),
      ("attributes", .array (relation.columns.map columnToJson)) ]

/-- The JSON form of a description, with every field. -/
def toJson (description : Description) : Json :=
  .object
    [ ("environment", .ofText? description.environment),
      ("region", .ofText? description.region),
      ("service_role", .ofText? description.serviceRole),
      ("script_bucket", .ofText? description.scriptBucket),
      ("storage_format", .ofText? description.storageFormat),
      ("relations", .array (description.relations.map relationToJson)) ]

/-- The document of a description. -/
def document (description : Description) : String := description.toJson.compact

/-- Reads a document and generates its output. -/
def generateFrom (text : String) (interpolator : Interpolator) : Run Json := do
  let description ← Run.ofExcept (parse text)
  description.generate interpolator

/-- Reads a document, builds its tree, resolves and validates it; the number of its nodes. -/
def check (text : String) (interpolator : Interpolator) : Run Nat := do
  let description ← Run.ofExcept (parse text)
  let tree ← description.build
  let nodes := tree.size
  let resolved ← tree.resolve interpolator
  let _ ← resolved.validate
  pure nodes

end Description

end DeployTree
