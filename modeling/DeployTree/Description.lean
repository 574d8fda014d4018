import DeployTree.Schema.Element
import DeployTree.Tree

/-! # Descriptions of deployments

A description is what a deployment document says: the settings of the deployment,
its relations and their columns, all in document order. A tree is built from it in
the same order; what the document leaves unset is unset in the nodes, and the full
names of relations are not yet derived.
-/

namespace DeployTree

/-- What a document says about a column. -/
structure ColumnDescription where
  name : Option String
  dataType : Option String
  expression : Option String
  sourceField : Option String
  required : Option Value
  partition : Option Value
deriving DecidableEq

/-- What a document says about a relation, with its columns in order. -/
structure RelationDescription where
  relationName : Option String
  region : Option String
  serviceRole : Option String
  scriptBucket : Option String
  storageFormat : Option String
  sourceRelationPrefix : Option String
  etlJobName : Option String
  useInventory : Option Value
  columns : List ColumnDescription
deriving DecidableEq

/-- What a document says about a deployment, with its relations in order. -/
structure Description where
  environment : Option String
  region : Option String
  serviceRole : Option String
  scriptBucket : Option String
  storageFormat : Option String
  relations : List RelationDescription
deriving DecidableEq

/-- The column with nothing set. -/
def ColumnDescription.unset : ColumnDescription := ⟨none, none, none, none, none, none⟩

/-- The relation with nothing set. -/
def RelationDescription.unset : RelationDescription :=
  ⟨none, none, none, none, none, none, none, none, []⟩

/-- The deployment with nothing set. -/
def Description.unset : Description := ⟨none, none, none, none, none, []⟩

/-- The node of a described column. -/
def ColumnDescription.node (column : ColumnDescription) : Column where
  name := column.name
  dataType := column.dataType
  expression := column.expression
  sourceField := column.sourceField
  required := column.required
  partition := column.partition

/-- The node of a described relation. -/
def RelationDescription.node (relation : RelationDescription) : Relation where
  relationName := relation.relationName
  fullRelationName := none
  region := relation.region
  serviceRole := relation.serviceRole
  scriptBucket := relation.scriptBucket
  storageFormat := relation.storageFormat
  sourceRelationPrefix := relation.sourceRelationPrefix
  etlJobName := relation.etlJobName
  useInventory := relation.useInventory

namespace Description

/-- The node of the described deployment. -/
def node (description : Description) : Deployment where
  environment := description.environment
  region := description.region
  serviceRole := description.serviceRole
  scriptBucket := description.scriptBucket
  storageFormat := description.storageFormat

/-- A tree of elements that is being built. -/
abbrev Draft := Tree Element .constructed

/-- Adds columns under a relation in order. -/
def addColumns (parent : NodeId) : List ColumnDescription → Draft → Except Error Draft
  | [], tree => .ok tree
  | column :: rest, tree => do
      let (next, _) ← tree.add parent (.column column.node)
      addColumns parent rest next

/-- Adds relations under the root in order, each with its columns. -/
def addRelations : List RelationDescription → Draft → Except Error Draft
  | [], tree => .ok tree
  | relation :: rest, tree => do
      let (next, id) ← tree.add NodeId.root (.relation relation.node)
      let filled ← addColumns id relation.columns next
      addRelations rest filled

/-- The tree of a description. -/
def build (description : Description) : Run Draft := do
  let tree ← Run.ofExcept
    (addRelations description.relations (Tree.ofRoot (.deployment description.node)))
  Run.emit (.treeBuilt description.relations.length tree.size)
  pure tree

/-- The output for a description. -/
def generate (description : Description) (interpolator : Interpolator) : Run Json := do
  let tree ← description.build
  tree.generate interpolator

/-- The texts of a description that may hold placeholders. -/
def interpolatedTexts (description : Description) : List String :=
  let settings := [description.environment, description.region, description.serviceRole,
    description.scriptBucket, description.storageFormat]
  let inRelations := description.relations.flatMap fun relation =>
    [relation.relationName, relation.sourceRelationPrefix, relation.etlJobName, relation.region,
      relation.serviceRole, relation.scriptBucket, relation.storageFormat] ++
      relation.columns.map ColumnDescription.expression
  (settings ++ inRelations).filterMap id

/-- The names of the variables that a description mentions in its interpolated texts. -/
def variableNames (description : Description) : List String :=
  description.interpolatedTexts.flatMap fun text =>
    (Placeholder.inText text).map Placeholder.variableName

end Description

end DeployTree
