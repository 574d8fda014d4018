import DeployTree.Schema
import DeployTree.Tree.Node
import DeployTree.Value.Encoding

/-! # Columns

A column stands under a relation. Its output names the relation by its full name.
-/

namespace DeployTree

/-- A column of a relation. The source field is the table and the column that its value is taken
from; the flags say whether a value is required and whether the relation is partitioned by the
column. -/
structure Column where
  name : Option String
  dataType : Option String
  expression : Option String
  sourceField : Option String
  required : Option Value
  partition : Option Value
deriving DecidableEq

namespace Column

/-- The column with nothing set. -/
def unset : Column := ⟨none, none, none, none, none, none⟩

/-- The name of the kind. -/
def kindName : String := "attribute"

/-- The attributes in the order in which they are listed. -/
def attributes : List (Attribute Column) :=
  [ .text "name" name fun text node => { node with name := text },
    .text "data_type" dataType fun text node => { node with dataType := text },
    .text "expression" expression fun text node => { node with expression := text },
    .text "source_field" sourceField fun text node => { node with sourceField := text },
    .any "required" required fun value node => { node with required := value },
    .any "partition" partition fun value node => { node with partition := value } ]

/-- The value of an attribute. -/
def read (column : Column) (name : String) : Except Error (Option Value) :=
  match name with
  | "name" => .ok (column.name.map .text)
  | "data_type" => .ok (column.dataType.map .text)
  | "expression" => .ok (column.expression.map .text)
  | "source_field" => .ok (column.sourceField.map .text)
  | "required" => .ok column.required
  | "partition" => .ok column.partition
  | _ => .error (.unknownAttribute kindName name)

/-- Writes an attribute in place. -/
def assign (name : String) (setting : Option Value) : ExceptT Error (StateM Column) Unit :=
  match name with
  | "name" => assignText kindName name setting fun text node => { node with name := text }
  | "data_type" => assignText kindName name setting fun text node => { node with dataType := text }
  | "expression" =>
      assignText kindName name setting fun text node => { node with expression := text }
  | "source_field" =>
      assignText kindName name setting fun text node => { node with sourceField := text }
  | "required" => modify fun node => { node with required := setting }
  | "partition" => modify fun node => { node with partition := setting }
  | _ => throw (.unknownAttribute kindName name)

/-- The rules in the order in which they are checked. -/
def rules : List Rule :=
  [ .mandatory "name" .sqlIdentifier,
    .mandatory "data_type" .dataType,
    .optional "source_field" .twoPartNameOrEmpty,
    .flag "required",
    .flag "partition" ]

/-- The attributes that may hold placeholders. -/
def interpolatedNames : List String := ["expression"]

instance : Attributed Column where
  kind _ := kindName
  read := read
  assign := assign
  rules _ := rules

variable {ν : Type} [Attributed ν]

/-- Fills the placeholders. -/
def resolve (scope : ResolveScope ν) (column : Column) : Run Column :=
  scope.interpolated interpolatedNames column

/-- The full name that the parent has, unset at a root. -/
def relationName (scope : OutputScope ν) : Except Error (Option Value) :=
  match scope.parent with
  | none => .ok none
  | some parent => scope.view.setting parent "full_relation_name"

/-- The settings and the full name of the relation. -/
def output (scope : OutputScope ν) (column : Column) : Except Error Json := do
  let relation ← relationName scope
  .ok <| .object
    [ ("name", .ofText? column.name),
      ("data_type", .ofText? column.dataType),
      ("expression", .ofText? column.expression),
      ("source_field", .ofText? column.sourceField),
      ("required", Value.flagJson column.required),
      ("partition", Value.flagJson column.partition),
      ("relation", Value.settingJson relation) ]

end Column

end DeployTree
