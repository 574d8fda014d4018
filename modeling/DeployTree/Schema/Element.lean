import DeployTree.Instrument.Probe
import DeployTree.Schema.Column
import DeployTree.Schema.Deployment
import DeployTree.Schema.Relation

/-! # The nodes of deployment trees

A deployment tree holds a deployment, relations and columns; probes may stand in any
place. An element is one of these, and takes part in a pass as what it is.
-/

namespace DeployTree

/-- A node of a deployment tree. -/
inductive Element where
  | deployment (node : Deployment)
  | relation (node : Relation)
  | column (node : Column)
  | probe (node : Probe)

namespace Element

/-- The name of the kind. -/
def kind : Element → String
  | deployment node => Attributed.kind node
  | relation node => Attributed.kind node
  | column node => Attributed.kind node
  | probe node => Attributed.kind node

/-- The value of an attribute. -/
def read : Element → String → Except Error (Option Value)
  | deployment node => Attributed.read node
  | relation node => Attributed.read node
  | column node => Attributed.read node
  | probe node => Attributed.read node

/-- Writes an attribute in place, in the node that the element is. -/
def assign (name : String) (setting : Option Value) : ExceptT Error (StateM Element) Unit := fun
  | deployment node => (Attributed.attempt node name setting).map id deployment
  | relation node => (Attributed.attempt node name setting).map id relation
  | column node => (Attributed.attempt node name setting).map id column
  | probe node => (Attributed.attempt node name setting).map id probe

/-- The rules. -/
def rules : Element → List Rule
  | deployment node => Attributed.rules node
  | relation node => Attributed.rules node
  | column node => Attributed.rules node
  | probe node => Attributed.rules node

/-- Whether the element falls back to its parent for an attribute. -/
def inherits : Element → String → Bool
  | deployment node => Attributed.inherits node
  | relation node => Attributed.inherits node
  | column node => Attributed.inherits node
  | probe node => Attributed.inherits node

instance : Attributed Element where
  kind := kind
  read := read
  assign := assign
  rules := rules
  inherits := inherits

variable {ν : Type} [Attributed ν]

/-- Resolves the element as what it is. -/
def resolve (scope : ResolveScope ν) : Element → Run Element
  | deployment node => deployment <$> node.resolve scope
  | relation node => relation <$> node.resolve scope
  | column node => column <$> node.resolve scope
  | probe node => probe <$> node.resolve scope

/-- Validates the element as what it is. -/
def validate : Element → Run Unit
  | probe node => node.validate
  | element => checkRules element element.rules

/-- The output of the element as what it is. -/
def output (scope : OutputScope ν) (children : List ChildOutput) : Element → Except Error Json
  | deployment node => .ok (node.output children)
  | relation node => .ok (node.output children)
  | column node => node.output scope
  | probe node => .ok (node.output children)

instance : Node Element where
  resolve := resolve
  validate := validate
  output scope children element := Run.ofExcept (element.output scope children)

end Element

end DeployTree
