import DeployTree.Schema
import DeployTree.Tree.Node
import DeployTree.Value.Encoding

/-! # Deployments

A deployment is the root of a tree. It holds the settings that its relations use
unless they have settings of their own.
-/

namespace DeployTree

/-- The root of a deployment tree: an environment such as `prod`, a region, and what its relations
use unless they say otherwise. That is the role of the generated jobs, the bucket for generated
scripts and the storage format. -/
structure Deployment where
  environment : Option String
  region : Option String
  serviceRole : Option String
  scriptBucket : Option String
  storageFormat : Option String
deriving DecidableEq

namespace Deployment

/-- The deployment with nothing set. -/
def unset : Deployment := ⟨none, none, none, none, none⟩

/-- The name of the kind. -/
def kindName : String := "deployment"

/-- The attributes in the order in which they are listed. -/
def attributes : List (Attribute Deployment) :=
  [ .text "environment" environment fun text node => { node with environment := text },
    .text "region" region fun text node => { node with region := text },
    .text "service_role" serviceRole fun text node => { node with serviceRole := text },
    .text "script_bucket" scriptBucket fun text node => { node with scriptBucket := text },
    .text "storage_format" storageFormat fun text node => { node with storageFormat := text } ]

/-- The value of an attribute. -/
def read (deployment : Deployment) (name : String) : Except Error (Option Value) :=
  match name with
  | "environment" => .ok (deployment.environment.map .text)
  | "region" => .ok (deployment.region.map .text)
  | "service_role" => .ok (deployment.serviceRole.map .text)
  | "script_bucket" => .ok (deployment.scriptBucket.map .text)
  | "storage_format" => .ok (deployment.storageFormat.map .text)
  | _ => .error (.unknownAttribute kindName name)

/-- Writes an attribute in place. -/
def assign (name : String) (setting : Option Value) : ExceptT Error (StateM Deployment) Unit :=
  match name with
  | "environment" =>
      assignText kindName name setting fun text node => { node with environment := text }
  | "region" => assignText kindName name setting fun text node => { node with region := text }
  | "service_role" =>
      assignText kindName name setting fun text node => { node with serviceRole := text }
  | "script_bucket" =>
      assignText kindName name setting fun text node => { node with scriptBucket := text }
  | "storage_format" =>
      assignText kindName name setting fun text node => { node with storageFormat := text }
  | _ => throw (.unknownAttribute kindName name)

/-- The rules in the order in which they are checked. -/
def rules : List Rule :=
  [ .mandatory "environment" .sqlIdentifier,
    .mandatory "region" .region,
    .optional "service_role" .roleName,
    .optional "script_bucket" .bucketName,
    .optional "storage_format" .storageFormat ]

/-- The attributes that may hold placeholders, in the order in which they are filled. -/
def interpolatedNames : List String :=
  ["environment", "region", "service_role", "script_bucket", "storage_format"]

instance : Attributed Deployment where
  kind _ := kindName
  read := read
  assign := assign
  rules _ := rules

variable {ν : Type} [Attributed ν]

/-- Fills the placeholders. -/
def resolve (scope : ResolveScope ν) (deployment : Deployment) : Run Deployment :=
  scope.interpolated interpolatedNames deployment

/-- The settings, then the relations in order. -/
def output (children : List ChildOutput) (deployment : Deployment) : Json :=
  .object
    [ ("environment", .ofText? deployment.environment),
      ("region", .ofText? deployment.region),
      ("service_role", .ofText? deployment.serviceRole),
      ("script_bucket", .ofText? deployment.scriptBucket),
      ("storage_format", .ofText? deployment.storageFormat),
      ("relations", .array (children.map ChildOutput.output)) ]

end Deployment

end DeployTree
