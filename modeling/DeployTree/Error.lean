import DeployTree.Json.Failure
import DeployTree.NodeId

/-! # Errors

Five things go wrong with a deployment: an attribute breaks a rule, a setting
cannot be found, an attribute is unknown or of the wrong type, the tree is wired
wrongly, and the document cannot be read. Each cause is a constructor; the wording
of a cause is one function, and rule breaches and missing settings carry a second,
narrower message.
-/

namespace DeployTree

/-- An attribute that breaks a rule: the kind of the node, the name of the attribute, and the value
as a message shows it. -/
structure Breach where
  nodeKind : String
  name : String
  shown : String
deriving DecidableEq

/-- The wording of a breach. -/
def Breach.text (breach : Breach) : String :=
  breach.nodeKind ++ ": invalid value for " ++ breach.name ++ ": " ++ breach.shown

/-- A setting that cannot be found: a variable outside the namespace, a variable of the namespace
that is not bound, or an attribute that is unset at a node without a parent. -/
inductive MissingSetting where
  | outsideNamespace (variableName required : String)
  | unbound (variableName : String)
  | noParent (nodeKind name : String)
deriving DecidableEq

/-- The wording of a missing setting. -/
def MissingSetting.text : MissingSetting → String
  | .outsideNamespace name required =>
      "environment variable " ++ name ++ " must be prefixed with " ++ required
  | .unbound name => "environment variable " ++ name ++ " does not exist"
  | .noParent kind name =>
      kind ++ "." ++ name ++ " is unset and the node has no parent to inherit from"

/-- A fault in the wiring of a tree: a node is added under a parent that is not there or when all
identifiers are in use, a node asks for one that it may not see, or the tree does not hold a
node. -/
inductive Miswiring where
  | unknownParent (parent : NodeId)
  | full
  | notVisible (id : NodeId)
  | unknownNode (id : NodeId)
  | described (reason : String)
deriving DecidableEq

/-- The wording of a fault in the wiring. -/
def Miswiring.text : Miswiring → String
  | .unknownParent parent => "parent " ++ parent.text ++ " does not exist"
  | .full => "too many nodes"
  | .notVisible id => id.text ++ " is not visible from here"
  | .unknownNode id => id.text ++ " does not exist"
  | .described reason => reason

/-- Why a document is no description of a deployment: the reader stopped, or a reason in words. -/
inductive Unreadable where
  | stopped (failure : Json.Failure)
  | described (reason : String)
deriving DecidableEq

/-- The wording of an unreadable document. -/
def Unreadable.text : Unreadable → String
  | .stopped failure => failure.text
  | .described reason => reason

/-- What goes wrong with a deployment: an attribute breaks a rule, a setting cannot be found, a node
has no such attribute or is given a value of another type, the tree is wired wrongly, or the
document cannot be read. -/
inductive Error where
  | validation (breach : Breach)
  | configuration (missing : MissingSetting)
  | unknownAttribute (nodeKind name : String)
  | typeMismatch (nodeKind name expected : String)
  | invalidTree (fault : Miswiring)
  | invalidDescription (reason : Unreadable)
deriving DecidableEq

namespace Error

/-- The wording of an error. -/
def text : Error → String
  | validation breach => "Validation failed: " ++ breach.text
  | configuration missing => "Configuration error: " ++ missing.text
  | unknownAttribute kind name => "Unknown attribute " ++ name ++ " on " ++ kind
  | typeMismatch kind name expected =>
      "Type mismatch for " ++ kind ++ "." ++ name ++ ": expected " ++ expected
  | invalidTree fault => "Invalid tree: " ++ fault.text
  | invalidDescription reason => "Invalid description: " ++ reason.text

/-- The narrower message of a breach or a missing setting. -/
def source? : Error → Option String
  | validation breach => some breach.text
  | configuration missing => some missing.text
  | _ => none

/-- Whether an attribute breaks a rule. -/
def isValidation : Error → Bool
  | validation _ => true
  | _ => false

/-- Whether a setting cannot be found. -/
def isConfiguration : Error → Bool
  | configuration _ => true
  | _ => false

/-- The error and its source, the messages of a report from the outside in. -/
def chain (error : Error) : List String := error.text :: error.source?.toList

end Error

end DeployTree
