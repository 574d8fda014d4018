import DeployTree.Json
import DeployTree.NodeId

/-! # What happens during a run

The work on a tree leaves a trail of events. Most of them have a record in the log,
with a level, the part of the program that speaks, a message and named fields; the
notes that instruments take have none.
-/

namespace DeployTree

/-- How important a record is, from a failure down to a detail. -/
inductive Level where
  | error
  | warn
  | info
  | debug
  | trace
deriving DecidableEq

namespace Level

/-- The number of levels that are at least as important. -/
def verbosity : Level → Nat
  | error => 1
  | warn => 2
  | info => 3
  | debug => 4
  | trace => 5

/-- The name of a level in a record. -/
def text : Level → String
  | error => "ERROR"
  | warn => "WARN"
  | info => "INFO"
  | debug => "DEBUG"
  | trace => "TRACE"

end Level

/-- A record of the log: how important it is, the part of the program that speaks, what is said, and
the details in order. -/
structure Record where
  level : Level
  target : String
  message : String
  fields : List (String × Json)
deriving DecidableEq

/-- What happens during a run. The resolving and the validating of a node and the substituting of a
variable are told before they take place, the other events after it. -/
inductive Event where
  | resolving (id : NodeId) (kind : String)
  | substituting (variableName : String)
  | relationResolved (fullName : Option String)
  | treeResolved (nodes : Nat)
  | validating (id : NodeId) (kind : String)
  | attributeRefused (kind name : String)
  | treeValidated (nodes : Nat)
  | treeBuilt (relations nodes : Nat)
  | outputWritten (path : String)
  | noted (entry : String)
deriving DecidableEq

namespace Event

/-- The log record of an event. -/
def record? : Event → Option Record
  | resolving id kind =>
      some ⟨.debug, "convergdb_ir::tree", "resolving",
        [("node", .string id.text), ("kind", .string kind)]⟩
  | substituting name =>
      some ⟨.trace, "convergdb_ir::env", "substituting environment variable",
        [("variable", .string name)]⟩
  | relationResolved fullName =>
      some ⟨.debug, "convergdb_schema::relation", "relation resolved",
        [("relation", .string (fullName.getD "<unnamed>"))]⟩
  | treeResolved nodes =>
      some ⟨.info, "convergdb_ir::tree", "tree resolved", [("nodes", .ofNat nodes)]⟩
  | validating id kind =>
      some ⟨.debug, "convergdb_ir::tree", "validating",
        [("node", .string id.text), ("kind", .string kind)]⟩
  | attributeRefused kind name =>
      some ⟨.debug, "convergdb_ir::rules", "attribute failed validation",
        [("node", .string kind), ("attribute", .string name)]⟩
  | treeValidated nodes =>
      some ⟨.info, "convergdb_ir::tree", "tree validated", [("nodes", .ofNat nodes)]⟩
  | treeBuilt relations nodes =>
      some ⟨.debug, "convergdb_schema::description", "built deployment tree",
        [("relations", .ofNat relations), ("nodes", .ofNat nodes)]⟩
  | outputWritten path =>
      some ⟨.info, "convergdb", "wrote IR", [("out", .string path)]⟩
  | noted _ => none

/-- The note that an instrument takes. -/
def note? : Event → Option String
  | noted entry => some entry
  | _ => none

end Event

end DeployTree
