import DeployTree.Dictionary
import DeployTree.Tree.Node
import DeployTree.Value.Encoding

/-! # Probes

A probe is a node whose behaviour is data: which attributes it has, which of them it
interpolates and inherits, and which rules it keeps. A labelled probe takes a note
whenever it is resolved or validated, so that the order of the passes can be seen.
-/

namespace DeployTree

/-- A node whose behaviour is data. A strict probe does not know an attribute without a value, which
is unset otherwise, and a probe may write what it inherits into itself when it is resolved. Notes
are taken under the label. -/
structure Probe where
  label : Option String
  values : Dictionary Value
  strict : Bool
  rules : List Rule
  inheritedNames : List String
  keepsInherited : Bool
  interpolatedNames : List String

namespace Probe

/-- The name of the kind. -/
def kindName : String := "probe"

/-- The value of an attribute. -/
def read (probe : Probe) (name : String) : Except Error (Option Value) :=
  match probe.values.find? name with
  | some value => .ok (some value)
  | none => if probe.strict then .error (.unknownAttribute kindName name) else .ok none

/-- The probe with an attribute written or, by `none`, removed. -/
def write (probe : Probe) (name : String) : Option Value → Probe
  | some value => { probe with values := probe.values.insert name value }
  | none => { probe with values := probe.values.erase name }

instance : Attributed Probe where
  kind _ := kindName
  read := read
  assign name setting := modify fun probe => probe.write name setting
  rules := rules
  inherits probe name := probe.inheritedNames.contains name

/-- Takes a note of a pass. -/
def note (probe : Probe) (pass : String) : Run Unit :=
  match probe.label with
  | none => pure ()
  | some label => Run.emit (.noted (pass ++ ":" ++ label))

variable {ν : Type} [Attributed ν]

/-- Writes the settings in force of some attributes. -/
def inherit (scope : ResolveScope ν) : List String → Probe → Except Error Probe
  | [], probe => .ok probe
  | name :: rest, probe => do
      let setting ← scope.ownOrInherited probe name
      inherit scope rest (probe.write name setting)

/-- Interpolates, then writes inherited values if the probe keeps them. -/
def resolve (scope : ResolveScope ν) (probe : Probe) : Run Probe := do
  probe.note "resolve"
  let filled ← scope.interpolated probe.interpolatedNames probe
  if probe.keepsInherited then Run.ofExcept (inherit scope probe.inheritedNames filled)
  else pure filled

/-- Checks the rules. -/
def validate (probe : Probe) : Run Unit := do
  probe.note "validate"
  checkRules probe probe.rules

/-- The values in order and, if there are any, the children. -/
def output (children : List ChildOutput) (probe : Probe) : Json :=
  let own : Dictionary Json :=
    Dictionary.ofList (probe.values.entries.map fun entry => (entry.1, entry.2.toJson))
  let all :=
    if children.isEmpty then own
    else own.insert "children" (.array (children.map ChildOutput.output))
  .object all.entries

end Probe

end DeployTree
