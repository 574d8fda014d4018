import DeployTree.Error
import DeployTree.Rule

/-! # Nodes seen through their attributes

Validation, inheritance and interpolation see a node only through the table of its
attributes: its kind, the value of each attribute, a way to write one, the rules
its attributes must keep, and the attributes for which it falls back to its parent.
A name outside the table is an error, not an unset value.
-/

namespace DeployTree

/-- A node type with a table of attributes: the name of a node's kind, the value of an attribute,
which is `none` when it is unset, the steps that write an attribute in place or unset it, the rules
that the attributes must keep in the order in which they are checked, and whether a node falls back
to its parent for an attribute. Steps that fail leave a node too, as far as they have changed it. -/
class Attributed (ν : Type) where
  kind : ν → String
  read : ν → String → Except Error (Option Value)
  assign : String → Option Value → ExceptT Error (StateM ν) Unit
  rules : ν → List Rule := fun _ => []
  inherits : ν → String → Bool := fun _ _ => false

namespace Attributed

variable {ν : Type} [Attributed ν]

/-- How writing an attribute ends, and the node that it leaves. -/
def attempt (node : ν) (name : String) (setting : Option Value) : Except Error Unit × ν :=
  StateT.run (ExceptT.run (assign name setting)) node

/-- The node with an attribute written, unless writing fails. -/
def write (node : ν) (name : String) (setting : Option Value) : Except Error ν :=
  (attempt node name setting).1.map fun _ => (attempt node name setting).2

variable {node written : ν} {name : String} {setting : Option Value}

/-- A write gives the node that a finished assignment leaves. -/
theorem write_eq_ok_iff :
    write node name setting = .ok written ↔ attempt node name setting = (.ok (), written) := by
  unfold write
  rcases attempt node name setting with ⟨_ | _, left⟩ <;> simp [Except.map]

/-- A write fails as the assignment does. -/
theorem write_eq_error_iff {error : Error} :
    write node name setting = .error error ↔ (attempt node name setting).1 = .error error := by
  unfold write
  rcases attempt node name setting with ⟨_ | _, left⟩ <;> simp [Except.map]

end Attributed

end DeployTree
