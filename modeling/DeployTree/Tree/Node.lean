import DeployTree.Environment.Interpolator
import DeployTree.Tree.View
import DeployTree.Validation

/-! # What a node does in a tree

A node takes part in three passes. It is resolved once, when all its ancestors have
been: it fills in inherited, derived and interpolated values. It is validated
without being changed. And it gives its output, into which the outputs of its
children are put. During each pass it is handed a scope, which says where it stands
and what it may see.
-/

namespace DeployTree

/-- What a node is handed while it is resolved: its identifier and that of its parent, the nodes it
may see, and the interpolator of the pass. -/
structure ResolveScope (ν : Type) where
  id : NodeId
  parent : Option NodeId
  view : View ν
  interpolator : Interpolator

/-- What a node is handed while it gives its output: its identifier and that of its parent, and the
nodes it may see. -/
structure OutputScope (ν : Type) where
  id : NodeId
  parent : Option NodeId
  view : View ν

/-- The output of a child, handed to its parent with the identifier and the kind of the child. -/
structure ChildOutput where
  id : NodeId
  kind : String
  output : Json

/-- A node type that takes part in the passes over a tree. Resolving gives the node with its
inherited, derived and interpolated values, validating checks its rules unless the type has checks
of its own, and the output takes in those of the children in order. -/
class Node (ν : Type) extends Attributed ν where
  resolve : ResolveScope ν → ν → Run ν
  validate : ν → Run Unit := fun node => checkRules node (Attributed.rules node)
  output : OutputScope ν → List ChildOutput → ν → Run Json

section Scopes

variable {ν κ : Type} [Attributed ν] [Attributed κ]

/-- A node's own value of an attribute if it is given, else the setting at its parent. -/
def ResolveScope.ownOrInherited (scope : ResolveScope ν) (node : κ) (name : String) :
    Except Error (Option Value) :=
  scope.view.ownOrInherited scope.parent node name

/-- The setting of an attribute at the parent, unset at the root. -/
def ResolveScope.parentSetting (scope : ResolveScope ν) (name : String) :
    Except Error (Option Value) :=
  match scope.parent with
  | none => .ok none
  | some parent => scope.view.setting parent name

/-- The node with the named attributes interpolated. -/
def ResolveScope.interpolated (scope : ResolveScope ν) (names : List String) (node : κ) :
    Run κ :=
  scope.interpolator.interpolated names node

/-- A node's own value of an attribute if it is given, else the setting at its parent. -/
def OutputScope.ownOrInherited (scope : OutputScope ν) (node : κ) (name : String) :
    Except Error (Option Value) :=
  scope.view.ownOrInherited scope.parent node name

end Scopes

end DeployTree
