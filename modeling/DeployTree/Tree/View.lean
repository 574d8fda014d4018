import DeployTree.Attributed
import DeployTree.Tree.Arena

/-! # What a node may see

A view shows the nodes of an arena below a position. While a node is resolved it
sees the nodes that were entered before it, its ancestors among them; afterwards
all nodes are seen. Through a view a setting is looked up with inheritance: the
node's own value, unless that is not given and the node falls back to its parent
for this attribute, where the look-up goes on.
-/

namespace DeployTree

/-- An arena whose nodes are hidden from a position on. -/
structure View (ν : Type) where
  arena : Arena ν
  limit : Nat

namespace Arena

variable {ν : Type}

/-- The view of all nodes. -/
def view (arena : Arena ν) : View ν := ⟨arena, arena.size⟩

/-- The view of the nodes entered before one. -/
def viewBelow (arena : Arena ν) (id : NodeId) : View ν := ⟨arena, id.index⟩

end Arena

namespace View

variable {ν : Type}

/-- The entry of a node that is visible. An entry counts as found only if it carries the identifier
under which it is looked up. -/
def entry? (view : View ν) (id : NodeId) : Option (Entry ν) :=
  if id.index < view.limit then (view.arena.entry? id).filter fun entry => entry.id = id else none

/-- The entry of a node, an error where it is not visible. -/
def entry (view : View ν) (id : NodeId) : Except Error (Entry ν) :=
  match view.entry? id with
  | some entry => .ok entry
  | none => .error (.invalidTree (.notVisible id))

/-- A node that must be visible. -/
def node (view : View ν) (id : NodeId) : Except Error ν := (view.entry id).map Entry.node

/-- The parent of a node that must be visible. -/
def parentOf (view : View ν) (id : NodeId) : Except Error (Option NodeId) :=
  (view.entry id).map Entry.parent

/-- Every entry of an arena carries the identifier under which it is looked up. -/
theorem entry?_eq (view : View ν) (id : NodeId) :
    view.entry? id = if id.index < view.limit then view.arena.entry? id else none := by
  have kept : (view.arena.entry? id).filter (fun entry => entry.id = id) =
      view.arena.entry? id := by
    cases found : view.arena.entry? id with
    | none => rfl
    | some entry => exact Option.filter_some_pos (decide_eq_true (Arena.id_of_entry? found))
  unfold entry?
  rw [kept]

/-- What is visible is what the arena holds. -/
theorem entry?_arena {view : View ν} {id : NodeId} {entry : Entry ν}
    (found : view.entry? id = some entry) : view.arena.entry? id = some entry := by
  rw [entry?_eq] at found
  split at found
  · exact found
  · cases found

variable [Attributed ν]

/-- The setting of an attribute at a node, inherited where the node inherits it and has no
value of its own. -/
def setting (view : View ν) (id : NodeId) (name : String) : Except Error (Option Value) :=
  match _ : view.entry? id with
  | none => .error (.invalidTree (.notVisible id))
  | some entry =>
      match Attributed.read entry.node name with
      | .error error => .error error
      | .ok own =>
          if Value.isGiven own || !Attributed.inherits entry.node name then .ok own
          else
            match _ : entry.parent with
            | none => .ok own
            | some parent => view.setting parent name
termination_by id.index
decreasing_by exact Arena.parent_lt_of_entry? (entry?_arena ‹_›) ‹_›

/-- A node's own value of an attribute if it is given, else the setting at its parent. The
node need not be one of the view. -/
def ownOrInherited {κ : Type} [Attributed κ] (view : View ν) (parent : Option NodeId)
    (node : κ) (name : String) : Except Error (Option Value) :=
  match Attributed.read node name with
  | .error error => .error error
  | .ok own =>
      if Value.isGiven own then .ok own
      else
        match parent with
        | none => .error (.configuration (.noParent (Attributed.kind node) name))
        | some above => view.setting above name

end View

end DeployTree
