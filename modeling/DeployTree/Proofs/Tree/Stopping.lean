import DeployTree.Tree

/-! # Where validating stops

Validating a tree visits its nodes in depth-first order. It fails exactly when one of them fails and
all before it pass, with the error of that node (`DeployTree.Tree.validate_eq_error_iff`).
-/

namespace DeployTree.Tree

variable {ν : Type} [Node ν] {arena : Arena ν} {tree : Tree ν .resolved} {id : NodeId}
  {error : Error}

/-- Whether validating a tree stops at a node: those before it pass, and it fails with the error. -/
def StopsAt (tree : Tree ν .resolved) (id : NodeId) (error : Error) : Prop :=
  ∃ front back, tree.preorder = front ++ id :: back ∧
    (∀ earlier ∈ front, (validateNode tree.arena earlier).outcome = .ok ()) ∧
    (validateNode tree.arena id).outcome = .error error

/-- The error of validating a node of an arena. -/
def refusal? (arena : Arena ν) (id : NodeId) : Option Error :=
  match (validateNode arena id).outcome with
  | .ok _ => none
  | .error error => some error

/-- A node is not refused when its validation succeeds. -/
theorem refusal?_eq_none_iff :
    refusal? arena id = none ↔ (validateNode arena id).outcome = .ok () := by
  unfold refusal?
  cases (validateNode arena id).outcome <;> simp

/-- A node is refused with the error of its validation. -/
theorem refusal?_eq_some_iff :
    refusal? arena id = some error ↔ (validateNode arena id).outcome = .error error := by
  unfold refusal?
  cases (validateNode arena id).outcome <;> simp

/-- Validating nodes in turn ends with the first of them that is refused. -/
theorem validateNodes_outcome (arena : Arena ν) (ids : List NodeId) :
    (validateNodes arena ids).outcome = unlessFound (ids.findSome? (refusal? arena)) (.ok ()) := by
  induction ids with
  | nil => rfl
  | cons first rest ih =>
      rw [validateNodes, List.findSome?_cons]
      cases own : (validateNode arena first).outcome with
      | error reason => rw [Run.outcome_bind_of_error own, refusal?_eq_some_iff.mpr own]; rfl
      | ok _ => rw [Run.outcome_bind_of_ok own, refusal?_eq_none_iff.mpr own, ih]

/-- A tree is validated unless one of its nodes is refused, the first of them in depth-first order;
it stays as it is. -/
theorem validate_outcome (tree : Tree ν .resolved) :
    tree.validate.outcome =
      unlessFound (tree.preorder.findSome? (refusal? tree.arena)) (.ok ⟨tree.arena⟩) :=
  Run.outcome_bind_of_unlessFound (validateNodes_outcome tree.arena tree.preorder) _

/-- **Where validating stops.** Validating a tree fails with an error exactly when it stops at a
node with this error. -/
theorem validate_eq_error_iff :
    tree.validate.outcome = .error error ↔ ∃ id, tree.StopsAt id error := by
  rw [validate_outcome, unlessFound_ok_eq_error_iff, List.findSome?_eq_some_iff]
  constructor
  · rintro ⟨front, id, back, split, failed, passed⟩
    exact ⟨id, front, back, split, fun earlier member =>
      refusal?_eq_none_iff.mp (passed earlier member), refusal?_eq_some_iff.mp failed⟩
  · rintro ⟨id, front, back, split, passed, failed⟩
    exact ⟨front, id, back, split, refusal?_eq_some_iff.mpr failed, fun earlier member =>
      refusal?_eq_none_iff.mpr (passed earlier member)⟩

/-- Validating a node of an arena has the outcome that the node gives. -/
theorem validateNode_outcome {entry : Entry ν} (found : arena.entry? id = some entry) :
    (validateNode arena id).outcome = (Node.validate entry.node).outcome := by
  rw [validateNode, found]
  exact Run.outcome_emit_bind _ _

end DeployTree.Tree
