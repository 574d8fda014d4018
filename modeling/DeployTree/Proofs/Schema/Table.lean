import DeployTree.Schema.Element

/-! # Readers and writers of attributes

What a node type reads and what it writes under its names are two accounts of the same attributes.
The reader and the writer of deployments, of relations and of columns are those of one table each
(`DeployTree.Deployment.followsTable`, `DeployTree.Relation.followsTable`,
`DeployTree.Column.followsTable`), so what holds of every table holds of them. A writer changes its
node in place; that it follows a table says that it leaves the node alone when it fails.
-/

namespace DeployTree

namespace Attribute

variable {κ : Type} {table : List (Attribute κ)} {kind name : String} {node : κ}
  {setting : Option Value}

/-- A table has no entry under the names that it does not list. -/
theorem find?_eq_none_iff : find? table name = none ↔ name ∉ table.map Attribute.name := by
  rw [find?, List.find?_eq_none]
  simp

private theorem read_of_notMem (absent : name ∉ table.map Attribute.name) :
    read table kind node name = .error (.unknownAttribute kind name) := by
  rw [read, find?_eq_none_iff.mpr absent]

/-- What a write through a table comes to in place: a node that cannot be written stays. -/
def attempt (table : List (Attribute κ)) (kind : String) (node : κ) (name : String)
    (setting : Option Value) : Except Error Unit × κ :=
  match write table kind node name setting with
  | .ok written => (.ok (), written)
  | .error error => (.error error, node)

private theorem attempt_of_notMem (absent : name ∉ table.map Attribute.name) :
    attempt table kind node name setting = (.error (.unknownAttribute kind name), node) := by
  rw [attempt, write, find?_eq_none_iff.mpr absent]

/-- A listed attribute can be read. -/
theorem exists_read_of_mem (listed : name ∈ table.map Attribute.name) (kind : String) (node : κ) :
    ∃ setting, read table kind node name = .ok setting := by
  unfold read
  cases found : find? table name with
  | some other => exact ⟨_, rfl⟩
  | none => exact absurd listed (find?_eq_none_iff.mp found)

/-- A read fails for an unknown attribute only. -/
theorem eq_of_read_eq_error {error : Error} (failed : read table kind node name = .error error) :
    error = .unknownAttribute kind name := by
  unfold read at failed
  split at failed
  · cases failed
  · exact (Except.error.inj failed).symm

end Attribute

/-- Whether the reader and the writer of a node type are those of a table. -/
structure FollowsTable (κ : Type) [Attributed κ] (kind : String) (table : List (Attribute κ)) :
    Prop where
  read_eq : ∀ (node : κ) (name : String),
    Attributed.read node name = Attribute.read table kind node name
  attempt_eq : ∀ (node : κ) (name : String) (setting : Option Value),
    Attributed.attempt node name setting = Attribute.attempt table kind node name setting

namespace FollowsTable

variable {κ : Type} [Attributed κ] {kind : String} {table : List (Attribute κ)}

/-- A node is written as the table says. -/
theorem write_eq (follows : FollowsTable κ kind table) (node : κ) (name : String)
    (setting : Option Value) :
    Attributed.write node name setting = Attribute.write table kind node name setting := by
  rw [Attributed.write, follows.attempt_eq, Attribute.attempt]
  cases Attribute.write table kind node name setting <;> rfl

/-- A node that cannot be written is left as it was. -/
theorem left_of_error (follows : FollowsTable κ kind table) {node : κ} {name : String}
    {setting : Option Value} {error : Error}
    (failed : (Attributed.attempt node name setting).1 = .error error) :
    (Attributed.attempt node name setting).2 = node := by
  rw [follows.attempt_eq, Attribute.attempt] at failed ⊢
  cases writes : Attribute.write table kind node name setting with
  | error other => rfl
  | ok written => simp [writes] at failed

end FollowsTable

namespace Deployment

private theorem read_eq (deployment : Deployment) (name : String) :
    deployment.read name = Attribute.read attributes kindName deployment name := by
  unfold read
  split
  -- the last case has the names that no line of the reader is for
  case h_6 =>
    refine (Attribute.read_of_notMem ?_).symm
    simp_all [attributes, Attribute.text]
  all_goals rfl

private theorem attempt_eq (deployment : Deployment) (name : String) (setting : Option Value) :
    Attributed.attempt deployment name setting =
      Attribute.attempt attributes kindName deployment name setting := by
  change StateT.run (ExceptT.run (assign name setting)) deployment = _
  unfold assign
  split
  case h_6 =>
    refine (Attribute.attempt_of_notMem ?_).symm
    simp_all [attributes, Attribute.text]
  all_goals rcases setting with _ | (_ | _) <;> rfl

/-- Deployments read and write by their table. -/
theorem followsTable : FollowsTable Deployment kindName attributes := ⟨read_eq, attempt_eq⟩

end Deployment

namespace Relation

private theorem read_eq (relation : Relation) (name : String) :
    relation.read name = Attribute.read attributes kindName relation name := by
  unfold read
  split
  case h_10 =>
    refine (Attribute.read_of_notMem ?_).symm
    simp_all [attributes, Attribute.text, Attribute.any]
  all_goals rfl

private theorem attempt_eq (relation : Relation) (name : String) (setting : Option Value) :
    Attributed.attempt relation name setting =
      Attribute.attempt attributes kindName relation name setting := by
  change StateT.run (ExceptT.run (assign name setting)) relation = _
  unfold assign
  split
  case h_10 =>
    refine (Attribute.attempt_of_notMem ?_).symm
    simp_all [attributes, Attribute.text, Attribute.any]
  all_goals rcases setting with _ | (_ | _) <;> rfl

/-- Relations read and write by their table. -/
theorem followsTable : FollowsTable Relation kindName attributes := ⟨read_eq, attempt_eq⟩

end Relation

namespace Column

private theorem read_eq (column : Column) (name : String) :
    column.read name = Attribute.read attributes kindName column name := by
  unfold read
  split
  case h_7 =>
    refine (Attribute.read_of_notMem ?_).symm
    simp_all [attributes, Attribute.text, Attribute.any]
  all_goals rfl

private theorem attempt_eq (column : Column) (name : String) (setting : Option Value) :
    Attributed.attempt column name setting =
      Attribute.attempt attributes kindName column name setting := by
  change StateT.run (ExceptT.run (assign name setting)) column = _
  unfold assign
  split
  case h_7 =>
    refine (Attribute.attempt_of_notMem ?_).symm
    simp_all [attributes, Attribute.text, Attribute.any]
  all_goals rcases setting with _ | (_ | _) <;> rfl

/-- Columns read and write by their table. -/
theorem followsTable : FollowsTable Column kindName attributes := ⟨read_eq, attempt_eq⟩

end Column

end DeployTree
