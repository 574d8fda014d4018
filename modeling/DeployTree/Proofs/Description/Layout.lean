import DeployTree.Description
import DeployTree.Proofs.Tree.Growth

/-! # Where the nodes of a description stand

The tree of a description keeps its nodes in document order: the deployment, then every relation
followed by its columns. The forest of a description writes this down with the position of every
node (`DeployTree.Description.relationForest`). A tree that is built is spanned by it
(`DeployTree.Description.spans_of_build`) and has as many nodes as the description counts
(`DeployTree.Description.size_of_build`); building fails only where identifiers run out
(`DeployTree.Description.exists_build`).
-/

namespace DeployTree

/-- The number of nodes of a relation and its columns. -/
def RelationDescription.nodeCount (relation : RelationDescription) : Nat :=
  1 + relation.columns.length

namespace Description

/-- The number of nodes of relations and their columns. -/
def relationNodes (relations : List RelationDescription) : Nat :=
  relations.length + (relations.flatMap RelationDescription.columns).length

/-- The number of nodes of a description: the deployment, its relations and their columns. -/
def nodeCount (description : Description) : Nat := 1 + relationNodes description.relations

/-- The nodes of relations are those of the first one and those of the rest. -/
theorem relationNodes_cons (relation : RelationDescription) (rest : List RelationDescription) :
    relationNodes (relation :: rest) = relation.nodeCount + relationNodes rest := by
  simp only [relationNodes, RelationDescription.nodeCount, List.length_cons, List.flatMap_cons,
    List.length_append]
  omega

section Forests

variable (relationNode : RelationDescription → Relation) (columnNode : ColumnDescription → Column)

/-- Columns side by side, from a position on. -/
def columnForest (start : Nat) : List ColumnDescription → Forest Element
  | [] => .empty
  | column :: rest =>
      .branch (.wrapping start) (.column (columnNode column)) .empty (columnForest (start + 1) rest)

/-- Relations side by side, from a position on, each before its columns. -/
def relationForest (start : Nat) : List RelationDescription → Forest Element
  | [] => .empty
  | relation :: rest =>
      .branch (.wrapping start) (.relation (relationNode relation))
        (columnForest columnNode (start + 1) relation.columns)
        (relationForest (start + relation.nodeCount) rest)

/-- Columns side by side take up one position each. -/
@[simp] theorem length_ids_columnForest (start : Nat) (columns : List ColumnDescription) :
    (columnForest columnNode start columns).ids.length = columns.length := by
  induction columns generalizing start with
  | nil => rfl
  | cons column rest ih => simp [columnForest, Forest.ids, ih]

/-- Relations side by side take up the positions of their nodes. -/
@[simp] theorem length_ids_relationForest (start : Nat) (relations : List RelationDescription) :
    (relationForest relationNode columnNode start relations).ids.length =
      relationNodes relations := by
  induction relations generalizing start with
  | nil => rfl
  | cons relation rest ih =>
      simp only [relationForest, Forest.ids, List.length_cons, List.length_append,
        length_ids_columnForest, ih, relationNodes_cons, RelationDescription.nodeCount]
      omega

private theorem outline_columnForest (other : ColumnDescription → Column) (start : Nat)
    (columns : List ColumnDescription) :
    (columnForest columnNode start columns).outline =
      (columnForest other start columns).outline := by
  induction columns generalizing start with
  | nil => rfl
  | cons column rest ih => simp [columnForest, Forest.outline, ih]

/-- The outline of relations and columns does not depend on their nodes. -/
theorem outline_relationForest (otherRelation : RelationDescription → Relation)
    (otherColumn : ColumnDescription → Column) (start : Nat)
    (relations : List RelationDescription) :
    (relationForest relationNode columnNode start relations).outline =
      (relationForest otherRelation otherColumn start relations).outline := by
  induction relations generalizing start with
  | nil => rfl
  | cons relation rest ih =>
      rw [relationForest, relationForest, Forest.outline, Forest.outline,
        outline_columnForest columnNode otherColumn, ih]

/-- The nodes of columns side by side come in the order of the columns. -/
theorem nodes_columnForest (start : Nat) (columns : List ColumnDescription) :
    (columnForest columnNode start columns).nodes =
      columns.map fun column => .column (columnNode column) := by
  induction columns generalizing start with
  | nil => rfl
  | cons column rest ih => simp [columnForest, Forest.nodes, ih]

/-- The nodes of relations side by side come relation by relation, each before its columns. -/
theorem nodes_relationForest (start : Nat) (relations : List RelationDescription) :
    (relationForest relationNode columnNode start relations).nodes =
      relations.flatMap fun relation => .relation (relationNode relation) ::
        relation.columns.map fun column => .column (columnNode column) := by
  induction relations generalizing start with
  | nil => rfl
  | cons relation rest ih =>
      rw [relationForest, Forest.nodes, nodes_columnForest, ih, List.flatMap_cons, List.cons_append]

end Forests

/-- The relations of a description in their positions, as they are before they are resolved. -/
def builtForest (start : Nat) (relations : List RelationDescription) : Forest Element :=
  relationForest RelationDescription.node ColumnDescription.node start relations

variable {parent : NodeId} {tree next : Draft} {columns : List ColumnDescription}
  {relations : List RelationDescription} {description : Description}

private theorem addColumns_cons_eq_ok_iff {column : ColumnDescription} :
    addColumns parent (column :: columns) tree = .ok next ↔
      ∃ grown id, tree.add parent (.column column.node) = .ok (grown, id) ∧
        addColumns parent columns grown = .ok next := by
  rw [addColumns, bind_eq_ok_iff, Prod.exists]

private theorem addRelations_cons_eq_ok_iff {relation : RelationDescription} :
    addRelations (relation :: relations) tree = .ok next ↔
      ∃ grown id, tree.add .root (.relation relation.node) = .ok (grown, id) ∧
        ∃ filled, addColumns id relation.columns grown = .ok filled ∧
          addRelations relations filled = .ok next := by
  rw [addRelations, bind_eq_ok_iff, Prod.exists]
  simp only [bind_eq_ok_iff]

/-- Adding columns makes a tree grow by them. -/
theorem addColumns_grows (ok : addColumns parent columns tree = .ok next) :
    Forest.Grows tree.arena next.arena parent
      (columnForest ColumnDescription.node tree.arena.size columns) := by
  induction columns generalizing tree with
  | nil =>
      obtain rfl : tree = next := by simpa [addColumns] using ok
      exact .empty _ _
  | cons column rest ih =>
      obtain ⟨grown, id, added, ok⟩ := addColumns_cons_eq_ok_iff.mp ok
      obtain ⟨below, free, pushed⟩ := Tree.exists_push_of_add added
      have later := ih ok
      rw [pushed, Arena.size_push] at later
      rw [columnForest, ← free, NodeId.wrapping_index, free]
      exact .branch below free rfl (.empty _ _) later

/-- Adding relations makes a tree grow by them and their columns. -/
theorem addRelations_grows (ok : addRelations relations tree = .ok next) :
    Forest.Grows tree.arena next.arena .root (builtForest tree.arena.size relations) := by
  induction relations generalizing tree with
  | nil =>
      obtain rfl : tree = next := by simpa [addRelations] using ok
      exact .empty _ _
  | cons relation rest ih =>
      obtain ⟨grown, id, added, filled, columnsOk, ok⟩ := addRelations_cons_eq_ok_iff.mp ok
      obtain ⟨below, free, pushed⟩ := Tree.exists_push_of_add added
      have lower := addColumns_grows columnsOk
      have later := ih ok
      rw [pushed, Arena.size_push] at lower
      have size : filled.arena.size = tree.arena.size + relation.nodeCount := by
        rw [lower.size, length_ids_columnForest, Arena.size_push, RelationDescription.nodeCount]
        omega
      rw [size] at later
      rw [builtForest, relationForest, ← free, NodeId.wrapping_index, free]
      exact .branch below free rfl lower later

private theorem addColumns_of_room (columns : List ColumnDescription)
    (inside : parent.index < tree.arena.size)
    (room : tree.arena.size + columns.length ≤ NodeId.capacity) :
    ∃ next, addColumns parent columns tree = .ok next := by
  induction columns generalizing tree with
  | nil => exact ⟨tree, rfl⟩
  | cons column rest ih =>
      rw [List.length_cons] at room
      obtain ⟨grown, id, added, size, -⟩ :=
        Tree.add_of_room (.column column.node) inside (by omega)
      have room : grown.arena.size + rest.length ≤ NodeId.capacity := by omega
      obtain ⟨next, ok⟩ := ih (by omega) room
      exact ⟨next, addColumns_cons_eq_ok_iff.mpr ⟨grown, id, added, ok⟩⟩

private theorem addRelations_of_room (relations : List RelationDescription)
    (inside : NodeId.root.index < tree.arena.size)
    (room : tree.arena.size + relationNodes relations ≤ NodeId.capacity) :
    ∃ next, addRelations relations tree = .ok next := by
  induction relations generalizing tree with
  | nil => exact ⟨tree, rfl⟩
  | cons relation rest ih =>
      rw [relationNodes_cons, RelationDescription.nodeCount] at room
      obtain ⟨grown, id, added, size, free⟩ :=
        Tree.add_of_room (.relation relation.node) inside (by omega)
      have below : id.index < grown.arena.size := by omega
      have columnsRoom : grown.arena.size + relation.columns.length ≤ NodeId.capacity := by omega
      obtain ⟨filled, columnsOk⟩ := addColumns_of_room relation.columns below columnsRoom
      have filledSize := (addColumns_grows columnsOk).size
      rw [length_ids_columnForest] at filledSize
      have room : filled.arena.size + relationNodes rest ≤ NodeId.capacity := by omega
      obtain ⟨next, ok⟩ := ih (by omega) room
      exact ⟨next, addRelations_cons_eq_ok_iff.mpr ⟨grown, id, added, filled, columnsOk, ok⟩⟩

/-- Building a description is adding its relations to the root of its deployment. -/
theorem build_eq_ok_iff :
    description.build.outcome = .ok tree ↔
      addRelations description.relations (Tree.ofRoot (.deployment description.node)) =
        .ok tree := by
  cases adding : addRelations description.relations
      (Tree.ofRoot (.deployment description.node)) with
  | error error => simp [build, adding, Run.outcome_bind_eq_ok_iff]
  | ok built => simp [build, adding, Run.outcome_bind_eq_ok_iff]

/-- **The tree of a description.** A tree that is built holds the nodes of the description in their
positions and nothing else. -/
theorem spans_of_build (ok : description.build.outcome = .ok tree) :
    (Forest.branch .root (.deployment description.node) (builtForest 1 description.relations)
      .empty).Spans tree.arena :=
  (addRelations_grows (build_eq_ok_iff.mp ok)).spans

/-- A built tree has as many nodes as its description. -/
theorem size_of_build (ok : description.build.outcome = .ok tree) :
    tree.size = description.nodeCount := by
  have whole := (spans_of_build ok).whole
  rw [Forest.ids, List.length_cons, Forest.ids, List.append_nil, builtForest,
    length_ids_relationForest] at whole
  rw [Tree.size, ← whole, nodeCount, Nat.add_comm]

/-- A description whose nodes all have identifiers is built. -/
theorem exists_build (fits : description.nodeCount ≤ NodeId.capacity) :
    ∃ tree, description.build.outcome = .ok tree := by
  obtain ⟨tree, ok⟩ : ∃ tree, addRelations description.relations
      (Tree.ofRoot (.deployment description.node)) = .ok tree :=
    addRelations_of_room description.relations Nat.one_pos fits
  exact ⟨tree, build_eq_ok_iff.mpr ok⟩

end Description

end DeployTree
