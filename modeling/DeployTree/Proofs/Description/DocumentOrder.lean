import DeployTree.Proofs.CommandLine.AllOrNothing
import DeployTree.Proofs.Description.Layout
import Mathlib.Data.List.Nodup
import Mathlib.Data.List.Perm.Subperm

/-! # Trees in document order

Nodes get their identifiers as they are added, so the position of a node says how many came before
it. In the tree of a description the deployment is first, and a relation stands after all earlier
relations and their columns; its own columns follow it at once. Such a tree says of every position
which field of the document stands there (`DeployTree.Description.InDocumentOrder`), and depth-first
order is the order of the positions. Every description whose nodes all have identifiers is built,
and built in this order (`DeployTree.Description.exists_build_inDocumentOrder`).
-/

namespace DeployTree

/-- A position within the capacity is the position of its identifier. -/
theorem NodeId.index_wrapping {position : Nat} (room : position < capacity) :
    (wrapping position).index = position :=
  Nat.mod_eq_of_lt room

private theorem NodeId.map_index_wrapping {positions : List Nat}
    (room : ∀ position ∈ positions, position < capacity) :
    (positions.map wrapping).map index = positions := by
  rw [List.map_map]
  refine (List.map_congr_left fun position member => ?_).trans (List.map_id positions)
  exact index_wrapping (room position member)

/-- A tree has no more nodes than there are identifiers. -/
theorem Forest.Spans.size_le_capacity {ν : Type} {forest : Forest ν} {arena : Arena ν}
    (spans : forest.Spans arena) : arena.size ≤ NodeId.capacity := by
  have distinct : (forest.ids.map NodeId.index).Nodup :=
    List.Nodup.map (fun _ _ => NodeId.ext_index) spans.distinct
  have below : forest.ids.map NodeId.index ⊆ List.range NodeId.capacity := by
    intro position member
    obtain ⟨id, -, rfl⟩ := List.mem_map.mp member
    exact List.mem_range.mpr id.index_lt
  have count := (List.subperm_of_subset distinct below).length_le
  rwa [List.length_map, List.length_range, spans.whole] at count

namespace Description

section Forests

variable {relationNode : RelationDescription → Relation} {columnNode : ColumnDescription → Column}
  {arena : Arena Element} {parent : Option NodeId} {start number position : Nat}

/-- Columns side by side have consecutive positions. -/
theorem ids_columnForest (columnNode : ColumnDescription → Column) (start : Nat)
    (columns : List ColumnDescription) :
    (columnForest columnNode start columns).ids =
      (List.range' start columns.length).map .wrapping := by
  induction columns generalizing start with
  | nil => rfl
  | cons column rest ih =>
      rw [columnForest, Forest.ids, Forest.ids, List.nil_append, ih, List.length_cons,
        List.range'_succ, List.map_cons]

/-- Nothing stands below a column. -/
theorem tops_columnForest (columnNode : ColumnDescription → Column) (start : Nat)
    (columns : List ColumnDescription) :
    (columnForest columnNode start columns).tops =
      (columnForest columnNode start columns).ids := by
  induction columns generalizing start with
  | nil => rfl
  | cons column rest ih =>
      rw [columnForest, Forest.tops, Forest.ids, Forest.ids, List.nil_append, ih]

/-- Relations and their columns take up consecutive positions. -/
theorem ids_relationForest (relationNode : RelationDescription → Relation)
    (columnNode : ColumnDescription → Column) (start : Nat)
    (relations : List RelationDescription) :
    (relationForest relationNode columnNode start relations).ids =
      (List.range' start (relationNodes relations)).map .wrapping := by
  induction relations generalizing start with
  | nil => rfl
  | cons relation rest ih =>
      have after : start + relation.nodeCount = start + 1 + 1 * relation.columns.length := by
        rw [RelationDescription.nodeCount]
        omega
      have count : relationNodes (relation :: rest) =
          (relation.columns.length + relationNodes rest) + 1 := by
        rw [relationNodes_cons, RelationDescription.nodeCount]
        omega
      rw [relationForest, Forest.ids, ids_columnForest, ih, ← List.map_append, after,
        List.range'_append, count, List.range'_succ, List.map_cons]

/-- Every relation stands after the earlier ones and their columns. -/
theorem tops_relationForest (relationNode : RelationDescription → Relation)
    (columnNode : ColumnDescription → Column) (start : Nat)
    (relations : List RelationDescription) :
    (relationForest relationNode columnNode start relations).tops =
      ((List.range relations.length).map fun number =>
        start + relationNodes (relations.take number)).map .wrapping := by
  induction relations generalizing start with
  | nil => rfl
  | cons relation rest ih =>
      rw [relationForest, Forest.tops, ih, List.length_cons, List.range_succ_eq_map]
      simp only [List.map_cons, List.map_map, List.take_zero, Function.comp_def,
        List.take_succ_cons, relationNodes_cons, Nat.add_assoc]
      rfl

private theorem entry?_of_columnForest {columns : List ColumnDescription}
    {column : ColumnDescription}
    (stands : (columnForest columnNode start columns).StandsIn arena parent)
    (found : columns[number]? = some column) :
    arena.entry? (.wrapping (start + number)) =
      some ⟨.wrapping (start + number), parent, [], .column (columnNode column)⟩ := by
  induction columns generalizing start number with
  | nil => cases found
  | cons first rest ih =>
      obtain ⟨here, -, standsRest⟩ := stands
      cases number with
      | zero =>
          obtain rfl : first = column := Option.some.inj found
          exact here
      | succ number =>
          have later := ih standsRest found
          rwa [Nat.add_right_comm] at later

/-- A relation and its columns are found where the earlier relations and their columns end. -/
theorem entry?_of_relationForest {relations : List RelationDescription}
    {relation : RelationDescription}
    (stands : (relationForest relationNode columnNode start relations).StandsIn arena parent)
    (found : relations[number]? = some relation)
    (place : position = start + relationNodes (relations.take number)) :
    arena.entry? (.wrapping position) =
        some ⟨.wrapping position, parent,
          (columnForest columnNode (position + 1) relation.columns).tops,
          .relation (relationNode relation)⟩ ∧
      (columnForest columnNode (position + 1) relation.columns).StandsIn arena
        (some (.wrapping position)) := by
  induction relations generalizing start number with
  | nil => cases found
  | cons first rest ih =>
      obtain ⟨here, standsColumns, standsRest⟩ := stands
      cases number with
      | zero =>
          obtain rfl : first = relation := Option.some.inj found
          obtain rfl : position = start := place
          exact ⟨here, standsColumns⟩
      | succ number =>
          rw [List.take_succ_cons, relationNodes_cons, ← Nat.add_assoc] at place
          exact ih standsRest found place

end Forests

end Description

namespace Tree

variable {phase : Phase}

/-- Whether a column is a node of a tree, with all that is said about it, under a relation. -/
structure HasColumn (tree : Tree Element phase) (above : NodeId) (column : ColumnDescription)
    (id : NodeId) : Prop where
  node : tree.node? id = some (.column
    { name := column.name
      dataType := column.dataType
      expression := column.expression
      sourceField := column.sourceField
      required := column.required
      partition := column.partition })
  parent : tree.parent? id = some above
  children : tree.children id = []

/-- Whether a relation is a node of a tree, with all that is said about it and without a full name,
and its columns follow it at once. -/
structure HasRelation (tree : Tree Element phase) (relation : RelationDescription)
    (id : NodeId) : Prop where
  node : tree.node? id = some (.relation
    { relationName := relation.relationName
      fullRelationName := none
      region := relation.region
      serviceRole := relation.serviceRole
      scriptBucket := relation.scriptBucket
      storageFormat := relation.storageFormat
      sourceRelationPrefix := relation.sourceRelationPrefix
      etlJobName := relation.etlJobName
      useInventory := relation.useInventory })
  parent : tree.parent? id = some .root
  children : (tree.children id).map NodeId.index =
    List.range' (id.index + 1) relation.columns.length
  columns : ∀ number column, relation.columns[number]? = some column →
    ∃ own : NodeId, own.index = id.index + 1 + number ∧ tree.HasColumn id column own

/-- A tree answers for a node with what its entry holds. -/
theorem node?_of_entry? {ν : Type} {tree : Tree ν phase} {id : NodeId} {entry : Entry ν}
    (found : tree.arena.entry? id = some entry) :
    tree.node? id = some entry.node ∧ tree.parent? id = entry.parent ∧
      tree.children id = entry.children := by
  refine ⟨?_, ?_, ?_⟩
  · rw [node?, found, Option.map_some]
  · rw [parent?, Arena.parent?, found, Option.bind_some]
  · rw [children, Arena.children, found]

end Tree

namespace Description

open CommandLine (System)

/-- The position of a relation: after the deployment and the relations before it, each with its
columns. -/
def relationPosition (relations : List RelationDescription) (number : Nat) : Nat :=
  1 + number + ((relations.take number).flatMap RelationDescription.columns).length

/-- What makes a tree the one of a description, node by node. The deployment is the root, with all
that is said about it; the relations are below it in their order, each in its position with its
columns below it, and there are no other nodes. Depth-first order is the order of the positions, and
a check of a document that says so prints their number. -/
structure InDocumentOrder (description : Description) (tree : Draft) : Prop where
  node : tree.node? .root = some (.deployment
    { environment := description.environment
      region := description.region
      serviceRole := description.serviceRole
      scriptBucket := description.scriptBucket
      storageFormat := description.storageFormat })
  parent : tree.parent? .root = none
  children : (tree.children .root).map NodeId.index =
    (List.range description.relations.length).map (relationPosition description.relations)
  relations : ∀ number relation, description.relations[number]? = some relation →
    ∃ id : NodeId, id.index = relationPosition description.relations number ∧
      tree.HasRelation relation id
  size : tree.size = 1 + description.relations.length +
    (description.relations.flatMap RelationDescription.columns).length
  preorder : tree.preorder.map NodeId.index = List.range tree.size
  printed : ∀ (system : System) (file text : String) (interpolator : Interpolator),
    system.files.document file = .ok text → parse text = .ok description →
      (system.perform (CommandLine.check file interpolator)).1.ending = .succeeded →
      (system.perform (CommandLine.check file interpolator)).2.printed =
        system.printed ++ (file ++ ": ok (" ++ toString tree.size ++ " nodes)\n")

variable {description : Description} {tree : Draft} {relations : List RelationDescription}
  {number : Nat}

/-- The relations before a position take up their nodes, after the deployment. -/
theorem relationPosition_eq (inside : number ≤ relations.length) :
    relationPosition relations number = 1 + relationNodes (relations.take number) := by
  rw [relationPosition, relationNodes, List.length_take, Nat.min_eq_left inside, Nat.add_assoc]

/-- The nodes of relations are those before, of and after any one of them. -/
theorem relationNodes_split {relation : RelationDescription}
    (found : relations[number]? = some relation) :
    relationNodes relations = relationNodes (relations.take number) + relation.nodeCount +
      relationNodes (relations.drop (number + 1)) := by
  induction relations generalizing number with
  | nil => cases found
  | cons first rest ih =>
      cases number with
      | zero =>
          obtain rfl : first = relation := Option.some.inj found
          rw [List.take_zero, List.drop_succ_cons, List.drop_zero, relationNodes_cons]
          simp [relationNodes]
      | succ number =>
          rw [List.take_succ_cons, List.drop_succ_cons, relationNodes_cons, relationNodes_cons,
            ih found]
          omega

/-- What a check counts are the nodes of the tree. -/
theorem eq_size_of_check {text : String} {interpolator : Interpolator} {nodes : Nat}
    (built : description.build.outcome = .ok tree) (parsed : parse text = .ok description)
    (checked : (check text interpolator).outcome = .ok nodes) : nodes = tree.size := by
  have reads : (Run.ofExcept (parse text)).outcome = .ok description := by
    rw [parsed]
    rfl
  rw [check, Run.outcome_bind_of_ok reads, Run.outcome_bind_of_ok built] at checked
  simp only [Run.outcome_bind_eq_ok_iff] at checked
  obtain ⟨-, -, -, -, same⟩ := checked
  exact (Except.ok.inj same).symm

variable {relation : RelationDescription}

/-- A relation and its columns have positions that identifiers can have. -/
theorem relationPosition_lt (fits : 1 + relationNodes relations ≤ NodeId.capacity)
    (found : relations[number]? = some relation) :
    relationPosition relations number + relation.columns.length < NodeId.capacity := by
  have inside := (List.getElem?_eq_some_iff.mp found).1
  have split := relationNodes_split found
  rw [relationPosition_eq (Nat.le_of_lt inside)]
  rw [RelationDescription.nodeCount] at split
  omega

/-- A description that is built has an identifier for each of its nodes. -/
theorem nodeCount_le_of_build (built : description.build.outcome = .ok tree) :
    description.nodeCount ≤ NodeId.capacity := by
  rw [← size_of_build built]
  exact (spans_of_build built).size_le_capacity

/-- A relation that stands in an arena from a position on is found there with its columns. -/
theorem hasRelation_of_standsIn
    (stands : (builtForest 1 relations).StandsIn tree.arena (some .root))
    (fits : 1 + relationNodes relations ≤ NodeId.capacity)
    (found : relations[number]? = some relation) :
    ∃ id : NodeId, id.index = relationPosition relations number ∧
      tree.HasRelation relation id := by
  have inside := (List.getElem?_eq_some_iff.mp found).1
  have position := relationPosition_eq (Nat.le_of_lt inside)
  have room := relationPosition_lt fits found
  obtain ⟨here, standsColumns⟩ := entry?_of_relationForest stands found position
  obtain ⟨node, parent, children⟩ := Tree.node?_of_entry? here
  have own : (NodeId.wrapping (relationPosition relations number)).index =
      relationPosition relations number :=
    NodeId.index_wrapping (by omega)
  refine ⟨_, own, node, parent, ?_, ?_⟩
  · rw [children, tops_columnForest, ids_columnForest, own, NodeId.map_index_wrapping]
    intro column member
    have within := List.mem_range'_1.mp member
    omega
  · intro place column listed
    have placed := (List.getElem?_eq_some_iff.mp listed).1
    obtain ⟨node, parent, children⟩ :=
      Tree.node?_of_entry? (entry?_of_columnForest standsColumns listed)
    refine ⟨_, ?_, node, parent, children⟩
    rw [own, NodeId.index_wrapping]
    omega

/-- **Document order.** A tree that is built from a description holds its nodes in document order.
-/
theorem inDocumentOrder_of_build (built : description.build.outcome = .ok tree) :
    description.InDocumentOrder tree := by
  have fits := nodeCount_le_of_build built
  have spans := spans_of_build built
  have size := size_of_build built
  rw [nodeCount] at fits size
  obtain ⟨here, stands, -⟩ := spans.stands
  obtain ⟨node, parent, children⟩ := Tree.node?_of_entry? here
  refine
    { node := node
      parent := parent
      children := ?_
      relations := fun number relation found => hasRelation_of_standsIn stands fits found
      size := ?_
      preorder := ?_
      printed := ?_ }
  · rw [children, builtForest, tops_relationForest, NodeId.map_index_wrapping]
    · refine List.map_congr_left fun number member => ?_
      exact (relationPosition_eq (Nat.le_of_lt (List.mem_range.mp member))).symm
    · intro position member
      obtain ⟨number, listed, rfl⟩ := List.mem_map.mp member
      have inside := List.mem_range.mp listed
      have room := relationPosition_lt fits (List.getElem?_eq_getElem inside)
      rw [relationPosition_eq (Nat.le_of_lt inside)] at room
      omega
  · rw [size, relationNodes, Nat.add_assoc]
  · have order : tree.preorder = (List.range' 0 tree.size).map .wrapping := by
      have ids := spans.preorder_eq_ids
      rw [Forest.ids, Forest.ids, List.append_nil, builtForest, ids_relationForest] at ids
      rw [size, Nat.add_comm, List.range'_succ]
      exact ids
    rw [order, NodeId.map_index_wrapping, List.range_eq_range']
    intro position member
    have within := List.mem_range'_1.mp member
    omega
  · intro system file text interpolator isRead parsed ends
    have checks := CommandLine.check_of_read interpolator isRead
    cases checked : (check text interpolator).outcome with
    | error error =>
        rw [checked] at checks
        obtain ⟨messages, -, checks⟩ := checks
        rw [checks] at ends
        cases ends
    | ok nodes =>
        rw [checked] at checks
        rw [checks, ← eq_size_of_check built parsed checked]
        rfl

/-- **Building.** A description with no more nodes than there are identifiers is built, and its tree
holds the nodes in document order: what the document says stands in the position that the document
gives it, and nothing else stands in the tree. -/
theorem exists_build_inDocumentOrder (description : Description)
    (fits : 1 + description.relations.length +
      (description.relations.flatMap RelationDescription.columns).length ≤ UInt32.size) :
    ∃ tree, description.build.outcome = .ok tree ∧ description.InDocumentOrder tree := by
  have room : description.nodeCount ≤ NodeId.capacity := by
    rw [nodeCount, relationNodes, ← Nat.add_assoc]
    exact fits
  obtain ⟨tree, built⟩ := exists_build room
  exact ⟨tree, built, inDocumentOrder_of_build built⟩

/-- Relations with two columns, without columns and with one column. -/
def raggedDescription : Description :=
  { Description.unset with
    relations :=
      [ { RelationDescription.unset with columns := [.unset, .unset] },
        .unset,
        { RelationDescription.unset with columns := [.unset] } ] }

/-- A relation without columns takes up one position. -/
theorem inDocumentOrder_raggedDescription :
    ∃ tree, raggedDescription.build.outcome = .ok tree ∧
      raggedDescription.InDocumentOrder tree ∧
      (tree.children .root).map NodeId.index = [1, 4, 5] ∧
      (∃ id : NodeId, id.index = 5 ∧ (tree.children id).map NodeId.index = [6]) ∧
      tree.preorder.map NodeId.index = [0, 1, 2, 3, 4, 5, 6] := by
  obtain ⟨tree, built, ordered⟩ := exists_build_inDocumentOrder raggedDescription (by decide)
  obtain ⟨last, place, holds⟩ := ordered.relations 2 _ rfl
  have below := holds.children
  rw [place] at below
  have order := ordered.preorder
  rw [ordered.size] at order
  exact ⟨tree, built, ordered, ordered.children, ⟨last, place, below⟩, order⟩

end Description

end DeployTree
