import DeployTree.Error

/-! # The arena of a tree

A tree keeps its nodes in one array. The entry of a node names its parent and lists
its children, and a node is always entered after its parent: parents lie below and
children lie above. Everything that walks up or down a tree ends because of that.
-/

namespace DeployTree

/-- A node and its place in the tree: the identifier of the node, its parent, which is `none` for
the root, and its children in the order in which they were added. -/
structure Entry (ν : Type) where
  id : NodeId
  parent : Option NodeId
  children : List NodeId
  node : ν

/-- The nodes of a tree, each entered after its parent. The position of an entry is that of its
identifier; parents lie below and children lie above. -/
structure Arena (ν : Type) where
  entries : Array (Entry ν)
  place : ∀ (index : Nat) (inside : index < entries.size), entries[index].id.index = index
  parent_lt : ∀ (index : Nat) (inside : index < entries.size) (parent : NodeId),
    entries[index].parent = some parent → parent.index < index
  lt_child : ∀ (index : Nat) (inside : index < entries.size) (child : NodeId),
    child ∈ entries[index].children → index < child.index

namespace Arena

variable {ν : Type}

section Entries

variable {entries : Array (Entry ν)} {change : Entry ν → Entry ν} {position : Nat}
  (holds : Nat → Entry ν → Prop)
  (kept : ∀ (index : Nat) (inside : index < entries.size), holds index entries[index])
  (changed : ∀ entry, holds position entry → holds position (change entry))

include kept changed

/-- What holds of all entries at their positions holds of them after one has been changed. -/
private theorem forall_modify (index : Nat)
    (inside : index < (entries.modify position change).size) :
    holds index (entries.modify position change)[index] := by
  rw [Array.getElem_modify]
  split
  · rename_i same
    subst same
    exact changed _ (kept position _)
  · exact kept index _

/-- What holds of all entries at their positions holds of them after one has been changed and
another one, of which it holds too, has been put at the end. -/
private theorem forall_modify_push {last : Entry ν} (new : holds entries.size last) (index : Nat)
    (inside : index < ((entries.modify position change).push last).size) :
    holds index ((entries.modify position change).push last)[index] := by
  rw [Array.getElem_push]
  split
  · exact forall_modify holds kept changed index _
  · obtain rfl : index = entries.size := by
      rw [Array.size_push, Array.size_modify] at inside
      rename_i outside
      rw [Array.size_modify] at outside
      omega
    exact new

end Entries

/-- The arena that holds only a root. -/
def ofRoot (node : ν) : Arena ν where
  entries := #[⟨NodeId.root, none, [], node⟩]
  place := by
    intro index inside
    obtain rfl : index = 0 := by simpa using inside
    rfl
  parent_lt := by
    intro index inside parent wired
    obtain rfl : index = 0 := by simpa using inside
    simp at wired
  lt_child := by
    intro index inside child member
    obtain rfl : index = 0 := by simpa using inside
    simp at member

/-- The number of nodes. -/
def size (arena : Arena ν) : Nat := arena.entries.size

/-- The entry of a node. -/
def entry? (arena : Arena ν) (id : NodeId) : Option (Entry ν) := arena.entries[id.index]?

/-- An entry with one more child at the end of its list. -/
def Entry.withChild (entry : Entry ν) (child : NodeId) : Entry ν :=
  { entry with children := entry.children ++ [child] }

/-- The arena with a node entered under a parent that it holds. -/
def push (arena : Arena ν) (parent id : NodeId) (node : ν) (below : parent.index < arena.size)
    (next : id.index = arena.size) : Arena ν where
  entries :=
    (arena.entries.modify parent.index fun entry => Entry.withChild entry id).push
      ⟨id, some parent, [], node⟩
  place := by
    refine forall_modify_push (fun index entry => entry.id.index = index) arena.place ?_ next
    exact fun _ placed => placed
  parent_lt := by
    refine forall_modify_push
      (fun index entry => ∀ above, entry.parent = some above → above.index < index)
      arena.parent_lt ?_ ?_
    · exact fun _ before => before
    · rintro above ⟨⟩
      exact below
  lt_child := by
    refine forall_modify_push (fun index entry => ∀ child ∈ entry.children, index < child.index)
      arena.lt_child (fun entry before child member => ?_) nofun
    rcases List.mem_append.mp member with listed | added
    · exact before child listed
    · rw [List.mem_singleton.mp added, next]
      exact below

/-- The arena with the node of an identifier replaced. -/
def replace (arena : Arena ν) (id : NodeId) (node : ν) : Arena ν where
  entries := arena.entries.modify id.index fun entry => { entry with node := node }
  place := forall_modify (fun index entry => entry.id.index = index) arena.place
    fun _ placed => placed
  parent_lt := forall_modify
    (fun index entry => ∀ above, entry.parent = some above → above.index < index)
    arena.parent_lt fun _ before => before
  lt_child := forall_modify (fun index entry => ∀ child ∈ entry.children, index < child.index)
    arena.lt_child fun _ before => before

/-- An entry carries the identifier under which it is found. -/
theorem id_of_entry? {arena : Arena ν} {id : NodeId} {entry : Entry ν}
    (found : arena.entry? id = some entry) : entry.id = id := by
  obtain ⟨inside, same⟩ := Array.getElem?_eq_some_iff.mp found
  exact NodeId.ext_index (same ▸ arena.place id.index inside)

/-- The parent of an entry comes before it. -/
theorem parent_lt_of_entry? {arena : Arena ν} {id parent : NodeId} {entry : Entry ν}
    (found : arena.entry? id = some entry) (wired : entry.parent = some parent) :
    parent.index < id.index := by
  obtain ⟨inside, same⟩ := Array.getElem?_eq_some_iff.mp found
  exact arena.parent_lt id.index inside parent (same ▸ wired)

/-- The children of an entry come after it. -/
theorem lt_child_of_entry? {arena : Arena ν} {id child : NodeId} {entry : Entry ν}
    (found : arena.entry? id = some entry) (member : child ∈ entry.children) :
    id.index < child.index := by
  obtain ⟨inside, same⟩ := Array.getElem?_eq_some_iff.mp found
  exact arena.lt_child id.index inside child (same ▸ member)

/-- Entries stand within the arena. -/
theorem index_lt_of_entry? {arena : Arena ν} {id : NodeId} {entry : Entry ν}
    (found : arena.entry? id = some entry) : id.index < arena.size :=
  (Array.getElem?_eq_some_iff.mp found).1

/-- The arena of a root holds one node. -/
@[simp] theorem size_ofRoot (node : ν) : (ofRoot node).size = 1 := rfl

/-- A push adds one node. -/
@[simp] theorem size_push (arena : Arena ν) (parent id : NodeId) (node : ν)
    (below : parent.index < arena.size) (next : id.index = arena.size) :
    (arena.push parent id node below next).size = arena.size + 1 := by
  simp [size, push]

/-- A replaced node adds none. -/
@[simp] theorem size_replace (arena : Arena ν) (id : NodeId) (node : ν) :
    (arena.replace id node).size = arena.size := by
  simp [size, replace]

/-- A replaced node keeps its place. -/
theorem entry?_replace_self {arena : Arena ν} {id : NodeId} {entry : Entry ν}
    (found : arena.entry? id = some entry) (node : ν) :
    Arena.entry? (arena.replace id node) id = some { entry with node := node } := by
  unfold Arena.entry? at found ⊢
  simp [replace, Array.getElem?_modify, found]

/-- A replaced node leaves the other entries. -/
theorem entry?_replace_of_ne (arena : Arena ν) {id other : NodeId} (apart : other ≠ id)
    (node : ν) : Arena.entry? (arena.replace id node) other = arena.entry? other := by
  have indices : id.index ≠ other.index := fun same => apart (NodeId.ext_index same.symm)
  unfold Arena.entry?
  simp [replace, Array.getElem?_modify, indices]

section Push

variable (arena : Arena ν) {parent id other : NodeId} (node : ν)
  (below : parent.index < arena.size) (next : id.index = arena.size)

/-- A node that is entered has no children yet. -/
theorem entry?_push_self :
    Arena.entry? (arena.push parent id node below next) id =
      some ⟨id, some parent, [], node⟩ := by
  have last : id.index = arena.entries.size := next
  unfold Arena.entry?
  rw [push, Array.getElem?_push, if_pos (by simp [last])]

/-- The parent of a node that is entered has it for its last child. -/
theorem entry?_push_parent :
    Arena.entry? (arena.push parent id node below next) parent =
      (arena.entry? parent).map (Entry.withChild · id) := by
  have apart : parent.index ≠ arena.entries.size := Nat.ne_of_lt below
  unfold Arena.entry?
  rw [push, Array.getElem?_push, if_neg (by simpa using apart), Array.getElem?_modify, if_pos rfl]

/-- A push leaves the entries apart from the parent and the new one. -/
theorem entry?_push_of_ne (notParent : other ≠ parent) (notNew : other ≠ id) :
    Arena.entry? (arena.push parent id node below next) other = arena.entry? other := by
  have apart : parent.index ≠ other.index := fun same => notParent (NodeId.ext_index same.symm)
  have old : other.index ≠ arena.entries.size := fun same =>
    notNew (NodeId.ext_index (same.trans next.symm))
  unfold Arena.entry?
  simp [push, Array.getElem?_push, Array.getElem?_modify, apart, old]

end Push

/-- The children of a node; none for an identifier that is not in use. -/
def children (arena : Arena ν) (id : NodeId) : List NodeId :=
  match arena.entry? id with
  | none => []
  | some entry => entry.children

/-- The parent of a node; none for the root and for an identifier that is not in use. -/
def parent? (arena : Arena ν) (id : NodeId) : Option NodeId :=
  (arena.entry? id).bind Entry.parent

/-- The identifiers met when the top of a stack of nodes is taken off and its children are put
in its place, again and again for a number of steps. -/
def walk (arena : Arena ν) : Nat → List NodeId → List NodeId
  | 0, _ => []
  | _ + 1, [] => []
  | steps + 1, id :: stack => id :: walk arena steps (arena.children id ++ stack)

/-- The identifiers in depth-first order, parents first and children in their order. -/
def preorder (arena : Arena ν) : List NodeId := arena.walk arena.size [NodeId.root]

/-- A node and everything below it: the node, then the listings of its children in order. -/
def listing (arena : Arena ν) (id : NodeId) : List NodeId :=
  match _ : arena.entry? id with
  | none => []
  | some entry => id :: entry.children.attach.flatMap fun child => listing arena child.val
termination_by arena.size - id.index
decreasing_by
  have below := lt_child_of_entry? ‹_› child.property
  have inside := index_lt_of_entry? ‹_›
  omega

end Arena

end DeployTree
