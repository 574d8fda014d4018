import DeployTree.Tree.Node

/-! # Trees and their phases

A tree is built, then resolved, then validated; only then does it give its output.
The phase is part of the type of a tree, so that no pass can be left out or run
twice. Resolving and validating visit the nodes in depth-first order, parents first
and children in their order, and end with the first failure.
-/

namespace DeployTree

/-- How far the work on a tree has come: it is being built, or every node has been resolved, or
every node has been validated too. -/
inductive Phase where
  | constructed
  | resolved
  | validated
deriving DecidableEq

/-- A tree of nodes in a phase. -/
structure Tree (ν : Type) (phase : Phase) where
  arena : Arena ν

namespace Tree

variable {ν : Type} {phase : Phase}

/-- The number of nodes. -/
def size (tree : Tree ν phase) : Nat := tree.arena.size

/-- The node of an identifier. -/
def node? (tree : Tree ν phase) (id : NodeId) : Option ν :=
  (tree.arena.entry? id).map Entry.node

/-- The parent of a node; none for the root and for an identifier that is not in use. -/
def parent? (tree : Tree ν phase) (id : NodeId) : Option NodeId := tree.arena.parent? id

/-- The children of a node in the order in which they were added. -/
def children (tree : Tree ν phase) (id : NodeId) : List NodeId := tree.arena.children id

/-- The identifiers in depth-first order. -/
def preorder (tree : Tree ν phase) : List NodeId := tree.arena.preorder

/-- The view of all nodes. -/
def view (tree : Tree ν phase) : View ν := tree.arena.view

/-- The setting of an attribute at a node, with inheritance. -/
def setting [Attributed ν] (tree : Tree ν phase) (id : NodeId) (name : String) :
    Except Error (Option Value) :=
  tree.view.setting id name

/-- The tree that holds only a root. -/
def ofRoot (node : ν) : Tree ν .constructed := ⟨Arena.ofRoot node⟩

/-- The tree with a node added as the last child of a parent, and the node's identifier. -/
def add (tree : Tree ν .constructed) (parent : NodeId) (node : ν) :
    Except Error (Tree ν .constructed × NodeId) :=
  if below : parent.index < tree.arena.size then
    if room : tree.arena.size < NodeId.capacity then
      .ok (⟨tree.arena.push parent ⟨tree.arena.size, room⟩ node below rfl⟩,
        ⟨tree.arena.size, room⟩)
    else .error (.invalidTree .full)
  else .error (.invalidTree (.unknownParent parent))

variable [Node ν]

/-- Resolves one node of an arena, which sees the nodes entered before it. -/
def resolveNode (interpolator : Interpolator) (arena : Arena ν) (id : NodeId) :
    Run (Arena ν) :=
  match arena.entry? id with
  | none => pure arena
  | some entry => do
      Run.emit (.resolving entry.id (Attributed.kind entry.node))
      let node ← Node.resolve ⟨entry.id, entry.parent, arena.viewBelow id, interpolator⟩
        entry.node
      pure (arena.replace id node)

/-- Resolves nodes of an arena one after another. -/
def resolveNodes (interpolator : Interpolator) : List NodeId → Arena ν → Run (Arena ν)
  | [], arena => pure arena
  | id :: rest, arena => do
      let next ← resolveNode interpolator arena id
      resolveNodes interpolator rest next

/-- Resolves every node, parents before children. -/
def resolve (tree : Tree ν .constructed) (interpolator : Interpolator) :
    Run (Tree ν .resolved) := do
  let arena ← resolveNodes interpolator tree.preorder tree.arena
  Run.emit (.treeResolved arena.size)
  pure ⟨arena⟩

/-- Validates one node of an arena. -/
def validateNode (arena : Arena ν) (id : NodeId) : Run Unit :=
  match arena.entry? id with
  | none => pure ()
  | some entry => do
      Run.emit (.validating entry.id (Attributed.kind entry.node))
      Node.validate entry.node

/-- Validates nodes of an arena one after another. -/
def validateNodes (arena : Arena ν) : List NodeId → Run Unit
  | [] => pure ()
  | id :: rest => do
      validateNode arena id
      validateNodes arena rest

/-- Validates every node in depth-first order. -/
def validate (tree : Tree ν .resolved) : Run (Tree ν .validated) := do
  validateNodes tree.arena tree.preorder
  Run.emit (.treeValidated tree.size)
  pure ⟨tree.arena⟩

/-- The output of a node of an arena, with those of its children inside. -/
def outputAt (arena : Arena ν) (id : NodeId) : Run Json :=
  match _ : arena.entry? id with
  | none => Run.fail (.invalidTree (.unknownNode id))
  | some entry => do
      let outputs ← entry.children.attach.mapM fun child => do
        let output ← outputAt arena child.val
        let kind := (arena.entry? child.val).elim "" fun below => Attributed.kind below.node
        pure (ChildOutput.mk child.val kind output)
      Node.output ⟨entry.id, entry.parent, arena.view⟩ outputs entry.node
termination_by arena.size - id.index
decreasing_by
  have below := Arena.lt_child_of_entry? ‹_› child.property
  have inside := Arena.index_lt_of_entry? ‹_›
  omega

/-- The output of the subtree under a node. -/
def outputOf (tree : Tree ν .validated) (id : NodeId) : Run Json := outputAt tree.arena id

/-- The output of the whole tree. -/
def output (tree : Tree ν .validated) : Run Json := tree.outputOf NodeId.root

/-- Resolves and validates a tree and gives its output. -/
def generate (tree : Tree ν .constructed) (interpolator : Interpolator) : Run Json := do
  let resolved ← tree.resolve interpolator
  let validated ← resolved.validate
  validated.output

end Tree

end DeployTree
