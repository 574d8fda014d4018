/-! # Node identifiers

A node is named by the position at which its tree keeps it. Positions are numbers
of 32 bits, so a tree has room for `2 ^ 32` nodes. A parent is always added before
its children, and its identifier is the smaller one.
-/

namespace DeployTree

/-- The position of a node within its tree, a number of 32 bits. -/
structure NodeId where
  index : Nat
  index_lt : index < UInt32.size
deriving DecidableEq

namespace NodeId

/-- The number of identifiers. -/
def capacity : Nat := UInt32.size

/-- The root of every tree. -/
def root : NodeId := ⟨0, by decide⟩

instance : Inhabited NodeId := ⟨root⟩

/-- The identifier of a position, when the position has one. -/
def ofIndex? (index : Nat) : Option NodeId :=
  if fits : index < UInt32.size then some ⟨index, fits⟩ else none

/-- Whether this is the root. -/
def isRoot (id : NodeId) : Bool := id.index = 0

/-- The text of an identifier. -/
def text (id : NodeId) : String := "node_" ++ toString id.index

/-- The order of two identifiers is the order of their positions. -/
def order (first second : NodeId) : Ordering := compare first.index second.index

instance : ToString NodeId := ⟨text⟩

/-- Identifiers of the same position are the same. -/
theorem ext_index {first second : NodeId} (same : first.index = second.index) :
    first = second := by
  cases first
  cases second
  simp_all

/-- The position of an identifier gives the identifier back. -/
theorem ofIndex?_index (id : NodeId) : ofIndex? id.index = some id := dif_pos id.index_lt

end NodeId

end DeployTree
