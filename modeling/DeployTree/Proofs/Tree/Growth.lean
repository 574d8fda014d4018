import DeployTree.Proofs.Tree.Forest
import DeployTree.Tree

/-! # Trees that grow

A tree is built by adding nodes, each as the last child of a node that it holds already. An arena
*grows* by a forest when this is all that happens to it: the forest stands under a parent, its
branches are the last children of this parent, and everything else is as it was
(`DeployTree.Forest.Grows`). Growth follows the forest: adding a node, then what is below it, then
what comes after it grows the arena by the branch (`DeployTree.Forest.Grows.branch`).
-/

namespace DeployTree

/-- The identifier of a position; positions beyond the last one start over. -/
def NodeId.wrapping (index : Nat) : NodeId := ⟨index % capacity, Nat.mod_lt _ (by decide)⟩

/-- An identifier is the one of its position. -/
theorem NodeId.wrapping_index (id : NodeId) : wrapping id.index = id :=
  NodeId.ext_index (Nat.mod_eq_of_lt id.index_lt)

namespace Tree

variable {ν : Type}

/-- A node that is added has the next free identifier. -/
theorem exists_push_of_add {tree next : Tree ν .constructed} {parent id : NodeId} {node : ν}
    (added : tree.add parent node = .ok (next, id)) :
    ∃ (below : parent.index < tree.arena.size) (free : id.index = tree.arena.size),
      next.arena = tree.arena.push parent id node below free := by
  unfold add at added
  split at added
  · rename_i below
    split at added
    · cases added
      exact ⟨below, rfl, rfl⟩
    · cases added
  · cases added

/-- Where there is room under a known parent, adding succeeds with the next position. -/
theorem add_of_room {tree : Tree ν .constructed} {parent : NodeId} (node : ν)
    (below : parent.index < tree.arena.size) (room : tree.arena.size < NodeId.capacity) :
    ∃ next id, tree.add parent node = .ok (next, id) ∧ next.arena.size = tree.arena.size + 1 ∧
      id.index = tree.arena.size := by
  exact ⟨_, _, (dif_pos below).trans (dif_pos room), Arena.size_push _ _ _ _ below rfl, rfl⟩

end Tree

namespace Forest

variable {ν : Type}

/-- Whether one arena is another one with a forest put under a node: the forest stands there with
identifiers that were not in use, its branches come after the children that the node had, and other
nodes stay as they were. -/
structure Grows (before after : Arena ν) (parent : NodeId) (forest : Forest ν) : Prop where
  size : after.size = before.size + forest.ids.length
  kept : ∀ other : NodeId, other ≠ parent → other.index < before.size →
    after.entry? other = before.entry? other
  hung : after.entry? parent = (before.entry? parent).map fun entry =>
    { entry with children := entry.children ++ forest.tops }
  stands : forest.StandsIn after (some parent)
  fresh : ∀ id ∈ forest.ids, before.size ≤ id.index
  distinct : forest.ids.Nodup

variable {start grown wider last : Arena ν} {parent id : NodeId} {node : ν}
  {below rest : Forest ν}

/-- The empty forest adds nothing. -/
theorem Grows.empty (arena : Arena ν) (parent : NodeId) : Grows arena arena parent .empty where
  size := rfl
  kept _ _ _ := rfl
  hung := by cases arena.entry? parent <;> simp [tops]
  stands := trivial
  fresh _ member := nomatch member
  distinct := List.nodup_nil

/-- An arena grows by a branch when it gets the node, what is below the node, and what comes after
it. -/
theorem Grows.branch (inside : parent.index < start.size) (free : id.index = start.size)
    (added : grown = start.push parent id node inside free) (lower : Grows grown wider id below)
    (later : Grows wider last parent rest) :
    Grows start last parent (.branch id node below rest) := by
  have sizeGrown : grown.size = start.size + 1 := by rw [added, Arena.size_push]
  have sizeWider := lower.size
  have parentOld : parent ≠ id := by
    rintro rfl
    omega
  -- Nodes that were there before are touched by the push only if they are the parent.
  have untouched (other : NodeId) (apart : other ≠ parent) (old : other.index < start.size) :
      wider.entry? other = start.entry? other := by
    have notNew : other ≠ id := by
      rintro rfl
      omega
    rw [lower.kept other notNew (by omega), added, Arena.entry?_push_of_ne _ _ _ _ apart notNew]
  have parentAfter : wider.entry? parent =
      (start.entry? parent).map (Arena.Entry.withChild · id) := by
    rw [lower.kept parent parentOld (by omega), added, Arena.entry?_push_parent]
  have ownAfter : last.entry? id = some ⟨id, some parent, below.tops, node⟩ := by
    rw [later.kept id parentOld.symm (by omega), lower.hung, added, Arena.entry?_push_self]
    rfl
  have belowAfter : below.StandsIn last (some id) := by
    apply lower.stands.congr
    intro other member
    have above := lower.stands.lt_of_mem member
    apply later.kept other _ (lower.stands.index_lt_size member)
    rintro rfl
    omega
  refine ⟨?_, ?_, ?_, ⟨ownAfter, belowAfter, later.stands⟩, ?_, ?_⟩
  · rw [later.size, sizeWider, sizeGrown, ids, List.length_cons, List.length_append]
    omega
  · intro other apart old
    rw [later.kept other apart (by omega), untouched other apart old]
  · rw [later.hung, parentAfter, Option.map_map]
    refine congrArg (Option.map · _) (funext fun entry => ?_)
    simp [Arena.Entry.withChild, tops]
  · intro other member
    rcases List.mem_cons.mp member with same | elsewhere
    · rw [same]
      omega
    · rcases List.mem_append.mp elsewhere with inBelow | inRest
      · have after := lower.fresh other inBelow
        omega
      · have after := later.fresh other inRest
        omega
  · apply nodup_ids_branch.mpr
    refine ⟨⟨?_, ?_⟩, lower.distinct, later.distinct, ?_⟩
    · intro again
      have after := lower.fresh id again
      omega
    · intro again
      have after := later.fresh id again
      omega
    · intro other inBelow inRest
      have before := lower.stands.index_lt_size inBelow
      have after := later.fresh other inRest
      omega

/-- A tree that starts with a root and grows by a forest under it is spanned by the two. -/
theorem Grows.spans (grows : Grows (.ofRoot node) last .root below) :
    (Forest.branch .root node below .empty).Spans last where
  stands := by
    refine ⟨?_, grows.stands, trivial⟩
    rw [grows.hung]
    rfl
  root := rfl
  distinct := by
    apply nodup_ids_branch.mpr
    refine ⟨⟨?_, List.not_mem_nil⟩, grows.distinct, List.nodup_nil, fun _ _ => List.not_mem_nil⟩
    intro again
    have after := grows.fresh _ again
    rw [Arena.size_ofRoot] at after
    exact absurd after (by decide)
  whole := by
    rw [grows.size, Arena.size_ofRoot, ids, List.length_cons, ids, List.append_nil, Nat.add_comm]

end Forest

end DeployTree
