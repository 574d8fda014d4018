import DeployTree.Tree.Arena

/-! # Forests in an arena

An arena keeps a tree in one array. A forest writes the same nodes down as what they are: a list of
branches, each with its identifier, its node and the forest below it. A forest *stands in* an arena
under a parent when every branch is an entry of the arena with this parent and these children
(`DeployTree.Forest.StandsIn`). The walk through the arena then lists the forest from the front
(`DeployTree.Forest.walk_tops`). Replacing all the nodes of a forest leaves everything else where it
was, and the new nodes stand where the old ones stood (`DeployTree.Forest.standsIn_rewrite`).
-/

namespace DeployTree

/-- Branches side by side: each is a node with the forest below it, followed by the other
branches. -/
inductive Forest (ν : Type) where
  | empty
  | branch (id : NodeId) (node : ν) (below rest : Forest ν)

namespace Forest

variable {ν : Type}

/-- The identifiers of the branches. -/
def tops : Forest ν → List NodeId
  | empty => []
  | branch id _ _ rest => id :: tops rest

/-- All identifiers, branch by branch, each before those below it. -/
def ids : Forest ν → List NodeId
  | empty => []
  | branch id _ below rest => id :: (ids below ++ ids rest)

/-- All nodes, in the order of their identifiers. -/
def nodes : Forest ν → List ν
  | empty => []
  | branch _ node below rest => node :: (nodes below ++ nodes rest)

/-- The forest without its nodes. -/
def outline : Forest ν → Forest Unit
  | empty => empty
  | branch id _ below rest => branch id () (outline below) (outline rest)

/-- Whether every branch is an entry of the arena, under the parent and with its own branches for
children. -/
def StandsIn (arena : Arena ν) : Option NodeId → Forest ν → Prop
  | _, empty => True
  | parent, branch id node below rest =>
      arena.entry? id = some ⟨id, parent, below.tops, node⟩ ∧
        below.StandsIn arena (some id) ∧ rest.StandsIn arena parent

/-- The arena with the nodes of a forest in the place of its own. -/
def rewrite (arena : Arena ν) : Forest ν → Arena ν
  | empty => arena
  | branch id node below rest => rest.rewrite (below.rewrite (arena.replace id node))

variable {arena other : Arena ν} {parent : Option NodeId} {forest next : Forest ν} {id : NodeId}

/-- The outline of a forest has its identifiers. -/
@[simp] theorem ids_outline (forest : Forest ν) : forest.outline.ids = forest.ids := by
  induction forest with
  | empty => rfl
  | branch id node below rest ihBelow ihRest => simp [outline, ids, ihBelow, ihRest]

/-- The outline of a forest has its branches. -/
@[simp] theorem tops_outline (forest : Forest ν) : forest.outline.tops = forest.tops := by
  induction forest with
  | empty => rfl
  | branch id node below rest _ ihRest => simp [outline, tops, ihRest]

/-- Forests of one outline have the same identifiers. -/
theorem ids_eq_of_outline_eq (same : next.outline = forest.outline) : next.ids = forest.ids := by
  rw [← ids_outline, same, ids_outline]

/-- Forests of one outline have the same branches. -/
theorem tops_eq_of_outline_eq (same : next.outline = forest.outline) :
    next.tops = forest.tops := by
  rw [← tops_outline, same, tops_outline]

/-- What stands in an arena stands in any other that has the same entries for it. -/
theorem StandsIn.congr (stands : forest.StandsIn arena parent)
    (agree : ∀ id ∈ forest.ids, other.entry? id = arena.entry? id) :
    forest.StandsIn other parent := by
  induction forest generalizing parent with
  | empty => trivial
  | branch id node below rest ihBelow ihRest =>
      obtain ⟨here, standsBelow, standsRest⟩ := stands
      refine ⟨?_, ihBelow standsBelow ?_, ihRest standsRest ?_⟩
      · rw [agree id (by simp [ids]), here]
      · intro lower member
        exact agree lower (by simp [ids, member])
      · intro later member
        exact agree later (by simp [ids, member])

/-- Whatever stands under a parent lies above it. -/
theorem StandsIn.lt_of_mem {above : NodeId} (stands : forest.StandsIn arena (some above))
    (member : id ∈ forest.ids) : above.index < id.index := by
  induction forest generalizing above with
  | empty => cases member
  | branch top node below rest ihBelow ihRest =>
      obtain ⟨here, standsBelow, standsRest⟩ := stands
      have lower : above.index < top.index := Arena.parent_lt_of_entry? here rfl
      rcases List.mem_cons.mp member with same | inside
      · rw [same]
        exact lower
      · rcases List.mem_append.mp inside with inBelow | inRest
        · exact Nat.lt_trans lower (ihBelow standsBelow inBelow)
        · exact ihRest standsRest inRest

/-- The identifiers of a forest in an arena are in use there. -/
theorem StandsIn.index_lt_size (stands : forest.StandsIn arena parent) (member : id ∈ forest.ids) :
    id.index < arena.size := by
  induction forest generalizing parent with
  | empty => cases member
  | branch top node below rest ihBelow ihRest =>
      obtain ⟨here, standsBelow, standsRest⟩ := stands
      rcases List.mem_cons.mp member with same | inside
      · rw [same]
        exact Arena.index_lt_of_entry? here
      · rcases List.mem_append.mp inside with inBelow | inRest
        · exact ihBelow standsBelow inBelow
        · exact ihRest standsRest inRest

/-- The walk that starts with the branches of a forest lists the forest first. -/
theorem walk_tops (stands : forest.StandsIn arena parent) (steps : Nat) (stack : List NodeId) :
    arena.walk (forest.ids.length + steps) (forest.tops ++ stack) =
      forest.ids ++ arena.walk steps stack := by
  induction forest generalizing parent steps stack with
  | empty => simp [ids, tops]
  | branch id node below rest ihBelow ihRest =>
      obtain ⟨here, standsBelow, standsRest⟩ := stands
      have children : arena.children id = below.tops := by rw [Arena.children, here]
      have count : (branch id node below rest).ids.length + steps =
          (below.ids.length + (rest.ids.length + steps)) + 1 := by
        simp only [ids, List.length_cons, List.length_append]
        omega
      calc arena.walk ((branch id node below rest).ids.length + steps)
              ((branch id node below rest).tops ++ stack)
          = id :: arena.walk (below.ids.length + (rest.ids.length + steps))
              (below.tops ++ (rest.tops ++ stack)) := by
            rw [count, tops, List.cons_append, Arena.walk, children]
        _ = id :: (below.ids ++ (rest.ids ++ arena.walk steps stack)) := by
            rw [ihBelow standsBelow, ihRest standsRest]
        _ = (branch id node below rest).ids ++ arena.walk steps stack := by
            simp [ids]

/-- A forest that holds the whole arena under the root is its pre-order. -/
theorem preorder_eq_ids (stands : forest.StandsIn arena parent) (root : forest.tops = [NodeId.root])
    (whole : forest.ids.length = arena.size) : arena.preorder = forest.ids := by
  have walked := walk_tops stands 0 []
  rw [Arena.walk, List.append_nil, List.append_nil, Nat.add_zero, root, whole] at walked
  exact walked

/-- Rewriting adds no nodes. -/
@[simp] theorem size_rewrite (forest : Forest ν) (arena : Arena ν) :
    (forest.rewrite arena).size = arena.size := by
  induction forest generalizing arena with
  | empty => rfl
  | branch id node below rest ihBelow ihRest => simp [rewrite, ihBelow, ihRest]

/-- Replacing the nodes of a forest leaves all other entries alone. -/
theorem entry?_rewrite_of_notMem (outside : id ∉ forest.ids) :
    Arena.entry? (forest.rewrite arena) id = arena.entry? id := by
  induction forest generalizing arena with
  | empty => rfl
  | branch top node below rest ihBelow ihRest =>
      simp only [ids, List.mem_cons, List.mem_append, not_or] at outside
      obtain ⟨apart, notBelow, notRest⟩ := outside
      rw [rewrite, ihRest notRest, ihBelow notBelow, Arena.entry?_replace_of_ne _ apart]

/-- The identifiers of a branch and its neighbours are distinct part by part. -/
theorem nodup_ids_branch {node : ν} {below rest : Forest ν} :
    (branch id node below rest).ids.Nodup ↔
      (id ∉ below.ids ∧ id ∉ rest.ids) ∧
        below.ids.Nodup ∧ rest.ids.Nodup ∧ ∀ lower ∈ below.ids, lower ∉ rest.ids := by
  have apart : (∀ lower ∈ below.ids, ∀ later ∈ rest.ids, lower ≠ later) ↔
      ∀ lower ∈ below.ids, lower ∉ rest.ids := by
    constructor
    · intro different lower member again
      exact different lower member lower again rfl
    · rintro disjoint lower member later again rfl
      exact disjoint lower member again
  rw [ids, List.nodup_cons, List.nodup_append, apart, List.mem_append, not_or]

/-- A forest stays when a node outside it is replaced. -/
theorem StandsIn.replace {top : NodeId} (stands : forest.StandsIn arena parent)
    (outside : top ∉ forest.ids) (node : ν) : forest.StandsIn (arena.replace top node) parent := by
  apply stands.congr
  intro id member
  apply Arena.entry?_replace_of_ne
  rintro rfl
  exact outside member

/-- A forest stays when the nodes of another one are replaced. -/
theorem StandsIn.rewrite (stands : forest.StandsIn arena parent)
    (disjoint : ∀ id ∈ forest.ids, id ∉ next.ids) :
    forest.StandsIn (next.rewrite arena) parent := by
  apply stands.congr
  intro id member
  exact entry?_rewrite_of_notMem (disjoint id member)

/-- Nodes stand in the arena in the places of those that they replace. -/
theorem standsIn_rewrite (stands : forest.StandsIn arena parent) (distinct : forest.ids.Nodup)
    (same : next.outline = forest.outline) : next.StandsIn (next.rewrite arena) parent := by
  induction forest generalizing arena parent next with
  | empty =>
      cases next with
      | empty => trivial
      | branch => cases same
  | branch id node below rest ihBelow ihRest =>
      cases next with
      | empty => cases same
      | branch top own lower others =>
          obtain ⟨rfl, sameBelow, sameRest⟩ :
              top = id ∧ lower.outline = below.outline ∧ others.outline = rest.outline := by
            simpa [outline] using same
          obtain ⟨here, standsBelow, standsRest⟩ := stands
          obtain ⟨⟨notBelow, notRest⟩, distinctBelow, distinctRest, disjoint⟩ :=
            nodup_ids_branch.mp distinct
          have idsBelow := ids_eq_of_outline_eq sameBelow
          have idsRest := ids_eq_of_outline_eq sameRest
          have replaced := Arena.entry?_replace_self here own
          have standsLower := ihBelow (standsBelow.replace notBelow own) distinctBelow sameBelow
          have restAfter : rest.StandsIn (lower.rewrite (arena.replace top own)) parent := by
            apply (standsRest.replace notRest own).rewrite
            intro later inRest inBelow
            exact disjoint later (idsBelow ▸ inBelow) inRest
          refine ⟨?_, ?_, ihRest restAfter distinctRest sameRest⟩
          · rw [Forest.rewrite, entry?_rewrite_of_notMem (idsRest ▸ notRest),
              entry?_rewrite_of_notMem (idsBelow ▸ notBelow), replaced,
              tops_eq_of_outline_eq sameBelow]
          · apply standsLower.rewrite
            intro member inBelow inRest
            exact disjoint member (idsBelow ▸ inBelow) (idsRest ▸ inRest)

/-- Whether a forest is the whole tree that an arena holds: it has the root for its only branch, no
identifier occurs twice, and none is left out. -/
structure Spans (forest : Forest ν) (arena : Arena ν) : Prop where
  stands : forest.StandsIn arena none
  root : forest.tops = [NodeId.root]
  distinct : forest.ids.Nodup
  whole : forest.ids.length = arena.size

/-- The depth-first order is the order of the forest that the arena holds. -/
theorem Spans.preorder_eq_ids (spans : forest.Spans arena) : arena.preorder = forest.ids :=
  Forest.preorder_eq_ids spans.stands spans.root spans.whole

/-- A forest with other nodes spans the arena in which they have been put. -/
theorem Spans.rewrite (spans : forest.Spans arena) (same : next.outline = forest.outline) :
    next.Spans (next.rewrite arena) where
  stands := standsIn_rewrite spans.stands spans.distinct same
  root := by rw [tops_eq_of_outline_eq same, spans.root]
  distinct := by rw [ids_eq_of_outline_eq same]; exact spans.distinct
  whole := by rw [ids_eq_of_outline_eq same, spans.whole, size_rewrite]

end Forest

end DeployTree
