import DeployTree.Proofs.Tree.Protocol
import DeployTree.Proofs.Tree.Wiring

/-! # The depth-first order

Depth-first order is found by a loop with a stack of identifiers: the last one is taken off and
listed, and its children are put on the stack, the first of them last. Nothing in the loop says that
it ends or that it lists a node only once; both follow from the wiring of the arena. It lists what a
recursion lists that goes from a node to its children in their order
(`DeployTree.Tree.Built.depthFirst`).
-/

namespace DeployTree

namespace Arena

variable {ν : Type} {arena : Arena ν} {order stack last : List NodeId} {id lower : NodeId}

/-- Where the loop ends that starts with a list of identifiers and a stack, if it ends. -/
inductive Traverses (arena : Arena ν) : List NodeId → List NodeId → List NodeId → Prop
  | done (order : List NodeId) : Traverses arena order [] order
  | visit {order stack last : List NodeId} {id : NodeId}
      (later : Traverses arena (order ++ [id]) (stack ++ (arena.children id).reverse) last) :
      Traverses arena order (stack ++ [id]) last

private theorem traverses_nil_iff : arena.Traverses order [] last ↔ last = order := by
  constructor
  · intro ends
    generalize empty : ([] : List NodeId) = whole at ends
    cases ends with
    | done => rfl
    | visit later => simp at empty
  · rintro rfl
    exact .done _

private theorem traverses_concat_iff :
    arena.Traverses order (stack ++ [id]) last ↔
      arena.Traverses (order ++ [id]) (stack ++ (arena.children id).reverse) last := by
  constructor
  · intro ends
    generalize top : stack ++ [id] = whole at ends
    cases ends with
    | done => simp at top
    | visit later =>
        obtain ⟨rfl, same⟩ := List.append_inj' top rfl
        obtain rfl := List.singleton_inj.mp same
        exact later
  · exact .visit

/-- A forest on top of the stack is listed before the loop goes on with what lies beneath. -/
theorem traverses_tops_iff {forest : Forest ν} {parent : Option NodeId}
    (stands : forest.StandsIn arena parent) :
    arena.Traverses order (stack ++ forest.tops.reverse) last ↔
      arena.Traverses (order ++ forest.ids) stack last := by
  induction forest generalizing parent order stack with
  | empty => rw [Forest.tops, Forest.ids, List.reverse_nil, List.append_nil, List.append_nil]
  | branch id node below rest ihBelow ihRest =>
      obtain ⟨here, standsBelow, standsRest⟩ := stands
      have children : arena.children id = below.tops := by rw [Arena.children, here]
      rw [Forest.tops, List.reverse_cons, ← List.append_assoc, traverses_concat_iff, children,
        ihBelow standsBelow, ihRest standsRest, Forest.ids]
      simp only [List.append_assoc, List.cons_append, List.nil_append]

private theorem listing_of_lt (inside : id.index < arena.size) :
    arena.listing id = id :: (arena.children id).flatMap arena.listing := by
  obtain ⟨entry, found⟩ := exists_entry?_of_lt inside
  have unfolded := listing_of_entry? found
  rw [unfolded, Arena.children, found]

/-- Whatever is true of a node if it is true of its children is true of all nodes. -/
theorem Wired.inductionBelow (wired : arena.Wired) {holds : NodeId → Prop}
    (step : ∀ id, (∀ child ∈ arena.children id, holds child) → holds id) (id : NodeId) :
    holds id := by
  induction reach : arena.size - id.index using Nat.strongRecOn generalizing id with
  | ind room ih =>
      subst reach
      refine step id fun child member => ih _ ?_ child rfl
      have below := parent?_lt ((wired.children id child).mp member)
      have inside := wired.index_lt_of_mem_children member
      omega

/-- The listing of a node holds the node and what stands below it. -/
theorem Wired.mem_listing_iff (wired : arena.Wired) (inside : id.index < arena.size) :
    lower ∈ arena.listing id ↔ lower = id ∨ arena.IsAbove id lower := by
  induction id using wired.inductionBelow with
  | step id ih =>
      have below (child : NodeId) (member : child ∈ arena.children id) :
          lower ∈ arena.listing child ↔ lower = child ∨ arena.IsAbove child lower :=
        ih child member (wired.index_lt_of_mem_children member)
      rw [listing_of_lt inside, List.mem_cons, List.mem_flatMap]
      refine or_congr_right ⟨?_, fun isAbove => ?_⟩
      · rintro ⟨child, member, listed⟩
        have direct := (wired.children id child).mp member
        rcases (below child member).mp listed with rfl | further
        · exact .single direct
        · exact .head direct further
      · obtain ⟨child, direct, further⟩ := Relation.TransGen.head'_iff.mp isAbove
        have member := (wired.children id child).mpr direct
        refine ⟨child, member, (below child member).mpr ?_⟩
        exact (Relation.reflTransGen_iff_eq_or_transGen.mp further)

/-- The listing of a node is one piece of the listing of every node above it. -/
theorem Wired.exists_listing_eq (wired : arena.Wired) (inside : id.index < arena.size)
    (member : lower ∈ arena.listing id) :
    ∃ front back, arena.listing id = front ++ arena.listing lower ++ back := by
  induction id using wired.inductionBelow with
  | step id ih =>
      have whole := listing_of_lt inside
      rw [whole, List.mem_cons, List.mem_flatMap] at member
      rcases member with rfl | ⟨child, listed, member⟩
      · exact ⟨[], [], by rw [List.nil_append, List.append_nil]⟩
      · have insideChild := wired.index_lt_of_mem_children listed
        obtain ⟨front, back, piece⟩ := ih child listed insideChild member
        obtain ⟨before, after, children⟩ := List.append_of_mem listed
        refine ⟨id :: (before.flatMap arena.listing ++ front),
          back ++ after.flatMap arena.listing, ?_⟩
        rw [whole, children, List.flatMap_append, List.flatMap_cons, piece]
        simp only [List.append_assoc, List.cons_append]

end Arena

namespace Tree

variable {ν : Type} {tree : Tree ν .constructed}

/-- What makes a list of identifiers the depth-first order of a tree. The loop with a stack ends,
and it ends with the order; the order is the listing of the root, and the listing of a node is the
node followed by the listings of its children. Every position in use occurs once and no other does,
and the proper ancestors of a node come before it. A node and what stands below it are its listing,
and this is one piece of the order. -/
structure DepthFirst (tree : Tree ν .constructed) (order : List NodeId) : Prop where
  loop : ∀ last, tree.arena.Traverses [] [.root] last ↔ last = order
  listing : order = tree.arena.listing .root
  recursion : ∀ id, id.index < tree.size →
    tree.arena.listing id = id :: (tree.children id).flatMap tree.arena.listing
  once : (order.map NodeId.index).Perm (List.range tree.size)
  ancestors : ∀ front id back, order = front ++ id :: back →
    ∀ above, tree.arena.IsAbove above id → above ∈ front
  subtree : ∀ id lower, id.index < tree.size →
    (lower ∈ tree.arena.listing id ↔ lower = id ∨ tree.arena.IsAbove id lower)
  contiguous : ∀ id, id.index < tree.size →
    ∃ front back, order = front ++ tree.arena.listing id ++ back

/-- **Depth-first order.** For a tree that is built by adding nodes, in whatever order they came,
the loop with a stack ends with the listing of the root: a node, then the listings of its children
in the order in which they were added. It holds every node once, after all its ancestors and in one
piece with what stands below it. -/
theorem Built.depthFirst (built : tree.Built) : tree.DepthFirst tree.preorder := by
  obtain ⟨node, below, spans⟩ := built.exists_spans
  have wired := built.wired
  have order : tree.preorder = tree.arena.listing .root :=
    spans.preorder_eq_ids.trans spans.listing_root.symm
  refine
    { loop := fun last => ?_
      listing := order
      recursion := fun id => Arena.listing_of_lt
      once := ?_
      ancestors := ?_
      subtree := fun id lower => wired.mem_listing_iff
      contiguous := fun id inside => ?_ }
  · have loop : tree.arena.Traverses [] ([] ++ [NodeId.root]) last ↔
        tree.arena.Traverses ([] ++ _) [] last :=
      spans.root ▸ Arena.traverses_tops_iff spans.stands
    rw [Arena.traverses_nil_iff, List.nil_append, ← spans.preorder_eq_ids] at loop
    exact loop
  · rw [preorder, spans.preorder_eq_ids]
    exact spans.map_index_perm
  · intro front id back split above isAbove
    rw [preorder, spans.preorder_eq_ids] at split
    exact spans.mem_front_of_isAbove split isAbove
  · have member : id ∈ tree.arena.listing .root := by
      rw [spans.listing_root]
      exact spans.mem_ids_iff.mpr inside
    rw [order]
    exact wired.exists_listing_eq wired.root member

/-- With a node added late below the first branch, the order is not that of the positions. -/
theorem depthFirst_lateProbe :
    ∃ tree, lateProbe = .ok tree ∧ tree.Built ∧
      tree.DepthFirst [.root, .wrapping 1, .wrapping 3, .wrapping 2] := by
  obtain ⟨tree, ok⟩ : ∃ tree, lateProbe = .ok tree := ⟨_, rfl⟩
  have built : tree.Built := (Built.root _).addEach ok
  refine ⟨tree, ok, built, ?_⟩
  have order : tree.preorder = [.root, .wrapping 1, .wrapping 3, .wrapping 2] := by
    obtain rfl := Except.ok.inj ok
    decide +kernel
  exact order ▸ built.depthFirst

end Tree

end DeployTree
