import DeployTree.Proofs.Tree.Growth
import DeployTree.Proofs.Tree.Lineage

/-! # Trees that are built node by node

A tree is *built* when it comes from a root by adding nodes, each under any node that the tree holds
by then (`DeployTree.Tree.Built`); the built trees are those that some list of additions gives
(`DeployTree.Tree.built_iff_exists_addEach`). What is added to one subtree may come between the
additions to another, so identifiers say little about the place of a node. The forest that spans an
arena gets a new leaf with every addition (`DeployTree.Forest.Spans.push`); hence every built tree
is spanned by a forest (`DeployTree.Tree.Built.exists_spans`), in whatever order its nodes came.
-/

namespace DeployTree

/-- Whether a tree comes from a root by adding nodes one after another. -/
inductive Tree.Built {ν : Type} : Tree ν .constructed → Prop
  | root (node : ν) : Built (ofRoot node)
  | add {tree next : Tree ν .constructed} {parent id : NodeId} {node : ν}
      (built : Built tree) (added : tree.add parent node = .ok (next, id)) : Built next

namespace Tree

variable {ν : Type} {tree next last : Tree ν .constructed} {nodes more : List (NodeId × ν)}

/-- The tree with nodes added in turn, each under a given parent. -/
def addEach (tree : Tree ν .constructed) : List (NodeId × ν) → Except Error (Tree ν .constructed)
  | [] => .ok tree
  | (parent, node) :: rest => do
      let (next, _) ← tree.add parent node
      next.addEach rest

private theorem addEach_append (ok : tree.addEach nodes = .ok next)
    (later : next.addEach more = .ok last) :
    tree.addEach (nodes ++ more) = .ok last := by
  induction nodes generalizing tree with
  | nil =>
      obtain rfl : tree = next := Except.ok.inj ok
      exact later
  | cons first rest ih =>
      obtain ⟨grown, added, ok⟩ := bind_eq_ok_iff.mp ok
      exact bind_eq_ok_iff.mpr ⟨grown, added, ih ok⟩

/-- Adding nodes in turn keeps a tree built. -/
theorem Built.addEach (built : tree.Built) (ok : tree.addEach nodes = .ok next) : next.Built := by
  induction nodes generalizing tree with
  | nil =>
      obtain rfl : tree = next := Except.ok.inj ok
      exact built
  | cons first rest ih =>
      obtain ⟨⟨grown, id⟩, added, ok⟩ := bind_eq_ok_iff.mp ok
      exact ih (built.add added) ok

/-- The built trees are those that come from a root by adding nodes in turn. -/
theorem built_iff_exists_addEach :
    tree.Built ↔ ∃ root nodes, (ofRoot root).addEach nodes = .ok tree := by
  constructor
  · intro built
    induction built with
    | root node => exact ⟨node, [], rfl⟩
    | @add tree next parent id node _ added ih =>
        obtain ⟨root, nodes, ok⟩ := ih
        have last : tree.addEach [(parent, node)] = .ok next :=
          bind_eq_ok_iff.mpr ⟨(next, id), added, rfl⟩
        exact ⟨root, nodes ++ [(parent, node)], addEach_append ok last⟩
  · rintro ⟨root, nodes, ok⟩
    exact (Built.root root).addEach ok

end Tree

namespace Forest

variable {ν : Type}

/-- The forest with a leaf for its last branch. -/
def snoc (id : NodeId) (node : ν) : Forest ν → Forest ν
  | empty => branch id node empty empty
  | branch top own below rest => branch top own below (rest.snoc id node)

/-- The forest with a leaf for the last child of one of its nodes. -/
def graft (parent id : NodeId) (node : ν) : Forest ν → Forest ν
  | empty => empty
  | branch top own below rest =>
      if top = parent then branch top own (below.snoc id node) rest
      else branch top own (below.graft parent id node) (rest.graft parent id node)

variable {arena : Arena ν} {forest : Forest ν} {parent id : NodeId} {above : Option NodeId}
  {node : ν}

private theorem tops_snoc (id : NodeId) (node : ν) (forest : Forest ν) :
    (forest.snoc id node).tops = forest.tops ++ [id] := by
  induction forest with
  | empty => rfl
  | branch top own below rest _ ihRest => rw [snoc, tops, tops, ihRest, List.cons_append]

private theorem ids_snoc (id : NodeId) (node : ν) (forest : Forest ν) :
    (forest.snoc id node).ids = forest.ids ++ [id] := by
  induction forest with
  | empty => rfl
  | branch top own below rest _ ihRest =>
      rw [snoc, ids, ids, ihRest, List.cons_append, List.append_assoc]

private theorem tops_graft (parent id : NodeId) (node : ν) (forest : Forest ν) :
    (forest.graft parent id node).tops = forest.tops := by
  induction forest with
  | empty => rfl
  | branch top own below rest _ ihRest =>
      rw [graft]
      split
      · rfl
      · rw [tops, tops, ihRest]

private theorem graft_of_notMem (outside : parent ∉ forest.ids) :
    forest.graft parent id node = forest := by
  induction forest with
  | empty => rfl
  | branch top own below rest ihBelow ihRest =>
      simp only [ids, List.mem_cons, List.mem_append, not_or] at outside
      obtain ⟨apart, notBelow, notRest⟩ := outside
      rw [graft, if_neg (Ne.symm apart), ihBelow notBelow, ihRest notRest]

/-- Grafting a leaf onto a node of the forest adds one identifier. -/
theorem ids_graft_perm (distinct : forest.ids.Nodup) (member : parent ∈ forest.ids) :
    (forest.graft parent id node).ids.Perm (id :: forest.ids) := by
  induction forest with
  | empty => cases member
  | branch top own below rest ihBelow ihRest =>
      obtain ⟨-, distinctBelow, distinctRest, disjoint⟩ := nodup_ids_branch.mp distinct
      rw [graft, ids]
      split
      · rw [ids, ids_snoc, List.append_assoc]
        exact (List.perm_middle.cons top).trans (.swap id top _)
      · rename_i apart
        rw [ids]
        have inside : parent ∈ below.ids ∨ parent ∈ rest.ids := by
          rcases List.mem_cons.mp member with same | elsewhere
          · exact absurd same.symm apart
          · exact List.mem_append.mp elsewhere
        rcases inside with inBelow | inRest
        · rw [graft_of_notMem (disjoint parent inBelow)]
          exact (((ihBelow distinctBelow inBelow).append_right _).cons top).trans (.swap id top _)
        · rw [graft_of_notMem (fun inBelow => disjoint parent inBelow inRest)]
          have moved := (ihRest distinctRest inRest).append_left below.ids
          exact ((moved.trans List.perm_middle).cons top).trans (.swap id top _)

private theorem StandsIn.snoc (stands : forest.StandsIn arena above)
    (leaf : arena.entry? id = some ⟨id, above, [], node⟩) :
    (forest.snoc id node).StandsIn arena above := by
  induction forest with
  | empty => exact ⟨leaf, trivial, trivial⟩
  | branch top own below rest _ ihRest =>
      obtain ⟨here, standsBelow, standsRest⟩ := stands
      exact ⟨here, standsBelow, ihRest standsRest⟩

section Push

variable (inside : parent.index < arena.size) (free : id.index = arena.size)

/-- A forest stays when a node is added under one that is not in it. -/
theorem StandsIn.push (stands : forest.StandsIn arena above) (outside : parent ∉ forest.ids) :
    forest.StandsIn (arena.push parent id node inside free) above := by
  apply stands.congr
  intro other member
  apply Arena.entry?_push_of_ne
  · rintro rfl
    exact outside member
  · rintro rfl
    exact absurd (stands.index_lt_size member) (by omega)

/-- A forest gets a leaf when a node is added to the arena in which it stands. -/
theorem StandsIn.graft (stands : forest.StandsIn arena above) (distinct : forest.ids.Nodup) :
    (forest.graft parent id node).StandsIn (arena.push parent id node inside free) above := by
  induction forest generalizing above with
  | empty => trivial
  | branch top own below rest ihBelow ihRest =>
      obtain ⟨here, standsBelow, standsRest⟩ := stands
      obtain ⟨⟨notBelow, notRest⟩, distinctBelow, distinctRest, -⟩ := nodup_ids_branch.mp distinct
      have old : top.index < arena.size := Arena.index_lt_of_entry? here
      rw [Forest.graft]
      split
      · rename_i same
        subst same
        refine ⟨?_, ?_, standsRest.push inside free notRest⟩
        · rw [Arena.entry?_push_parent, here, tops_snoc]
          rfl
        · exact (standsBelow.push inside free notBelow).snoc (Arena.entry?_push_self ..)
      · rename_i apart
        have notNew : top ≠ id := by
          rintro rfl
          omega
        refine ⟨?_, ihBelow standsBelow distinctBelow, ihRest standsRest distinctRest⟩
        rw [Arena.entry?_push_of_ne _ _ _ _ apart notNew, here, tops_graft]

end Push

/-- **Adding a node.** The forest that spans an arena spans it with a leaf more when a node is
added. -/
theorem Spans.push (spans : forest.Spans arena) (inside : parent.index < arena.size)
    (free : id.index = arena.size) :
    (forest.graft parent id node).Spans (arena.push parent id node inside free) := by
  have added : (forest.graft parent id node).ids.Perm (id :: forest.ids) :=
    ids_graft_perm spans.distinct (spans.mem_ids_iff.mpr inside)
  refine
    { stands := spans.stands.graft inside free spans.distinct
      root := by rw [tops_graft, spans.root]
      distinct := ?_
      whole := by rw [added.length_eq, List.length_cons, spans.whole, Arena.size_push] }
  rw [added.nodup_iff, List.nodup_cons, spans.mem_ids_iff]
  exact ⟨by omega, spans.distinct⟩

private theorem spans_ofRoot (node : ν) :
    (branch .root node empty empty).Spans (Arena.ofRoot node) :=
  (Grows.empty (Arena.ofRoot node) .root).spans

/-- A forest with the root for its only branch is the root and what is below it. -/
theorem Spans.exists_branch (spans : forest.Spans arena) :
    ∃ node below, forest = branch .root node below empty := by
  have root := spans.root
  cases forest with
  | empty => cases root
  | branch id node below rest =>
      rw [tops, List.cons.injEq] at root
      obtain ⟨rfl, alone⟩ := root
      cases rest with
      | empty => exact ⟨node, below, rfl⟩
      | branch => cases alone

end Forest

/-- **Built trees.** Every built tree is spanned by a forest under its root. -/
theorem Tree.Built.exists_spans {ν : Type} {tree : Tree ν .constructed} (built : tree.Built) :
    ∃ node below, (Forest.branch .root node below .empty).Spans tree.arena := by
  induction built with
  | root node => exact ⟨node, .empty, Forest.spans_ofRoot node⟩
  | @add tree next parent id leaf built added ih =>
      obtain ⟨node, below, spans⟩ := ih
      obtain ⟨inside, free, pushed⟩ := exists_push_of_add added
      have grown : (Forest.graft parent id leaf (.branch .root node below .empty)).Spans
          next.arena := pushed ▸ spans.push inside free
      obtain ⟨own, wider, same⟩ := grown.exists_branch
      exact ⟨own, wider, same ▸ grown⟩

end DeployTree
