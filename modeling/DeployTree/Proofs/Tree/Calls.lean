import DeployTree.Proofs.Tree.Lineage
import DeployTree.Tree

/-! # The calls of the resolve pass

The resolve pass over a tree calls the resolving of its nodes one after another, up to the first
call that fails (`DeployTree.Tree.calls`). These calls account for everything that the pass does:
its events are theirs, and its outcome is that of the last call, or the arena in which every node is
what its call made of it (`DeployTree.Tree.Leaves`). Nothing is assumed of what the nodes do.
-/

namespace DeployTree

/-- A call of a node's resolving: the arena as it is at that moment, and the entry called. -/
structure Call (ν : Type) where
  id : NodeId
  arena : Arena ν
  entry : Entry ν

namespace Call

variable {ν : Type} [Node ν]

/-- What the called node is handed. -/
def scope (interpolator : Interpolator) (call : Call ν) : ResolveScope ν :=
  ⟨call.entry.id, call.entry.parent, call.arena.viewBelow call.id, interpolator⟩

/-- What the called node does. -/
def run (interpolator : Interpolator) (call : Call ν) : Run ν :=
  Node.resolve (call.scope interpolator) call.entry.node

/-- The events of a call: it is announced, then the node acts. -/
def trail (interpolator : Interpolator) (call : Call ν) : List Event :=
  .resolving call.entry.id (Attributed.kind call.entry.node) :: (call.run interpolator).trail

end Call

/-- Where an entry stands: its identifier, its parent and its children. -/
def Entry.place {ν : Type} (entry : Entry ν) : NodeId × Option NodeId × List NodeId :=
  (entry.id, entry.parent, entry.children)

/-- Where a node has its parent is a matter of places. -/
theorem Arena.parent?_congr {ν : Type} {arena other : Arena ν} {id : NodeId}
    (places : (other.entry? id).map Entry.place = (arena.entry? id).map Entry.place) :
    other.parent? id = arena.parent? id := by
  have parent (arena : Arena ν) :
      arena.parent? id = ((arena.entry? id).map Entry.place).bind fun place => place.2.1 := by
    rw [Arena.parent?, Option.bind_map]
    rfl
  rw [parent, parent, places]

/-- The children of a node are read off its place. -/
theorem Arena.children_congr {ν : Type} {arena other : Arena ν} {id : NodeId}
    (places : (other.entry? id).map Entry.place = (arena.entry? id).map Entry.place) :
    other.children id = arena.children id := by
  have children (arena : Arena ν) :
      arena.children id =
        ((arena.entry? id).map Entry.place).elim [] fun place => place.2.2 := by
    rw [Arena.children]
    cases arena.entry? id with
    | none => rfl
    | some entry => rfl
  rw [children, children, places]

namespace Tree

variable {ν : Type} [Node ν]

/-- The calls that resolving nodes of an arena in turn makes, up to the first that fails. -/
def callsOf (interpolator : Interpolator) : List NodeId → Arena ν → List (Call ν)
  | [], _ => []
  | id :: rest, arena =>
      match arena.entry? id with
      | none => callsOf interpolator rest arena
      | some entry =>
          match (Call.run interpolator ⟨id, arena, entry⟩).outcome with
          | .error _ => [⟨id, arena, entry⟩]
          | .ok node => ⟨id, arena, entry⟩ :: callsOf interpolator rest (arena.replace id node)

/-- The calls that resolving a tree makes. -/
def calls (interpolator : Interpolator) (tree : Tree ν .constructed) : List (Call ν) :=
  callsOf interpolator tree.preorder tree.arena

/-- Whether calls lead from one arena to another: each is made on a node as it was before and has a
value, which is the node afterwards; all other entries stay. -/
structure Leaves (interpolator : Interpolator) (before : Arena ν) (calls : List (Call ν))
    (after : Arena ν) : Prop where
  called : ∀ call ∈ calls, before.entry? call.id = some call.entry ∧
    ∃ node, (call.run interpolator).outcome = .ok node ∧
      after.entry? call.id = some { call.entry with node := node }
  others : ∀ id, id ∉ calls.map Call.id → after.entry? id = before.entry? id

variable {interpolator : Interpolator} {arena after : Arena ν} {id : NodeId} {entry : Entry ν}
  {node : ν} {error : Error} {call : Call ν} {calls earlier later : List (Call ν)}
  {ids rest : List NodeId}

/-- Resolving an entry is a call of it. -/
theorem resolveNode_eq_call (found : arena.entry? id = some entry) :
    resolveNode interpolator arena id =
      ⟨Call.trail interpolator ⟨id, arena, entry⟩,
        (Call.run interpolator ⟨id, arena, entry⟩).outcome.map (arena.replace id)⟩ := by
  rw [resolveNode, found]
  change Run.andThen (Run.emit _) (fun _ =>
    (Call.run interpolator ⟨id, arena, entry⟩).andThen fun node => pure (arena.replace id node)) = _
  cases ended : (Call.run interpolator ⟨id, arena, entry⟩).outcome with
  | error error =>
      rw [Run.andThen_of_error ended]
      rfl
  | ok node =>
      rw [Run.andThen_of_ok ended, Run.pure_eq, List.append_nil]
      rfl

private theorem resolveNodes_cons_of_ok (found : arena.entry? id = some entry)
    (ok : (Call.run interpolator ⟨id, arena, entry⟩).outcome = .ok node) :
    resolveNodes interpolator (id :: rest) arena =
      ⟨Call.trail interpolator ⟨id, arena, entry⟩ ++
          (resolveNodes interpolator rest (arena.replace id node)).trail,
        (resolveNodes interpolator rest (arena.replace id node)).outcome⟩ := by
  rw [resolveNodes, resolveNode_eq_call found, ok, Run.bind_eq]
  exact Run.andThen_of_ok rfl _

private theorem resolveNodes_cons_of_error (found : arena.entry? id = some entry)
    (failed : (Call.run interpolator ⟨id, arena, entry⟩).outcome = .error error) :
    resolveNodes interpolator (id :: rest) arena =
      ⟨Call.trail interpolator ⟨id, arena, entry⟩, .error error⟩ := by
  rw [resolveNodes, resolveNode_eq_call found, failed, Run.bind_eq]
  exact Run.andThen_of_error rfl _

/-- The events of resolving nodes in turn are those of the calls. -/
theorem trail_resolveNodes (interpolator : Interpolator) (ids : List NodeId) (arena : Arena ν) :
    (resolveNodes interpolator ids arena).trail =
      (callsOf interpolator ids arena).flatMap (Call.trail interpolator) := by
  fun_induction callsOf interpolator ids arena with
  | case1 arena => rfl
  | case2 id rest arena absent ih =>
      rw [resolveNodes, resolveNode, absent, pure_bind, ih]
  | case3 id rest arena entry found error failed =>
      rw [resolveNodes_cons_of_error found failed, List.flatMap_singleton]
  | case4 id rest arena entry found node ok ih =>
      rw [resolveNodes_cons_of_ok found ok, ih, List.flatMap_cons]

omit [Node ν] in
private theorem present_replace (present : ∀ later ∈ id :: rest, later.index < arena.size)
    (node : ν) :
    ∀ later ∈ rest, later.index < (arena.replace id node).size := by
  intro later member
  rw [Arena.size_replace]
  exact present later (List.mem_cons_of_mem _ member)

/-- The calls follow the order of the nodes. -/
theorem ids_callsOf_isPrefix (present : ∀ id ∈ ids, id.index < arena.size) :
    (callsOf interpolator ids arena).map Call.id <+: ids := by
  fun_induction callsOf interpolator ids arena with
  | case1 arena => exact List.nil_prefix
  | case2 id rest arena absent ih =>
      exact absurd absent (Arena.entry?_ne_none (present id List.mem_cons_self))
  | case3 id rest arena entry found error failed =>
      exact (List.prefix_cons_inj id).mpr List.nil_prefix
  | case4 id rest arena entry found node ok ih =>
      exact (List.prefix_cons_inj id).mpr (ih (present_replace present node))

private theorem Leaves.refl (arena : Arena ν) : Leaves interpolator arena [] arena where
  called _ member := nomatch member
  others _ _ := rfl

/-- A call with a value comes before the calls on the arena that it leaves. -/
theorem Leaves.cons (found : arena.entry? id = some entry)
    (ok : (Call.run interpolator ⟨id, arena, entry⟩).outcome = .ok node)
    (apart : id ∉ calls.map Call.id)
    (leaves : Leaves interpolator (arena.replace id node) calls after) :
    Leaves interpolator arena (⟨id, arena, entry⟩ :: calls) after where
  called := by
    intro call member
    rcases List.mem_cons.mp member with rfl | later
    · refine ⟨found, node, ok, ?_⟩
      rw [leaves.others id apart, Arena.entry?_replace_self found]
    · obtain ⟨before, value⟩ := leaves.called call later
      have different : call.id ≠ id := by
        rintro rfl
        exact apart (List.mem_map_of_mem later)
      rw [Arena.entry?_replace_of_ne _ different] at before
      exact ⟨before, value⟩
  others := by
    intro other absent
    rw [List.map_cons, List.mem_cons, not_or] at absent
    rw [leaves.others other absent.2, Arena.entry?_replace_of_ne _ absent.1]

/-- The calls that come before another one lead to the arena in which that is made. -/
theorem leaves_of_split (distinct : ids.Nodup) (present : ∀ id ∈ ids, id.index < arena.size)
    (split : callsOf interpolator ids arena = earlier ++ call :: later) :
    Leaves interpolator arena earlier call.arena ∧
      call.arena.entry? call.id = some call.entry := by
  fun_induction callsOf interpolator ids arena generalizing earlier with
  | case1 arena => simp at split
  | case2 id rest arena absent ih =>
      exact absurd absent (Arena.entry?_ne_none (present id List.mem_cons_self))
  | case3 id rest arena entry found error failed =>
      cases earlier with
      | nil =>
          obtain ⟨rfl, -⟩ := List.cons.inj split
          exact ⟨.refl arena, found⟩
      | cons first between => simp at split
  | case4 id rest arena entry found node ok ih =>
      rw [List.nodup_cons] at distinct
      cases earlier with
      | nil =>
          obtain ⟨rfl, -⟩ := List.cons.inj split
          exact ⟨.refl arena, found⟩
      | cons first between =>
          rw [List.cons_append] at split
          obtain ⟨rfl, splitRest⟩ := List.cons.inj split
          have presentRest := present_replace present node
          obtain ⟨leaves, called⟩ := ih distinct.2 presentRest splitRest
          refine ⟨leaves.cons found ok ?_, called⟩
          intro again
          apply distinct.1
          apply (ids_callsOf_isPrefix presentRest).subset
          rw [splitRest, List.map_append]
          exact List.mem_append_left _ again

/-- Resolving nodes in turn calls all of them when it succeeds, and leaves what they make. -/
theorem leaves_of_ok (distinct : ids.Nodup) (present : ∀ id ∈ ids, id.index < arena.size)
    (ok : (resolveNodes interpolator ids arena).outcome = .ok after) :
    Leaves interpolator arena (callsOf interpolator ids arena) after ∧
      (callsOf interpolator ids arena).map Call.id = ids := by
  fun_induction callsOf interpolator ids arena with
  | case1 arena =>
      obtain rfl : arena = after := by simpa [resolveNodes] using ok
      exact ⟨.refl arena, rfl⟩
  | case2 id rest arena absent ih =>
      exact absurd absent (Arena.entry?_ne_none (present id List.mem_cons_self))
  | case3 id rest arena entry found error failed =>
      rw [resolveNodes_cons_of_error found failed] at ok
      cases ok
  | case4 id rest arena entry found node value ih =>
      rw [resolveNodes_cons_of_ok found value] at ok
      rw [List.nodup_cons] at distinct
      obtain ⟨leaves, same⟩ := ih distinct.2 (present_replace present node) ok
      refine ⟨leaves.cons found value ?_, congrArg (id :: ·) same⟩
      rw [same]
      exact distinct.1

/-- Resolution adds no nodes. -/
theorem size_of_resolveNodes (ok : (resolveNodes interpolator ids arena).outcome = .ok after) :
    after.size = arena.size := by
  fun_induction callsOf interpolator ids arena with
  | case1 arena =>
      obtain rfl : arena = after := by simpa [resolveNodes] using ok
      rfl
  | case2 id rest arena absent ih =>
      rw [resolveNodes, resolveNode, absent, pure_bind] at ok
      exact ih ok
  | case3 id rest arena entry found error failed =>
      rw [resolveNodes_cons_of_error found failed] at ok
      cases ok
  | case4 id rest arena entry found node value ih =>
      rw [resolveNodes_cons_of_ok found value] at ok
      rw [ih ok, Arena.size_replace]

/-- A call that fails is the last one and gives the outcome. -/
theorem outcome_of_failed (present : ∀ id ∈ ids, id.index < arena.size)
    (split : callsOf interpolator ids arena = earlier ++ call :: later)
    (failed : (call.run interpolator).outcome = .error error) :
    later = [] ∧ (resolveNodes interpolator ids arena).outcome = .error error := by
  fun_induction callsOf interpolator ids arena generalizing earlier with
  | case1 arena => simp at split
  | case2 id rest arena absent ih =>
      exact absurd absent (Arena.entry?_ne_none (present id List.mem_cons_self))
  | case3 id rest arena entry found cause ended =>
      cases earlier with
      | nil =>
          obtain ⟨rfl, same⟩ := List.cons.inj split
          rw [resolveNodes_cons_of_error found failed]
          exact ⟨same.symm, rfl⟩
      | cons first between => simp at split
  | case4 id rest arena entry found node ok ih =>
      cases earlier with
      | nil =>
          obtain ⟨rfl, -⟩ := List.cons.inj split
          rw [ok] at failed
          cases failed
      | cons first between =>
          rw [List.cons_append] at split
          obtain ⟨rfl, splitRest⟩ := List.cons.inj split
          rw [resolveNodes_cons_of_ok found ok]
          exact ih (present_replace present node) splitRest

/-- Where resolving nodes in turn fails, one of the calls failed. -/
theorem exists_failed_of_error
    (failed : (resolveNodes interpolator ids arena).outcome = .error error) :
    ∃ call ∈ callsOf interpolator ids arena, (call.run interpolator).outcome = .error error := by
  fun_induction callsOf interpolator ids arena with
  | case1 arena => cases failed
  | case2 id rest arena absent ih =>
      rw [resolveNodes, resolveNode, absent, pure_bind] at failed
      exact ih failed
  | case3 id rest arena entry found cause ended =>
      rw [resolveNodes_cons_of_error found ended] at failed
      obtain rfl : cause = error := Except.error.inj failed
      exact ⟨_, List.mem_cons_self, ended⟩
  | case4 id rest arena entry found node ok ih =>
      rw [resolveNodes_cons_of_ok found ok] at failed
      obtain ⟨call, member, ended⟩ := ih failed
      exact ⟨call, List.mem_cons_of_mem _ member, ended⟩

/-- Calls leave every entry in its place. -/
theorem Leaves.place (leaves : Leaves interpolator arena calls after) (id : NodeId) :
    (after.entry? id).map Entry.place = (arena.entry? id).map Entry.place := by
  by_cases member : id ∈ calls.map Call.id
  · obtain ⟨call, listed, rfl⟩ := List.mem_map.mp member
    obtain ⟨before, node, -, now⟩ := leaves.called call listed
    rw [before, now]
    rfl
  · rw [leaves.others id member]

/-- Calls leave the parents of nodes. -/
theorem Leaves.parent? (leaves : Leaves interpolator arena calls after) (id : NodeId) :
    after.parent? id = arena.parent? id :=
  Arena.parent?_congr (leaves.place id)

/-- Resolving nodes in turn leaves every entry in its place. -/
theorem place_of_resolveNodes (ok : (resolveNodes interpolator ids arena).outcome = .ok after)
    (id : NodeId) :
    (after.entry? id).map Entry.place = (arena.entry? id).map Entry.place := by
  fun_induction callsOf interpolator ids arena with
  | case1 arena =>
      obtain rfl : arena = after := by simpa [resolveNodes] using ok
      rfl
  | case2 first rest arena absent ih =>
      rw [resolveNodes, resolveNode, absent, pure_bind] at ok
      exact ih ok
  | case3 first rest arena entry found error failed =>
      rw [resolveNodes_cons_of_error found failed] at ok
      cases ok
  | case4 first rest arena entry found node value ih =>
      rw [resolveNodes_cons_of_ok found value] at ok
      rw [ih ok]
      by_cases same : id = first
      · subst same
        rw [Arena.entry?_replace_self found, found]
        rfl
      · rw [Arena.entry?_replace_of_ne _ same]

end Tree

end DeployTree
