import DeployTree.Proofs.Tree.Building
import DeployTree.Proofs.Tree.Calls
import DeployTree.Schema.Element

/-! # The protocol of the resolve pass

Whatever the nodes of a tree do when they are resolved, the pass over a tree that is built keeps a
protocol (`DeployTree.Tree.Protocol`). Its calls follow the depth-first listing. A node that is
called finds its ancestors resolved, each as its own call has left it, and can see neither itself
nor what stands below it. The first failure ends the pass, and a pass that succeeds leaves every
node in its place. None of this depends on the order in which the nodes were added
(`DeployTree.Tree.Built.protocol`).
-/

namespace DeployTree

namespace Tree

variable {ν : Type} [Node ν]

/-- What a resolve pass over a tree does, call by call. The events of the pass are those of the
calls, and the last one that all is done (`trail`). The calls follow the depth-first listing, each
node is called at most once, and what is called is the node as it was added (`order`, `once`,
`called`); what has been called is as its call has left it from then on (`state`).

The ancestors of a node have been called before it, and it sees what their calls have made
(`ancestors`); a look-up at an ancestor reaches no node that cannot be seen (`settings`). Nothing
below a node has been called before it, and a node sees neither itself nor anything below it
(`descendants`, `hidden`).

A call that fails is the last one, the pass fails with its error, and it fails in no other way
(`failure`, `cause`). A pass that succeeds has called all nodes, leaves what their calls have made,
and moves nothing (`success`). -/
structure Protocol (interpolator : Interpolator) (tree : Tree ν .constructed)
    (calls : List (Call ν)) : Prop where
  trail : (tree.resolve interpolator).trail = calls.flatMap (Call.trail interpolator) ++
    match (tree.resolve interpolator).outcome with
    | .ok _ => [.treeResolved tree.size]
    | .error _ => []
  order : calls.map Call.id <+: tree.arena.listing .root
  once : (calls.map Call.id).Nodup
  called : ∀ call ∈ calls, tree.arena.entry? call.id = some call.entry ∧ call.entry.id = call.id
  state : ∀ earlier call later, calls = earlier ++ call :: later →
    Leaves interpolator tree.arena earlier call.arena
  ancestors : ∀ earlier call later, calls = earlier ++ call :: later →
    ∀ above, tree.arena.IsAbove above call.id → ∃ done ∈ earlier, done.id = above ∧
      ∃ node, (done.run interpolator).outcome = .ok node ∧
        (call.scope interpolator).view.node above = .ok node ∧
        (call.scope interpolator).view.parentOf above = .ok (tree.parent? above)
  settings : ∀ call ∈ calls, ∀ above, tree.arena.IsAbove above call.id → ∀ name error,
    (call.scope interpolator).view.setting above name = .error error →
      ∃ higher node, (higher = above ∨ tree.arena.IsAbove higher above) ∧
        (call.scope interpolator).view.node higher = .ok node ∧
        Attributed.read node name = .error error
  descendants : ∀ earlier call later, calls = earlier ++ call :: later →
    ∀ below, tree.arena.IsAbove call.id below → below ∉ earlier.map Call.id
  hidden : ∀ call ∈ calls, ∀ id, id = call.id ∨ tree.arena.IsAbove call.id id →
    (call.scope interpolator).view.node id = .error (.invalidTree (.notVisible id)) ∧
      (call.scope interpolator).view.parentOf id = .error (.invalidTree (.notVisible id)) ∧
      ∀ name, (call.scope interpolator).view.setting id name =
        .error (.invalidTree (.notVisible id))
  failure : ∀ earlier call later error, calls = earlier ++ call :: later →
    (call.run interpolator).outcome = .error error →
      later = [] ∧ (tree.resolve interpolator).outcome = .error error
  cause : ∀ error, (tree.resolve interpolator).outcome = .error error →
    ∃ call ∈ calls, (call.run interpolator).outcome = .error error
  success : ∀ resolved, (tree.resolve interpolator).outcome = .ok resolved →
    calls.map Call.id = tree.arena.listing .root ∧
      Leaves interpolator tree.arena calls resolved.arena ∧
      ∀ id, (resolved.arena.entry? id).map Entry.place = (tree.arena.entry? id).map Entry.place

variable {interpolator : Interpolator} {tree : Tree ν .constructed} {forest : Forest ν}
  {after : Arena ν} {error : Error} {call : Call ν} {earlier later : List (Call ν)}

private theorem resolve_of_ok
    (ok : (resolveNodes interpolator tree.preorder tree.arena).outcome = .ok after) :
    tree.resolve interpolator =
      ⟨(tree.calls interpolator).flatMap (Call.trail interpolator) ++ [.treeResolved after.size],
        .ok ⟨after⟩⟩ := by
  rw [resolve, Run.bind_eq, Run.andThen_of_ok ok, trail_resolveNodes]
  rfl

private theorem resolve_of_error
    (failed : (resolveNodes interpolator tree.preorder tree.arena).outcome = .error error) :
    tree.resolve interpolator =
      ⟨(tree.calls interpolator).flatMap (Call.trail interpolator), .error error⟩ := by
  rw [resolve, Run.bind_eq, Run.andThen_of_error failed, trail_resolveNodes]
  rfl

/-- The calls follow the forest that spans the arena. -/
theorem ids_calls_isPrefix (spans : forest.Spans tree.arena) :
    (tree.calls interpolator).map Call.id <+: forest.ids := by
  rw [calls, preorder, spans.preorder_eq_ids]
  exact ids_callsOf_isPrefix fun id => spans.stands.index_lt_size

/-- A call is made on the arena that the calls before it leave. -/
theorem leaves_of_calls_eq (spans : forest.Spans tree.arena)
    (split : tree.calls interpolator = earlier ++ call :: later) :
    Leaves interpolator tree.arena earlier call.arena ∧
      call.arena.entry? call.id = some call.entry := by
  rw [calls, preorder, spans.preorder_eq_ids] at split
  exact leaves_of_split spans.distinct (fun id => spans.stands.index_lt_size) split

/-- The listing falls into the nodes called before a call, its own node, and others. -/
theorem exists_ids_eq (spans : forest.Spans tree.arena)
    (split : tree.calls interpolator = earlier ++ call :: later) :
    ∃ back, forest.ids = earlier.map Call.id ++ call.id :: back := by
  obtain ⟨back, whole⟩ : (tree.calls interpolator).map Call.id <+: forest.ids :=
    ids_calls_isPrefix spans
  refine ⟨later.map Call.id ++ back, ?_⟩
  rw [← whole, split, List.map_append, List.map_cons, List.append_assoc, List.cons_append]

/-- A call is made on a node as it was added. -/
theorem entry?_of_calls_eq (spans : forest.Spans tree.arena)
    (split : tree.calls interpolator = earlier ++ call :: later) :
    tree.arena.entry? call.id = some call.entry := by
  obtain ⟨leaves, found⟩ := leaves_of_calls_eq spans split
  obtain ⟨back, whole⟩ := exists_ids_eq spans split
  rw [← leaves.others call.id (spans.notMem_front whole), found]

/-- An ancestor of a called node is seen as its own call has left it. -/
theorem exists_done_of_isAbove (spans : forest.Spans tree.arena)
    (split : tree.calls interpolator = earlier ++ call :: later) {above : NodeId}
    (isAbove : tree.arena.IsAbove above call.id) :
    ∃ done ∈ earlier, done.id = above ∧ ∃ node, (done.run interpolator).outcome = .ok node ∧
      tree.arena.entry? above = some done.entry ∧
      (call.scope interpolator).view.entry? above = some { done.entry with node := node } := by
  obtain ⟨leaves, -⟩ := leaves_of_calls_eq spans split
  obtain ⟨back, whole⟩ := exists_ids_eq spans split
  obtain ⟨done, member, rfl⟩ := List.mem_map.mp (spans.mem_front_of_isAbove whole isAbove)
  obtain ⟨before, node, ok, now⟩ := leaves.called done member
  refine ⟨done, member, rfl, node, ok, before, ?_⟩
  rw [Call.scope, Arena.entry?_viewBelow isAbove.index_lt, now]

/-- A look-up at an ancestor of a called node fails only where an ancestor refuses to be read. -/
theorem exists_refused_of_setting_eq_error (spans : forest.Spans tree.arena)
    (split : tree.calls interpolator = earlier ++ call :: later) {above : NodeId} {name : String}
    (isAbove : tree.arena.IsAbove above call.id)
    (failed : (call.scope interpolator).view.setting above name = .error error) :
    ∃ higher node, (higher = above ∨ tree.arena.IsAbove higher above) ∧
      (call.scope interpolator).view.node higher = .ok node ∧
      Attributed.read node name = .error error := by
  obtain ⟨leaves, -⟩ := leaves_of_calls_eq spans split
  obtain ⟨done, -, -, node, -, -, seen⟩ := exists_done_of_isAbove spans split isAbove
  obtain ⟨higher, reached, place, found, refused⟩ :=
    View.exists_read_of_setting_eq_error seen failed
  refine ⟨higher, reached.node, ?_, (View.node_of_entry? found).1, refused⟩
  exact place.imp_right fun higherUp => higherUp.congr fun id => (leaves.parent? id).symm

/-- A called node sees nothing from itself on. -/
theorem refused_of_beyond (interpolator : Interpolator) (call : Call ν) {id : NodeId}
    (beyond : call.id.index ≤ id.index) :
    (call.scope interpolator).view.node id = .error (.invalidTree (.notVisible id)) ∧
      (call.scope interpolator).view.parentOf id = .error (.invalidTree (.notVisible id)) ∧
      ∀ name, (call.scope interpolator).view.setting id name =
        .error (.invalidTree (.notVisible id)) :=
  View.refused_of_entry?_eq_none (Arena.entry?_viewBelow_eq_none beyond)

private theorem trail_resolve (interpolator : Interpolator) (tree : Tree ν .constructed) :
    (tree.resolve interpolator).trail =
      (tree.calls interpolator).flatMap (Call.trail interpolator) ++
        match (tree.resolve interpolator).outcome with
        | .ok _ => [.treeResolved tree.size]
        | .error _ => [] := by
  cases ended : (resolveNodes interpolator tree.preorder tree.arena).outcome with
  | error error => rw [resolve_of_error ended, List.append_nil]
  | ok after => rw [resolve_of_ok ended, size_of_resolveNodes ended, size]

private theorem resolve_outcome_of_failed (spans : forest.Spans tree.arena)
    (split : tree.calls interpolator = earlier ++ call :: later)
    (failed : (call.run interpolator).outcome = .error error) :
    later = [] ∧ (tree.resolve interpolator).outcome = .error error := by
  have present : ∀ id ∈ tree.preorder, id.index < tree.arena.size := by
    rw [preorder, spans.preorder_eq_ids]
    exact fun id => spans.stands.index_lt_size
  obtain ⟨last, ended⟩ := outcome_of_failed present split failed
  exact ⟨last, by rw [resolve_of_error ended]⟩

private theorem exists_failed_of_resolve
    (failed : (tree.resolve interpolator).outcome = .error error) :
    ∃ call ∈ tree.calls interpolator, (call.run interpolator).outcome = .error error := by
  cases ended : (resolveNodes interpolator tree.preorder tree.arena).outcome with
  | error cause =>
      rw [resolve_of_error ended] at failed
      obtain rfl : cause = error := Except.error.inj failed
      exact exists_failed_of_error ended
  | ok after =>
      rw [resolve_of_ok ended] at failed
      cases failed

private theorem leaves_of_resolve {resolved : Tree ν .resolved} (spans : forest.Spans tree.arena)
    (ok : (tree.resolve interpolator).outcome = .ok resolved) :
    (tree.calls interpolator).map Call.id = forest.ids ∧
      Leaves interpolator tree.arena (tree.calls interpolator) resolved.arena := by
  cases ended : (resolveNodes interpolator tree.preorder tree.arena).outcome with
  | error cause =>
      rw [resolve_of_error ended] at ok
      cases ok
  | ok after =>
      rw [resolve_of_ok ended] at ok
      obtain rfl : (⟨after⟩ : Tree ν .resolved) = resolved := Except.ok.inj ok
      rw [preorder, spans.preorder_eq_ids] at ended
      obtain ⟨leaves, same⟩ :=
        leaves_of_ok spans.distinct (fun id => spans.stands.index_lt_size) ended
      rw [calls, preorder, spans.preorder_eq_ids]
      exact ⟨same, leaves⟩

/-- **The resolve protocol.** Whatever its nodes do and in whatever order they were added, the
resolve pass over a tree calls them in depth-first order, each after its ancestors and before what
stands below it, and ends with the first failure. -/
theorem Built.protocol (built : tree.Built) (interpolator : Interpolator) :
    Protocol interpolator tree (tree.calls interpolator) := by
  obtain ⟨node, below, spans⟩ := built.exists_spans
  have listing := spans.listing_root
  refine
    { trail := trail_resolve interpolator tree
      order := by rw [listing]; exact ids_calls_isPrefix spans
      once := spans.distinct.sublist (ids_calls_isPrefix spans).sublist
      called := ?_
      state := fun _ _ _ split => (leaves_of_calls_eq spans split).1
      ancestors := ?_
      settings := ?_
      descendants := ?_
      hidden := ?_
      failure := fun _ _ _ _ split => resolve_outcome_of_failed spans split
      cause := fun _ => exists_failed_of_resolve
      success := ?_ }
  · intro call member
    obtain ⟨earlier, later, split⟩ := List.append_of_mem member
    have found := entry?_of_calls_eq spans split
    exact ⟨found, spans.stands.id_of_entry?
      ((ids_calls_isPrefix spans).subset (List.mem_map_of_mem member)) found⟩
  · intro earlier call later split above isAbove
    obtain ⟨done, member, same, node, ok, before, seen⟩ :=
      exists_done_of_isAbove spans split isAbove
    obtain ⟨visible, wired⟩ := View.node_of_entry? seen
    refine ⟨done, member, same, node, ok, visible, ?_⟩
    rw [wired, parent?, Arena.parent?, before, Option.bind_some]
  · intro call member above isAbove name error failed
    obtain ⟨earlier, later, split⟩ := List.append_of_mem member
    exact exists_refused_of_setting_eq_error spans split isAbove failed
  · intro earlier call later split below isAbove
    obtain ⟨back, whole⟩ := exists_ids_eq spans split
    exact spans.notMem_front_of_isAbove whole isAbove
  · intro call member id place
    apply refused_of_beyond
    rcases place with rfl | isAbove
    · exact Nat.le_refl _
    · exact Nat.le_of_lt isAbove.index_lt
  · intro resolved ok
    obtain ⟨same, leaves⟩ := leaves_of_resolve spans ok
    exact ⟨same.trans listing.symm, leaves, leaves.place⟩

/-- A probe that takes notes under a label and fills its format. -/
def formatProbe (label format : String) : Element :=
  .probe
    { label := some label
      values := Dictionary.ofList [("format", .text format)]
      strict := false
      rules := []
      inheritedNames := []
      keepsInherited := false
      interpolatedNames := ["format"] }

/-- Four probes; the one below the first branch is added last, and its format cannot be filled. -/
def lateProbe : Except Error (Tree Element .constructed) :=
  (ofRoot (formatProbe "root" "json")).addEach
    [ (.root, formatProbe "a" "csv"), (.root, formatProbe "b" "xml"),
      (.wrapping 1, formatProbe "a1" "$\x7benv.HOME\x7d") ]

/-- The probe that is added last is called third, and the one after it is not called at all. -/
theorem protocol_lateProbe :
    ∃ tree, lateProbe = .ok tree ∧ tree.Built ∧
      Protocol ⟨.standard, fun _ => none⟩ tree (tree.calls ⟨.standard, fun _ => none⟩) ∧
      (tree.calls ⟨.standard, fun _ => none⟩).map (fun call => call.id.index) = [0, 1, 3] ∧
      (tree.resolve ⟨.standard, fun _ => none⟩).outcome.map Tree.size =
        .error (.configuration (.outsideNamespace "HOME" "CONVERGDB_")) := by
  obtain ⟨tree, ok⟩ : ∃ tree, lateProbe = .ok tree := ⟨_, rfl⟩
  have built : tree.Built := (Built.root _).addEach ok
  refine ⟨tree, ok, built, built.protocol _, ?_⟩
  obtain rfl := Except.ok.inj ok
  decide +kernel

end Tree

end DeployTree
