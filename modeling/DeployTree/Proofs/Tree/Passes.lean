import DeployTree.Proofs.Tree.Forest
import DeployTree.Proofs.Tree.Outlook
import DeployTree.Tree

/-! # The passes over a forest

The passes go through an arena from identifier to identifier. They compute what a recursion through
the forest that stands in the arena computes: each node is resolved with the outlook that its
resolved ancestors give (`DeployTree.Forest.resolveNodes_ids`), each is validated in turn
(`DeployTree.Forest.validateNodes_ids`), and each gives its output from those of its children
(`DeployTree.Forest.mapM_childOutput_tops`). This holds for nodes that see no more than what stands
above them, and it says nothing about identifiers: `DeployTree.Forest.generate_outcome` reads the
outcome of all three passes off the nodes alone.
-/

namespace DeployTree

/-- How nodes act in the passes when all they see is what stands above them. -/
structure Manner (ν : Type) [Node ν] (interpolator : Interpolator) where
  resolve : Outlook → ν → Run ν
  output : Outlook → List ChildOutput → ν → Run Json
  resolve_eq : ∀ (scope : ResolveScope ν) (node : ν), scope.interpolator = interpolator →
    Node.resolve scope node = resolve (scope.view.outlook scope.parent) node
  output_eq : ∀ (scope : OutputScope ν) (children : List ChildOutput) (node : ν),
    Node.output scope children node = output (scope.view.outlook scope.parent) children node

namespace Forest

variable {ν : Type} [Node ν] {interpolator : Interpolator}

/-- The forest with every node resolved, parents before children. -/
def resolved (manner : Manner ν interpolator) : Outlook → Forest ν → Run (Forest ν)
  | _, empty => pure empty
  | outlook, branch id node below rest => do
      Run.emit (.resolving id (Attributed.kind node))
      let own ← manner.resolve outlook node
      let lower ← below.resolved manner (outlook.beneath own)
      let others ← rest.resolved manner outlook
      pure (branch id own lower others)

/-- Validates every node, parents before children. -/
def validated : Forest ν → Run Unit
  | empty => pure ()
  | branch id node below rest => do
      Run.emit (.validating id (Attributed.kind node))
      Node.validate node
      below.validated
      rest.validated

/-- The outputs of the branches. -/
def outputs (manner : Manner ν interpolator) : Outlook → Forest ν → Run (List ChildOutput)
  | _, empty => pure []
  | outlook, branch id node below rest => do
      let inside ← below.outputs manner (outlook.beneath node)
      let output ← manner.output outlook inside node
      let others ← rest.outputs manner outlook
      pure (⟨id, Attributed.kind node, output⟩ :: others)

variable {manner : Manner ν interpolator} {arena : Arena ν} {parent : Option NodeId}
  {forest next : Forest ν} {outlook : Outlook}

/-- Resolving changes nodes and nothing else. -/
theorem outline_resolved (ok : (forest.resolved manner outlook).outcome = .ok next) :
    next.outline = forest.outline := by
  induction forest generalizing outlook next with
  | empty =>
      obtain rfl : empty = next := by simpa [resolved] using ok
      rfl
  | branch id node below rest ihBelow ihRest =>
      simp only [resolved, Run.outcome_emit_bind, Run.outcome_bind_eq_ok_iff, Run.outcome_pure,
        Except.ok.injEq] at ok
      obtain ⟨own, -, lower, belowOk, others, restOk, rfl⟩ := ok
      rw [outline, outline, ihBelow belowOk, ihRest restOk]

/-- A forest is resolved alike in two manners that resolve its nodes alike. -/
theorem resolved_congr {other : Interpolator} {also : Manner ν other}
    (agree : ∀ node ∈ forest.nodes, ∀ outlook,
      manner.resolve outlook node = also.resolve outlook node) (outlook : Outlook) :
    forest.resolved manner outlook = forest.resolved also outlook := by
  induction forest generalizing outlook with
  | empty => rfl
  | branch id node below rest ihBelow ihRest =>
      simp only [nodes, List.forall_mem_cons, List.forall_mem_append] at agree
      obtain ⟨own, lower, later⟩ := agree
      simp only [resolved, own, ihBelow lower, ihRest later]

private theorem resolveNodes_append (interpolator : Interpolator) (ids more : List NodeId)
    (arena : Arena ν) :
    Tree.resolveNodes interpolator (ids ++ more) arena =
      Tree.resolveNodes interpolator ids arena >>= Tree.resolveNodes interpolator more := by
  induction ids generalizing arena with
  | nil => exact (pure_bind arena _).symm
  | cons id rest ih =>
      rw [List.cons_append, Tree.resolveNodes, Tree.resolveNodes, bind_assoc]
      exact bind_congr fun next => ih next

/-- An entry is resolved with what stands above it. -/
theorem resolveNode_of_entry? (manner : Manner ν interpolator) {entry : Entry ν} {id : NodeId}
    (found : arena.entry? id = some entry) :
    Tree.resolveNode interpolator arena id =
      Run.emit (.resolving entry.id (Attributed.kind entry.node)) >>= fun _ =>
        manner.resolve (arena.view.outlook entry.parent) entry.node >>= fun own =>
          pure (arena.replace id own) := by
  have acts := manner.resolve_eq ⟨entry.id, entry.parent, arena.viewBelow id, interpolator⟩
    entry.node rfl
  rw [Arena.outlook_viewBelow found] at acts
  rw [Tree.resolveNode, found, ← acts]

/-- **Resolving in an arena.** Resolving the identifiers of a forest in the arena resolves the
forest and puts the resolved nodes in the places of the old ones. -/
theorem resolveNodes_ids (manner : Manner ν interpolator) (stands : forest.StandsIn arena parent)
    (distinct : forest.ids.Nodup) :
    Tree.resolveNodes interpolator forest.ids arena =
      forest.resolved manner (arena.view.outlook parent) >>= fun next =>
        pure (next.rewrite arena) := by
  induction forest generalizing arena parent with
  | empty => rfl
  | branch id node below rest ihBelow ihRest =>
      obtain ⟨here, standsBelow, standsRest⟩ := stands
      obtain ⟨⟨notBelow, notRest⟩, distinctBelow, distinctRest, disjoint⟩ :=
        nodup_ids_branch.mp distinct
      have above (next : Arena ν) (agree : ∀ lower : NodeId, lower.index < id.index →
          next.entry? lower = arena.entry? lower) :
          next.view.outlook parent = arena.view.outlook parent := by
        apply Arena.outlook_congr
        intro top wired lower reached
        have before := Arena.parent_lt_of_entry? here wired
        exact agree lower (Nat.lt_of_le_of_lt reached before)
      have kept (own : ν) (lower : NodeId) (before : lower.index < id.index) :
          Arena.entry? (arena.replace id own) lower = arena.entry? lower := by
        apply Arena.entry?_replace_of_ne
        rintro rfl
        omega
      simp only [ids, Tree.resolveNodes, resolveNode_of_entry? manner here, resolved, bind_assoc,
        pure_bind]
      apply bind_congr
      intro _
      apply bind_congr
      intro own
      -- The node is in its place now, so what is below finds its values.
      have outlookBelow : (arena.replace id own).view.outlook (some id) =
          (arena.view.outlook parent).beneath own := by
        have replaced := Arena.entry?_replace_self here own
        rw [← Arena.entry?_view] at replaced
        rw [View.outlook_eq_beneath replaced, above _ (kept own)]
      rw [resolveNodes_append, ihBelow (standsBelow.replace notBelow own) distinctBelow,
        outlookBelow, bind_assoc]
      apply Run.bind_congr_of_ok
      intro lower ok
      -- What comes later stands apart from what is below and finds the same above it as before.
      have sameIds := ids_eq_of_outline_eq (outline_resolved ok)
      have standsAfter : rest.StandsIn (lower.rewrite (arena.replace id own)) parent := by
        apply (standsRest.replace notRest own).rewrite
        intro later inRest inBelow
        exact disjoint later (sameIds ▸ inBelow) inRest
      have outlookAfter : (lower.rewrite (arena.replace id own)).view.outlook parent =
          arena.view.outlook parent := by
        apply above
        intro before reached
        rw [entry?_rewrite_of_notMem ?_, kept own before reached]
        intro inBelow
        have after := standsBelow.lt_of_mem (sameIds ▸ inBelow)
        omega
      rw [pure_bind, ihRest standsAfter distinctRest, outlookAfter]
      rfl

private theorem validateNodes_append (ids more : List NodeId) (arena : Arena ν) :
    Tree.validateNodes arena (ids ++ more) =
      Tree.validateNodes arena ids >>= fun _ => Tree.validateNodes arena more := by
  induction ids with
  | nil => exact (pure_bind () fun _ => Tree.validateNodes arena more).symm
  | cons id rest ih =>
      rw [List.cons_append, Tree.validateNodes, Tree.validateNodes, bind_assoc, ih]

/-- **Validating in an arena.** Validating the identifiers of a forest in the arena validates the
forest. -/
theorem validateNodes_ids (stands : forest.StandsIn arena parent) :
    Tree.validateNodes arena forest.ids = forest.validated := by
  induction forest generalizing parent with
  | empty => rfl
  | branch id node below rest ihBelow ihRest =>
      obtain ⟨here, standsBelow, standsRest⟩ := stands
      have own : Tree.validateNode arena id =
          Run.emit (.validating id (Attributed.kind node)) >>= fun _ => Node.validate node := by
        rw [Tree.validateNode, here]
      rw [ids, Tree.validateNodes, validated, validateNodes_append, ihBelow standsBelow,
        ihRest standsRest, own, bind_assoc]

/-- The output of a child in an arena, as its parent is handed it. -/
def childOutput (arena : Arena ν) (id : NodeId) : Run ChildOutput := do
  let output ← Tree.outputAt arena id
  let kind := (arena.entry? id).elim "" fun below => Attributed.kind below.node
  pure ⟨id, kind, output⟩

/-- An entry gives its output from those of its children. -/
theorem outputAt_of_entry? {entry : Entry ν} {id : NodeId}
    (found : arena.entry? id = some entry) :
    Tree.outputAt arena id = entry.children.mapM (childOutput arena) >>= fun outputs =>
      Node.output ⟨entry.id, entry.parent, arena.view⟩ outputs entry.node := by
  rw [Tree.outputAt]
  split
  · rename_i hidden
    rw [found] at hidden
    cases hidden
  · rename_i present same
    obtain rfl : entry = present := Option.some.inj (found.symm.trans same)
    have children : (entry.children.attach.mapM fun child => childOutput arena child.val) =
        entry.children.mapM (childOutput arena) := by
      rw [List.mapM_subtype fun _ _ => rfl, List.unattach_attach]
    rw [← children]
    rfl

/-- **Output in an arena.** The outputs of the branches of a forest in the arena are the outputs of
the forest. -/
theorem mapM_childOutput_tops (manner : Manner ν interpolator)
    (stands : forest.StandsIn arena parent) :
    forest.tops.mapM (childOutput arena) =
      forest.outputs manner (arena.view.outlook parent) := by
  induction forest generalizing parent with
  | empty => rfl
  | branch id node below rest ihBelow ihRest =>
      obtain ⟨here, standsBelow, standsRest⟩ := stands
      have outlookBelow : arena.view.outlook (some id) =
          (arena.view.outlook parent).beneath node := by
        have visible := here
        rw [← Arena.entry?_view] at visible
        exact View.outlook_eq_beneath visible
      have own : childOutput arena id =
          below.outputs manner ((arena.view.outlook parent).beneath node) >>= fun inside =>
            manner.output (arena.view.outlook parent) inside node >>= fun output =>
              pure ⟨id, Attributed.kind node, output⟩ := by
        rw [childOutput, outputAt_of_entry? here, ihBelow standsBelow, outlookBelow, bind_assoc]
        simp only [manner.output_eq, here, Option.elim_some]
      rw [tops, List.mapM_cons, outputs, own, ihRest standsRest]
      simp only [bind_assoc, pure_bind]

/-- Resolving a tree is resolving the forest that it holds. -/
theorem Spans.resolve {tree : Tree ν .constructed} (spans : forest.Spans tree.arena)
    (manner : Manner ν interpolator) :
    tree.resolve interpolator = forest.resolved manner none >>= fun next =>
      Run.emit (.treeResolved tree.size) >>= fun _ => pure ⟨next.rewrite tree.arena⟩ := by
  rw [Tree.resolve, Tree.preorder, spans.preorder_eq_ids, resolveNodes_ids manner spans.stands
    spans.distinct, bind_assoc]
  simp only [pure_bind, size_rewrite]
  rfl

/-- Validating a tree is validating the forest that it holds. -/
theorem Spans.validate {tree : Tree ν .resolved} (spans : forest.Spans tree.arena) :
    tree.validate = forest.validated >>= fun _ =>
      Run.emit (.treeValidated tree.size) >>= fun _ => pure ⟨tree.arena⟩ := by
  rw [Tree.validate, Tree.preorder, spans.preorder_eq_ids, validateNodes_ids spans.stands]

/-- The output of a tree is the one that the root makes from what is below it. -/
theorem Spans.output {node : ν} {below : Forest ν} {tree : Tree ν .validated}
    (spans : (branch NodeId.root node below empty).Spans tree.arena)
    (manner : Manner ν interpolator) :
    tree.output = below.outputs manner (Outlook.beneath none node) >>= fun inside =>
      manner.output none inside node := by
  obtain ⟨here, standsBelow, -⟩ := spans.stands
  have visible := here
  rw [← Arena.entry?_view] at visible
  rw [Tree.output, Tree.outputOf, outputAt_of_entry? here, mapM_childOutput_tops manner standsBelow,
    View.outlook_eq_beneath visible, View.outlook_none]
  simp only [manner.output_eq, View.outlook_none]

end Forest

namespace Manner

variable {ν : Type} [Node ν] {interpolator : Interpolator}

/-- The three passes over a root and what is below it: resolve all nodes, validate all nodes, give
the output. -/
def generated (manner : Manner ν interpolator) (node : ν) (below : Forest ν) : Run Json := do
  let own ← manner.resolve none node
  let lower ← below.resolved manner (Outlook.beneath none own)
  Node.validate own
  lower.validated
  let inside ← lower.outputs manner (Outlook.beneath none own)
  manner.output none inside own

open Forest in
/-- **The passes as a recursion.** What a tree generates is what the three passes over its forest
give. -/
theorem generate_outcome (manner : Manner ν interpolator) {node : ν} {below : Forest ν}
    {tree : Tree ν .constructed}
    (spans : (branch NodeId.root node below empty).Spans tree.arena) :
    (tree.generate interpolator).outcome = (manner.generated node below).outcome := by
  rw [Tree.generate, spans.resolve manner]
  simp only [resolved, bind_assoc, pure_bind, Run.outcome_emit_bind, generated]
  apply Run.outcome_bind_congr rfl
  intro own _
  apply Run.outcome_bind_congr rfl
  intro lower ok
  have after : (branch NodeId.root own lower empty).Spans
      ((branch NodeId.root own lower empty).rewrite tree.arena) := by
    apply spans.rewrite
    rw [outline, outline_resolved ok]
    rfl
  generalize (branch NodeId.root own lower empty).rewrite tree.arena = arena at after ⊢
  rw [Run.outcome_emit_bind, after.validate]
  simp only [validated, bind_assoc, pure_bind, Run.outcome_emit_bind]
  apply Run.outcome_bind_congr rfl
  intro _ _
  apply Run.outcome_bind_congr rfl
  intro _ _
  rw [Run.outcome_emit_bind, after.output manner]

end Manner

end DeployTree
