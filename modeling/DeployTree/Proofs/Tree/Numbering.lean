import DeployTree.Proofs.Tree.Building
import DeployTree.Proofs.Tree.Passes

/-! # Trees up to the numbering of their nodes

Two trees are the same up to their numbering when a renumbering takes the root to the root, every
node to an equal node, and the children of a node to the children in their order
(`DeployTree.Tree.Renumbers`). Then the forests that span them differ in their identifiers only
(`DeployTree.Forest.StandsIn.eq_renumber`). The passes over a forest hand identifiers around, but
nodes that see what stands above them and the outputs of their children make nothing of them; so all
passes end alike on both trees (`DeployTree.Manner.generate_outcome_of_renumbers`).
-/

namespace DeployTree

/-- Whether a renumbering takes one tree to another. -/
structure Tree.Renumbers {ν : Type} {phase : Phase} (rename : NodeId → NodeId)
    (first second : Tree ν phase) : Prop where
  root : rename .root = .root
  node : ∀ id, id.index < first.size → second.node? (rename id) = first.node? id
  children : ∀ id, id.index < first.size →
    second.children (rename id) = (first.children id).map rename

/-- The output of a child under another number. -/
def ChildOutput.renumber (rename : NodeId → NodeId) (child : ChildOutput) : ChildOutput :=
  { child with id := rename child.id }

namespace Forest

variable {ν : Type}

/-- The forest under other numbers. -/
def renumber (rename : NodeId → NodeId) : Forest ν → Forest ν
  | empty => empty
  | branch id node below rest =>
      branch (rename id) node (below.renumber rename) (rest.renumber rename)

variable {rename : NodeId → NodeId} {parent other : Option NodeId} {forest next : Forest ν}

/-- Forests in trees that are the same up to their numbering are so, too. -/
theorem StandsIn.eq_renumber {phase : Phase} {first second : Tree ν phase}
    (stands : forest.StandsIn first.arena parent) (also : next.StandsIn second.arena other)
    (renumbers : Tree.Renumbers rename first second) (tops : next.tops = forest.tops.map rename) :
    next = forest.renumber rename := by
  induction forest generalizing next parent other with
  | empty =>
      cases next with
      | empty => rfl
      | branch => cases tops
  | branch id node below rest ihBelow ihRest =>
      cases next with
      | empty => cases tops
      | branch top own lower others =>
          obtain ⟨rfl, topsRest⟩ := List.cons.inj tops
          obtain ⟨here, standsBelow, standsRest⟩ := stands
          obtain ⟨hereAlso, alsoBelow, alsoRest⟩ := also
          have inside : id.index < first.size := Arena.index_lt_of_entry? here
          have sameNode := renumbers.node id inside
          have sameChildren := renumbers.children id inside
          rw [Tree.node?, Tree.node?, here, hereAlso] at sameNode
          rw [Tree.children, Tree.children, Arena.children, Arena.children, here, hereAlso]
            at sameChildren
          obtain rfl : own = node := Option.some.inj sameNode
          rw [renumber, ihBelow standsBelow alsoBelow sameChildren,
            ihRest standsRest alsoRest topsRest]

variable [Node ν] {interpolator : Interpolator} {manner : Manner ν interpolator}

private theorem resolved_renumber (rename : NodeId → NodeId) (forest : Forest ν)
    (outlook : Outlook) :
    ((forest.renumber rename).resolved manner outlook).outcome =
      (forest.resolved manner outlook).outcome.map (renumber rename) := by
  induction forest generalizing outlook with
  | empty => rfl
  | branch id node below rest ihBelow ihRest =>
      simp only [renumber, resolved, Run.outcome_bind, Run.outcome_emit]
      cases (manner.resolve outlook node).outcome with
      | error error => rfl
      | ok own =>
          simp only [Except.bind, ihBelow, ihRest]
          cases (below.resolved manner (outlook.beneath own)).outcome with
          | error error => rfl
          | ok lower => cases (rest.resolved manner outlook).outcome <;> rfl

private theorem validated_renumber (rename : NodeId → NodeId) (forest : Forest ν) :
    (forest.renumber rename).validated.outcome = forest.validated.outcome := by
  induction forest with
  | empty => rfl
  | branch id node below rest ihBelow ihRest =>
      simp only [renumber, validated, Run.outcome_bind, Run.outcome_emit, ihBelow, ihRest]

end Forest

namespace Manner

variable {ν : Type} [Node ν] {interpolator : Interpolator}

/-- Whether nodes make nothing of the numbers of their children. -/
def IgnoresNumbers (manner : Manner ν interpolator) : Prop :=
  ∀ outlook children node rename,
    manner.output outlook (children.map (ChildOutput.renumber rename)) node =
      manner.output outlook children node

variable {manner : Manner ν interpolator}

private theorem IgnoresNumbers.outputs_renumber (ignores : manner.IgnoresNumbers)
    (rename : NodeId → NodeId) (forest : Forest ν) (outlook : Outlook) :
    ((forest.renumber rename).outputs manner outlook).outcome =
      (forest.outputs manner outlook).outcome.map (List.map (ChildOutput.renumber rename)) := by
  induction forest generalizing outlook with
  | empty => rfl
  | branch id node below rest ihBelow ihRest =>
      simp only [Forest.renumber, Forest.outputs, Run.outcome_bind, ihBelow, ihRest]
      cases (below.outputs manner (outlook.beneath node)).outcome with
      | error error => rfl
      | ok inside =>
          simp only [Except.map, Except.bind, ignores outlook inside node rename]
          cases (manner.output outlook inside node).outcome with
          | error error => rfl
          | ok output => cases (rest.outputs manner outlook).outcome <;> rfl

/-- The passes over a forest end alike under other numbers. -/
theorem IgnoresNumbers.generated_renumber (ignores : manner.IgnoresNumbers)
    (rename : NodeId → NodeId) (node : ν) (below : Forest ν) :
    (manner.generated node (below.renumber rename)).outcome =
      (manner.generated node below).outcome := by
  simp only [generated, Run.outcome_bind, Forest.resolved_renumber]
  cases (manner.resolve none node).outcome with
  | error error => rfl
  | ok own =>
      simp only [Except.bind]
      cases (below.resolved manner (Outlook.beneath none own)).outcome with
      | error error => rfl
      | ok lower =>
          simp only [Except.map, Forest.validated_renumber, ignores.outputs_renumber]
          cases (lower.outputs manner (Outlook.beneath none own)).outcome with
          | error error => rfl
          | ok inside => simp only [ignores none inside own rename]

/-- Trees that are the same up to their numbering end the passes alike. -/
theorem IgnoresNumbers.generate_outcome_of_renumbers (ignores : manner.IgnoresNumbers)
    {first second : Tree ν .constructed} {rename : NodeId → NodeId} (built : first.Built)
    (also : second.Built) (renumbers : Tree.Renumbers rename first second) :
    (first.generate interpolator).outcome = (second.generate interpolator).outcome := by
  obtain ⟨node, below, spans⟩ := built.exists_spans
  obtain ⟨own, lower, spansAlso⟩ := also.exists_spans
  have tops : [NodeId.root] = [NodeId.root].map rename := by
    rw [List.map_singleton, renumbers.root]
  obtain ⟨-, rfl, rfl, -⟩ := Forest.branch.inj
    (spans.stands.eq_renumber spansAlso.stands renumbers tops)
  rw [manner.generate_outcome spans, manner.generate_outcome spansAlso,
    ignores.generated_renumber]

end Manner

end DeployTree
