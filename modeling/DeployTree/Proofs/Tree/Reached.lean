import DeployTree.Proofs.Tree.Wiring

/-! # Trees that can be reached

A tree is *reached* when it has been built, or comes from a reached tree by resolving or validating
it (`DeployTree.Tree.Reached`). Whatever its nodes do in the passes, its arena is wired and is
spanned by a forest (`DeployTree.Tree.Reached.exists_spans`): the passes may change nodes, and they
leave every entry in its place.
-/

namespace DeployTree

namespace Forest

variable {ν : Type} {arena other : Arena ν} {forest : Forest ν} {parent : Option NodeId}

/-- Where the entries of two arenas have the same places, what stands in one stands in the other
with the nodes that are there. -/
theorem StandsIn.exists_of_place (stands : forest.StandsIn arena parent)
    (places : ∀ id, (other.entry? id).map Entry.place = (arena.entry? id).map Entry.place) :
    ∃ next : Forest ν, next.outline = forest.outline ∧ next.StandsIn other parent := by
  induction forest generalizing parent with
  | empty => exact ⟨empty, rfl, trivial⟩
  | branch id node below rest ihBelow ihRest =>
      obtain ⟨here, standsBelow, standsRest⟩ := stands
      obtain ⟨lower, sameBelow, standsLower⟩ := ihBelow standsBelow
      obtain ⟨later, sameRest, standsLater⟩ := ihRest standsRest
      have place := places id
      rw [here] at place
      obtain ⟨⟨top, above, children, own⟩, found, same⟩ := Option.map_eq_some_iff.mp place
      obtain ⟨rfl, rfl, rfl⟩ : top = id ∧ above = parent ∧ children = below.tops := by
        simpa [Entry.place] using same
      refine ⟨branch top own lower later, ?_, ?_, standsLower, standsLater⟩
      · rw [outline, outline, sameBelow, sameRest]
      · rw [found, tops_eq_of_outline_eq sameBelow]

private theorem Spans.exists_of_place (spans : forest.Spans arena) (size : other.size = arena.size)
    (places : ∀ id, (other.entry? id).map Entry.place = (arena.entry? id).map Entry.place) :
    ∃ next : Forest ν, next.outline = forest.outline ∧ next.Spans other := by
  obtain ⟨next, same, stands⟩ := spans.stands.exists_of_place places
  have ids := ids_eq_of_outline_eq same
  refine ⟨next, same, stands, ?_, ?_, ?_⟩
  · rw [tops_eq_of_outline_eq same, spans.root]
  · rw [ids]
    exact spans.distinct
  · rw [ids, spans.whole, size]

end Forest

namespace Tree

variable {ν : Type} [Node ν] {phase : Phase}

/-- Whether a tree has been built, or comes from one that has been by passes that succeed. -/
inductive Reached : {phase : Phase} → Tree ν phase → Prop
  | built {tree : Tree ν .constructed} (built : tree.Built) : Reached tree
  | resolved {tree : Tree ν .constructed} {next : Tree ν .resolved} {interpolator : Interpolator}
      (before : Reached tree) (ok : (tree.resolve interpolator).outcome = .ok next) : Reached next
  | validated {tree : Tree ν .resolved} {next : Tree ν .validated} (before : Reached tree)
      (ok : tree.validate.outcome = .ok next) : Reached next

variable {tree : Tree ν phase}

/-- A tree that is reached is wired. -/
theorem Reached.wired (reached : tree.Reached) : tree.arena.Wired := by
  induction reached with
  | built built => exact built.wired
  | resolved _ ok ih => exact wired_of_resolve ih ok
  | validated _ ok ih => exact wired_of_validate ih ok

/-- Every reached tree is spanned by a forest. -/
theorem Reached.exists_spans (reached : tree.Reached) :
    ∃ forest : Forest ν, forest.Spans tree.arena := by
  induction reached with
  | built built =>
      obtain ⟨node, below, spans⟩ := built.exists_spans
      exact ⟨_, spans⟩
  | resolved _ ok ih =>
      obtain ⟨forest, spans⟩ := ih
      obtain ⟨after, resolves, rest⟩ := Run.outcome_bind_eq_ok_iff.mp ok
      obtain rfl := Except.ok.inj rest
      obtain ⟨next, -, grown⟩ :=
        spans.exists_of_place (size_of_resolveNodes resolves) (place_of_resolveNodes resolves)
      exact ⟨next, grown⟩
  | validated _ ok ih =>
      obtain ⟨-, -, rest⟩ := Run.outcome_bind_eq_ok_iff.mp ok
      obtain rfl := Except.ok.inj rest
      exact ih

end Tree

end DeployTree
