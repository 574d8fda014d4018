import DeployTree.Proofs.Tree.Protocol

/-! # What a node sees while it is resolved

A node that is resolved sees the nodes that were entered before it, and nothing else. All its proper
ancestors are among them, but so may be others: a sibling that was added earlier, or a node of
another subtree, whose own turn may still be to come. A called node sees only proper ancestors
exactly when the nodes up to it form a chain, each under the one before; and everything that it sees
has been resolved exactly when nothing that was entered before it follows it in depth-first order
(`DeployTree.Tree.Built.sees_only_ancestors_iff`).
-/

namespace DeployTree

namespace Arena

variable {ν : Type} {arena : Arena ν} {above id lower upper : NodeId}

private theorem isAbove_iff_parent? :
    arena.IsAbove above id ↔
      ∃ parent, arena.parent? id = some parent ∧ (above = parent ∨ arena.IsAbove above parent) := by
  constructor
  · intro isAbove
    cases isAbove with
    | single wired => exact ⟨above, wired, .inl rfl⟩
    | tail higher wired => exact ⟨_, wired, .inr higher⟩
  · rintro ⟨parent, wired, rfl | higher⟩
    · exact .single wired
    · exact .tail higher wired

/-- Of two proper ancestors of a node the one that was entered first stands above the other. -/
theorem IsAbove.of_index_lt (first : arena.IsAbove upper id) (second : arena.IsAbove lower id)
    (order : upper.index < lower.index) : arena.IsAbove upper lower := by
  induction second with
  | single wired =>
      obtain ⟨parent, same, place⟩ := isAbove_iff_parent?.mp first
      obtain rfl : lower = parent := Option.some.inj (wired.symm.trans same)
      rcases place with rfl | higher
      · exact absurd order (Nat.lt_irrefl _)
      · exact higher
  | tail higher wired ih =>
      obtain ⟨parent, same, place⟩ := isAbove_iff_parent?.mp first
      obtain rfl := Option.some.inj (wired.symm.trans same)
      rcases place with rfl | further
      · exact absurd (IsAbove.index_lt higher) (Nat.lt_asymm order)
      · exact ih further

/-- Whether the nodes up to one form a chain: each has the one entered just before it for its
parent. -/
def ChainTo (arena : Arena ν) (id : NodeId) : Prop :=
  ∀ lower next : NodeId, next.index = lower.index + 1 → next.index ≤ id.index →
    arena.parent? next = some lower

private theorem ChainTo.isAbove (chain : arena.ChainTo id) (reached : upper.index ≤ id.index)
    (below : lower.index < upper.index) : arena.IsAbove lower upper := by
  induction reach : upper.index using Nat.strongRecOn generalizing upper with
  | ind index ih =>
      subst reach
      let before : NodeId := ⟨upper.index - 1, Nat.lt_of_le_of_lt (Nat.sub_le _ _) upper.index_lt⟩
      have next : upper.index = before.index + 1 := by
        change upper.index = upper.index - 1 + 1
        omega
      have wired := chain before upper next reached
      rcases Nat.lt_or_eq_of_le (Nat.le_of_lt_succ (next ▸ below)) with further | same
      · exact .tail (ih before.index (by omega) (by omega) further rfl) wired
      · exact NodeId.ext_index same ▸ .single wired

/-- The nodes that were entered before one are its proper ancestors exactly when they and the node
form a chain. -/
theorem forall_isAbove_iff_chainTo :
    (∀ lower : NodeId, lower.index < id.index → arena.IsAbove lower id) ↔ arena.ChainTo id := by
  constructor
  · intro all lower next adjacent reached
    have direct : arena.IsAbove lower next := by
      have first := all lower (by omega)
      rcases Nat.lt_or_eq_of_le reached with before | same
      · exact first.of_index_lt (all next before) (by omega)
      · exact NodeId.ext_index same ▸ first
    obtain ⟨parent, wired, rfl | higher⟩ := isAbove_iff_parent?.mp direct
    · exact wired
    · have above := higher.index_lt
      have below := parent?_lt wired
      omega
  · intro chain lower below
    exact chain.isAbove (Nat.le_refl _) below

end Arena

/-- Whether a view answers a question about a node with anything but a fault in the wiring of the
tree. -/
def View.Answers {ν : Type} [Attributed ν] (view : View ν) (id : NodeId) : Prop :=
  (∀ fault, view.node id ≠ .error (.invalidTree fault)) ∨
    (∀ fault, view.parentOf id ≠ .error (.invalidTree fault)) ∨
    ∃ name, ∀ fault, view.setting id name ≠ .error (.invalidTree fault)

namespace Tree

variable {ν : Type} [Node ν] {interpolator : Interpolator} {tree : Tree ν .constructed}
  {forest : Forest ν} {call : Call ν} {earlier later : List (Call ν)} {id : NodeId}

private theorem answers_iff_index_lt (found : call.arena.entry? call.id = some call.entry) :
    (call.scope interpolator).view.Answers id ↔ id.index < call.id.index := by
  constructor
  · intro answers
    by_contra beyond
    obtain ⟨node, parentOf, setting⟩ :=
      refused_of_beyond interpolator call (Nat.le_of_not_lt beyond)
    rcases answers with answers | answers | ⟨name, answers⟩
    · exact answers _ node
    · exact answers _ parentOf
    · exact answers _ (setting name)
  · intro below
    have inside := Arena.index_lt_of_entry? found
    obtain ⟨entry, present⟩ := call.arena.exists_entry?_of_lt (Nat.lt_trans below inside)
    have seen : (call.scope interpolator).view.entry? id = some entry :=
      (Arena.entry?_viewBelow below).trans present
    refine .inl fun fault refused => ?_
    rw [(View.node_of_entry? seen).1] at refused
    cases refused

/-- Nodes that were entered before a called node have been called before it exactly when none of
them follows it in depth-first order. -/
theorem forall_mem_earlier_iff (spans : forest.Spans tree.arena)
    (split : tree.calls interpolator = earlier ++ call :: later) :
    (∀ id : NodeId, id.index < call.id.index → id ∈ earlier.map Call.id) ↔
      ∀ front back, tree.preorder = front ++ call.id :: back →
        ∀ id ∈ back, call.id.index < id.index := by
  obtain ⟨back, whole⟩ := exists_ids_eq spans split
  rw [preorder, spans.preorder_eq_ids]
  have distinct := spans.distinct
  rw [whole, List.nodup_append, List.nodup_cons] at distinct
  obtain ⟨-, ⟨notBack, -⟩, apart⟩ := distinct
  constructor
  · intro called front others same id member
    obtain ⟨rfl, -, rfl⟩ := (List.append_cons_inj_of_notMem
      (spans.notMem_front whole) notBack).mp (whole.symm.trans same)
    by_contra before
    rcases Nat.lt_or_eq_of_le (Nat.le_of_not_lt before) with below | equal
    · exact apart id (called id below) id (List.mem_cons_of_mem _ member) rfl
    · exact notBack (NodeId.ext_index equal ▸ member)
  · intro ascending id below
    have inside : call.id.index < tree.arena.size :=
      spans.mem_ids_iff.mp (whole ▸ List.mem_append_right _ List.mem_cons_self)
    have listed : id ∈ forest.ids := spans.mem_ids_iff.mpr (Nat.lt_trans below inside)
    rw [whole] at listed
    rcases List.mem_append.mp listed with inFront | elsewhere
    · exact inFront
    · rcases List.mem_cons.mp elsewhere with rfl | inBack
      · exact absurd below (Nat.lt_irrefl _)
      · exact absurd (ascending _ back whole id inBack) (Nat.lt_asymm below)

/-- **What a called node sees.** While a node is resolved, questions are answered about the nodes
that were entered before it and about no others. These are all proper ancestors of the node exactly
when they form a chain down to it; they have all been resolved exactly when none of them follows the
node in depth-first order. -/
theorem Built.sees_only_ancestors_iff (built : tree.Built)
    (split : tree.calls interpolator = earlier ++ call :: later) :
    (∀ id, (call.scope interpolator).view.Answers id ↔ id.index < call.id.index) ∧
      ((∀ id, (call.scope interpolator).view.Answers id → tree.arena.IsAbove id call.id) ↔
        tree.arena.ChainTo call.id) ∧
      ((∀ id, (call.scope interpolator).view.Answers id → id ∈ earlier.map Call.id) ↔
        ∀ front back, tree.preorder = front ++ call.id :: back →
          ∀ id ∈ back, call.id.index < id.index) := by
  obtain ⟨node, below, spans⟩ := built.exists_spans
  have sees (id : NodeId) :
      (call.scope interpolator).view.Answers id ↔ id.index < call.id.index :=
    answers_iff_index_lt (leaves_of_calls_eq spans split).2
  refine ⟨sees, ?_, ?_⟩
  · simp only [sees]
    exact Arena.forall_isAbove_iff_chainTo
  · simp only [sees]
    exact forall_mem_earlier_iff spans split

/-- Two branches, the second with a format to be filled, and a node below the first that is added
last. -/
def crossing : Except Error (Tree Element .constructed) :=
  (ofRoot (formatProbe "root" "json")).addEach
    [ (.root, formatProbe "a" "csv"), (.root, formatProbe "b" "$\x7benv.CONVERGDB_FORMAT\x7d"),
      (.wrapping 1, formatProbe "a1" "xml") ]

/-- A format to fill in. -/
def formats : Interpolator :=
  ⟨.standard, Bindings.lookup (Dictionary.ofList [("CONVERGDB_FORMAT", "csv")])⟩

/-- What a called node reads of the format of the second branch. -/
def branchFormat (call : Call Element) : Except Error (Option Value) :=
  (call.scope formats).view.node (.wrapping 2) >>= fun node => Attributed.read node "format"

/-- The node that is added last is called third, after the root and the first branch. It sees the
second branch, whose format still is the placeholder. -/
theorem exists_call_crossing :
    ∃ tree, crossing = .ok tree ∧ tree.Built ∧ ∃ earlier call later,
      tree.calls formats = earlier ++ call :: later ∧ call.id = .wrapping 3 ∧
        earlier.map Call.id = [.root, .wrapping 1] ∧
        branchFormat call = .ok (some (.text "$\x7benv.CONVERGDB_FORMAT\x7d")) := by
  obtain ⟨tree, ok⟩ : ∃ tree, crossing = .ok tree := ⟨_, rfl⟩
  have calls : crossing.map (fun tree => (tree.calls formats).map fun call =>
      (call.id, branchFormat call)) = .ok
        [ (.root, .error (.invalidTree (.notVisible (.wrapping 2)))),
          (.wrapping 1, .error (.invalidTree (.notVisible (.wrapping 2)))),
          (.wrapping 3, .ok (some (.text "$\x7benv.CONVERGDB_FORMAT\x7d"))),
          (.wrapping 2, .error (.invalidTree (.notVisible (.wrapping 2)))) ] := by
    decide +kernel
  rw [ok] at calls
  obtain ⟨root, rest, whole, first, calls⟩ := List.map_eq_cons_iff.mp (Except.ok.inj calls)
  obtain ⟨branch, rest, rfl, second, calls⟩ := List.map_eq_cons_iff.mp calls
  obtain ⟨call, later, rfl, third, -⟩ := List.map_eq_cons_iff.mp calls
  obtain ⟨called, reads⟩ := Prod.mk.inj third
  refine
    ⟨tree, ok, (Built.root _).addEach ok, [root, branch], call, later, whole, called, ?_, reads⟩
  rw [List.map_cons, List.map_singleton, (Prod.mk.inj first).1, (Prod.mk.inj second).1]

/-- Around the call of the node that is added last, what it sees is more than a chain of ancestors,
and more than has been resolved. -/
theorem sees_only_ancestors_iff_crossing :
    ∃ tree, crossing = .ok tree ∧ tree.Built ∧ ∃ earlier call later,
      tree.calls formats = earlier ++ call :: later ∧
        (∀ id, (call.scope formats).view.Answers id ↔ id.index < 3) ∧
        ((∀ id, (call.scope formats).view.Answers id → tree.arena.IsAbove id (.wrapping 3)) ↔
          tree.arena.ChainTo (.wrapping 3)) ∧
        ((∀ id, (call.scope formats).view.Answers id → id ∈ [.root, .wrapping 1]) ↔
          ∀ front back, tree.preorder = front ++ .wrapping 3 :: back →
            ∀ id ∈ back, 3 < id.index) := by
  obtain ⟨tree, ok, built, earlier, call, later, split, called, before, -⟩ := exists_call_crossing
  obtain ⟨sees, chain, resolved⟩ := built.sees_only_ancestors_iff split
  rw [called] at sees chain resolved
  rw [before] at resolved
  exact ⟨tree, ok, built, earlier, call, later, split, sees, chain, resolved⟩

/-- A called node sees a node of another subtree that has not been resolved. -/
theorem exists_answers_not_isAbove_crossing :
    ∃ tree, crossing = .ok tree ∧ tree.Built ∧ ∃ earlier call later,
      tree.calls formats = earlier ++ call :: later ∧
        (call.scope formats).view.Answers (.wrapping 2) ∧
        ¬ tree.arena.IsAbove (.wrapping 2) call.id ∧ .wrapping 2 ∉ earlier.map Call.id ∧
        branchFormat call = .ok (some (.text "$\x7benv.CONVERGDB_FORMAT\x7d")) := by
  obtain ⟨tree, ok, built, earlier, call, later, split, called, before, reads⟩ :=
    exists_call_crossing
  refine ⟨tree, ok, built, earlier, call, later, split, ?_, ?_, ?_, reads⟩
  · obtain ⟨node, below, spans⟩ := built.exists_spans
    rw [answers_iff_index_lt (leaves_of_calls_eq spans split).2, called]
    decide
  · have parents : crossing.map (fun tree =>
        (tree.parent? (.wrapping 3), tree.parent? (.wrapping 1), tree.parent? .root)) =
          .ok (some (.wrapping 1), some .root, none) := by
      decide +kernel
    rw [ok, Except.map] at parents
    obtain ⟨own, branch, root⟩ : tree.parent? (.wrapping 3) = some (.wrapping 1) ∧
        tree.parent? (.wrapping 1) = some .root ∧ tree.parent? .root = none := by
      simpa using parents
    rw [called]
    intro above
    obtain ⟨first, wired, place⟩ := Arena.isAbove_iff_parent?.mp above
    obtain rfl := Option.some.inj (own.symm.trans wired)
    obtain ⟨second, wired, place⟩ := Arena.isAbove_iff_parent?.mp (place.resolve_left (by decide))
    obtain rfl := Option.some.inj (branch.symm.trans wired)
    obtain ⟨third, wired, -⟩ := Arena.isAbove_iff_parent?.mp (place.resolve_left (by decide))
    cases root.symm.trans wired
  · rw [before]
    decide

end Tree

end DeployTree
