import DeployTree.Proofs.Tree.Building
import DeployTree.Proofs.Tree.Calls
import DeployTree.Schema.Element

/-! # Parents and lists of children

An arena keeps the shape of its tree twice: every entry names its parent, and every entry lists its
children. In a *wired* arena the two agree (`DeployTree.Arena.Wired`). An addition is carried out on
the entries step by step: the parent is looked up, an identifier is taken, the new entry is put at
the end, and then it is listed at its parent (`DeployTree.Tree.enter`). Whatever additions are
tried, and whether they succeed or fail, the entries are those of a wired tree
(`DeployTree.Tree.exists_wired_of_enterEach`). The passes keep it wired.
-/

namespace DeployTree

namespace Arena

variable {ν : Type} {arena after : Arena ν} {id parent other : NodeId}

/-- Whether the entries of an arena are in their places and agree on what is whose child. -/
structure Wired (arena : Arena ν) : Prop where
  root : NodeId.root.index < arena.size
  fits : arena.size ≤ NodeId.capacity
  place : ∀ id entry, arena.entry? id = some entry → entry.id = id
  orphan : ∀ id : NodeId, id.index < arena.size → (arena.parent? id = none ↔ id = .root)
  order : ∀ id parent, arena.parent? id = some parent → parent.index < id.index
  sorted : ∀ id, (arena.children id).Pairwise fun first second => first.index < second.index
  children : ∀ id child, child ∈ arena.children id ↔ arena.parent? child = some id

/-- Positions outside the arena have no entry. -/
theorem entry?_eq_none (outside : arena.size ≤ id.index) : arena.entry? id = none :=
  Array.getElem?_eq_none outside

private theorem parent?_eq_none (outside : arena.size ≤ id.index) : arena.parent? id = none := by
  rw [parent?, entry?_eq_none outside]
  rfl

private theorem children_eq_nil (outside : arena.size ≤ id.index) : arena.children id = [] := by
  rw [Arena.children, entry?_eq_none outside]

/-- A child that is listed is in use. -/
theorem Wired.index_lt_of_mem_children (wired : arena.Wired) {child : NodeId}
    (member : child ∈ arena.children id) : child.index < arena.size := by
  by_contra beyond
  have listed := (wired.children id child).mp member
  rw [parent?_eq_none (Nat.le_of_not_lt beyond)] at listed
  cases listed

private theorem Wired.ofRoot (node : ν) : (ofRoot node).Wired := by
  have only (id : NodeId) (entry : Entry ν)
      (found : Arena.entry? (Arena.ofRoot node) id = some entry) :
      id = .root ∧ entry = ⟨.root, none, [], node⟩ := by
    have inside := index_lt_of_entry? found
    rw [size_ofRoot, Nat.lt_one_iff] at inside
    obtain rfl : id = .root := NodeId.ext_index inside
    exact ⟨rfl, (Option.some.inj found).symm⟩
  have parents (id : NodeId) : (Arena.ofRoot node).parent? id = none := by
    rw [parent?, Option.bind_eq_none_iff]
    intro entry found
    rw [(only id entry found).2]
  have childless (id : NodeId) : (Arena.ofRoot node).children id = [] := by
    rw [Arena.children]
    split
    · rfl
    · rename_i entry found
      rw [(only id entry found).2]
  refine ⟨Nat.one_pos, Nat.le_of_lt (by decide : 1 < NodeId.capacity),
    fun _ _ found => id_of_entry? found, ?_, ?_, ?_, ?_⟩
  · intro id inside
    rw [size_ofRoot, Nat.lt_one_iff] at inside
    exact ⟨fun _ => NodeId.ext_index inside, fun _ => parents id⟩
  · intro id parent same
    rw [parents] at same
    cases same
  · intro id
    rw [childless]
    exact .nil
  · intro id child
    rw [childless, parents]
    simp

section Push

variable {node : ν} (below : parent.index < arena.size) (next : id.index = arena.size)
include below next

private theorem parent?_push :
    Arena.parent? (arena.push parent id node below next) other =
      if other = id then some parent else arena.parent? other := by
  by_cases new : other = id
  · subst new
    rw [if_pos rfl, parent?, entry?_push_self]
    rfl
  · rw [if_neg new, parent?, parent?]
    by_cases same : other = parent
    · subst same
      rw [entry?_push_parent, Option.bind_map]
      rfl
    · rw [entry?_push_of_ne _ _ _ _ same new]

private theorem children_push :
    Arena.children (arena.push parent id node below next) other =
      if other = parent then arena.children other ++ [id] else arena.children other := by
  by_cases same : other = parent
  · subst same
    obtain ⟨entry, found⟩ := exists_entry?_of_lt below
    rw [if_pos rfl, Arena.children, Arena.children, entry?_push_parent, found]
    rfl
  · rw [if_neg same, Arena.children]
    by_cases new : other = id
    · subst new
      rw [entry?_push_self, children_eq_nil (Nat.le_of_eq next.symm)]
    · rw [entry?_push_of_ne _ _ _ _ same new, Arena.children]

/-- A node that is entered is wired to its parent. -/
theorem Wired.push (wired : arena.Wired) : (arena.push parent id node below next).Wired where
  root := by
    rw [size_push]
    exact Nat.lt_succ_of_lt wired.root
  fits := by
    rw [size_push, ← next]
    exact id.index_lt
  place _ _ found := id_of_entry? found
  orphan := by
    intro other inside
    rw [parent?_push]
    rw [size_push] at inside
    by_cases new : other = id
    · subst new
      have positive := wired.root
      refine ⟨fun absent => ?_, fun isRoot => ?_⟩
      · rw [if_pos rfl] at absent
        cases absent
      · rw [isRoot] at next
        omega
    · rw [if_neg new]
      apply wired.orphan
      have apart : other.index ≠ id.index := fun same => new (NodeId.ext_index same)
      omega
  order := by
    intro other above wiredTo
    rw [parent?_push] at wiredTo
    by_cases new : other = id
    · subst new
      rw [if_pos rfl] at wiredTo
      obtain rfl := Option.some.inj wiredTo
      rw [next]
      exact below
    · rw [if_neg new] at wiredTo
      exact wired.order other above wiredTo
  sorted := by
    intro other
    rw [children_push]
    by_cases same : other = parent
    · rw [if_pos same, List.pairwise_append]
      refine ⟨wired.sorted other, List.pairwise_singleton _ _, fun child member last listed => ?_⟩
      obtain rfl := List.mem_singleton.mp listed
      rw [next]
      exact wired.index_lt_of_mem_children member
    · rw [if_neg same]
      exact wired.sorted other
  children := by
    intro other child
    rw [children_push, parent?_push]
    by_cases new : child = id
    · subst new
      have absent : child ∉ arena.children other := fun member =>
        absurd (wired.index_lt_of_mem_children member) (by omega)
      by_cases same : other = parent
      · simp [same]
      · simp [same, absent, Ne.symm same]
    · by_cases same : other = parent
      · subst same
        simp [new, wired.children]
      · simp [new, same, wired.children]

end Push

/-- Being wired is a matter of the places of the entries, not of the nodes. -/
theorem Wired.congr (wired : arena.Wired) (size : after.size = arena.size)
    (places : ∀ id, (after.entry? id).map Entry.place = (arena.entry? id).map Entry.place) :
    after.Wired := by
  have parents (id : NodeId) : after.parent? id = arena.parent? id := parent?_congr (places id)
  have lists (id : NodeId) : after.children id = arena.children id := children_congr (places id)
  refine ⟨size ▸ wired.root, size ▸ wired.fits, fun _ _ found => id_of_entry? found, ?_, ?_, ?_, ?_⟩
  · intro id inside
    rw [parents]
    exact wired.orphan id (size ▸ inside)
  · intro id parent
    rw [parents]
    exact wired.order id parent
  · intro id
    rw [lists]
    exact wired.sorted id
  · intro id child
    rw [lists, parents]
    exact wired.children id child

end Arena

namespace Tree

variable {ν : Type}

/-- A call that adds a node, carried out on the entries of a tree one step after another. -/
def enter (parent : NodeId) (node : ν) : ExceptT Error (StateM (Array (Entry ν))) NodeId := do
  let entries ← get
  if parent.index < entries.size then
    match NodeId.ofIndex? entries.size with
    | none => throw (.invalidTree .full)
    | some id =>
        modify fun entries => entries.push ⟨id, some parent, [], node⟩
        modify fun entries =>
          entries.modify parent.index fun entry => Arena.Entry.withChild entry id
        pure id
  else throw (.invalidTree (.unknownParent parent))

/-- The entries after calls that are made one after another, whether they succeed or fail. -/
def enterEach : List (NodeId × ν) → Array (Entry ν) → Array (Entry ν)
  | [], entries => entries
  | (parent, node) :: rest, entries => enterEach rest ((enter parent node).run.run entries).2

/-- Whether a tree is another one with a node added: the node has the next identifier and no
children, its parent lists it last, and all other entries are as they were. -/
structure Adds (before after : Tree ν .constructed) (parent id : NodeId) (node : ν) : Prop where
  next : id.index = before.size
  size : after.size = before.size + 1
  entered : after.arena.entry? id = some ⟨id, some parent, [], node⟩
  listed : ∃ entry, before.arena.entry? parent = some entry ∧
    after.arena.entry? parent = some { entry with children := entry.children ++ [id] }
  others : ∀ other, other ≠ parent → other ≠ id →
    after.arena.entry? other = before.arena.entry? other

/-- What a call that adds a node answers, and the entries that it leaves. -/
inductive Attempt (tree : Tree ν .constructed) (parent : NodeId) (node : ν) :
    Except Error NodeId × Array (Entry ν) → Prop
  | added {next : Tree ν .constructed} {id : NodeId} (ok : tree.add parent node = .ok (next, id))
      (adds : tree.Adds next parent id node) : Attempt tree parent node (.ok id, next.arena.entries)
  | unknownParent (outside : tree.size ≤ parent.index)
      (refused : tree.add parent node = .error (.invalidTree (.unknownParent parent))) :
      Attempt tree parent node
        (.error (.invalidTree (.unknownParent parent)), tree.arena.entries)
  | full (inside : parent.index < tree.size) (none : tree.size = NodeId.capacity)
      (refused : tree.add parent node = .error (.invalidTree .full)) :
      Attempt tree parent node (.error (.invalidTree .full), tree.arena.entries)

variable {tree next : Tree ν .constructed} {parent id : NodeId} {node : ν}

private theorem adds_of_add (added : tree.add parent node = .ok (next, id)) :
    tree.Adds next parent id node := by
  obtain ⟨below, free, pushed⟩ := exists_push_of_add added
  obtain ⟨entry, found⟩ := Arena.exists_entry?_of_lt below
  refine ⟨free, ?_, ?_, ⟨entry, found, ?_⟩, ?_⟩
  · rw [size, pushed, Arena.size_push]
    rfl
  · rw [pushed, Arena.entry?_push_self]
  · rw [pushed, Arena.entry?_push_parent, found]
    rfl
  · intro other notParent notNew
    rw [pushed, Arena.entry?_push_of_ne _ _ _ _ notParent notNew]

private theorem wired_of_add (wired : tree.arena.Wired)
    (added : tree.add parent node = .ok (next, id)) :
    next.arena.Wired := by
  obtain ⟨below, free, pushed⟩ := exists_push_of_add added
  rw [pushed]
  exact wired.push below free

/-- A built tree is wired. -/
theorem Built.wired (built : tree.Built) : tree.arena.Wired := by
  induction built with
  | root node => exact .ofRoot node
  | add _ added ih => exact wired_of_add ih added

/-- What the steps of a call come to. -/
theorem run_enter (parent : NodeId) (node : ν) (entries : Array (Entry ν)) :
    (enter parent node).run.run entries =
      if parent.index < entries.size then
        match NodeId.ofIndex? entries.size with
        | none => (.error (.invalidTree .full), entries)
        | some id =>
            (.ok id, (entries.push ⟨id, some parent, [], node⟩).modify parent.index
              fun entry => Arena.Entry.withChild entry id)
      else (.error (.invalidTree (.unknownParent parent)), entries) := by
  unfold enter
  change StateT.run (ExceptT.run (ite _ _ _)) entries = _
  by_cases inside : parent.index < entries.size
  · rw [if_pos inside, if_pos inside]
    cases NodeId.ofIndex? entries.size with
    | none => rfl
    | some id => rfl
  · rw [if_neg inside, if_neg inside]
    rfl

/-- The new entry may be put in place before its parent lists it. -/
theorem entries_push (arena : Arena ν) (below : parent.index < arena.size)
    (free : id.index = arena.size) :
    Arena.entries (arena.push parent id node below free) =
      (arena.entries.push ⟨id, some parent, [], node⟩).modify parent.index
        fun entry => Arena.Entry.withChild entry id := by
  have apart : parent.index ≠ arena.entries.size := Nat.ne_of_lt below
  apply Array.ext_getElem?
  intro index
  rw [Arena.push, Array.getElem?_push, Array.getElem?_modify, Array.getElem?_modify,
    Array.getElem?_push, Array.size_modify]
  by_cases last : index = arena.entries.size
  · rw [if_pos last, if_pos last, if_neg (last ▸ apart)]
  · rw [if_neg last, if_neg last]

/-- The steps of a call do what adding a node to the tree does. -/
theorem attempt_enter (wired : tree.arena.Wired) (parent : NodeId) (node : ν) :
    tree.Attempt parent node ((enter parent node).run.run tree.arena.entries) := by
  rw [run_enter]
  by_cases inside : parent.index < tree.arena.entries.size
  · rw [if_pos inside]
    by_cases room : tree.arena.entries.size < NodeId.capacity
    · obtain ⟨next, id, added, -, free⟩ := add_of_room node inside room
      have taken : NodeId.ofIndex? tree.arena.entries.size = some id :=
        (congrArg NodeId.ofIndex? free.symm).trans id.ofIndex?_index
      obtain ⟨below, free, pushed⟩ := exists_push_of_add added
      have left : next.arena.entries = _ :=
        (congrArg Arena.entries pushed).trans (entries_push tree.arena below free)
      have attempt : tree.Attempt parent node (.ok id, next.arena.entries) :=
        .added added (adds_of_add added)
      rw [taken]
      rwa [left] at attempt
    · have absent : NodeId.ofIndex? tree.arena.entries.size = none := dif_neg room
      have refused : tree.add parent node = .error (.invalidTree .full) :=
        (dif_pos inside).trans (dif_neg room)
      rw [absent]
      exact .full inside (Nat.le_antisymm wired.fits (Nat.le_of_not_lt room)) refused
  · rw [if_neg inside]
    exact .unknownParent (Nat.le_of_not_lt inside) (dif_neg inside)

/-- One call leaves the entries of a tree that is built and wired. -/
theorem exists_wired_of_enter (built : tree.Built) (wired : tree.arena.Wired) (parent : NodeId)
    (node : ν) :
    ∃ next : Tree ν .constructed,
      next.arena.entries = ((enter parent node).run.run tree.arena.entries).2 ∧
        next.Built ∧ next.arena.Wired := by
  have attempt := attempt_enter wired parent node
  generalize (enter parent node).run.run tree.arena.entries = answer at attempt ⊢
  cases attempt with
  | added ok adds => exact ⟨_, rfl, built.add ok, wired_of_add wired ok⟩
  | unknownParent => exact ⟨tree, rfl, built, wired⟩
  | full => exact ⟨tree, rfl, built, wired⟩

private theorem exists_wired_of_enterEach_of_built (built : tree.Built) (wired : tree.arena.Wired)
    (calls : List (NodeId × ν)) :
    ∃ last : Tree ν .constructed, last.arena.entries = enterEach calls tree.arena.entries ∧
      last.Built ∧ last.arena.Wired := by
  induction calls generalizing tree with
  | nil => exact ⟨tree, rfl, built, wired⟩
  | cons call rest ih =>
      obtain ⟨next, left, nextBuilt, nextWired⟩ :=
        exists_wired_of_enter built wired call.1 call.2
      rw [enterEach, ← left]
      exact ih nextBuilt nextWired

variable [Node ν]

/-- Resolution keeps a tree wired. -/
theorem wired_of_resolve {interpolator : Interpolator} {resolved : Tree ν .resolved}
    (wired : tree.arena.Wired) (ok : (tree.resolve interpolator).outcome = .ok resolved) :
    resolved.arena.Wired := by
  obtain ⟨after, resolves, rest⟩ := Run.outcome_bind_eq_ok_iff.mp ok
  obtain rfl : ⟨after⟩ = resolved := Except.ok.inj rest
  exact wired.congr (size_of_resolveNodes resolves) (place_of_resolveNodes resolves)

/-- Validation keeps a tree wired. -/
theorem wired_of_validate {resolved : Tree ν .resolved} {validated : Tree ν .validated}
    (wired : resolved.arena.Wired) (ok : resolved.validate.outcome = .ok validated) :
    validated.arena.Wired := by
  obtain ⟨-, -, rest⟩ := Run.outcome_bind_eq_ok_iff.mp ok
  obtain rfl : ⟨resolved.arena⟩ = validated := Except.ok.inj rest
  exact wired

/-- **Wiring.** After any calls that add nodes to a root, whether they succeed or fail, the entries
are those of a wired tree. A further call either adds a node with the next identifier and changes
nothing but its parent's list, or it leaves all entries as they are: its parent is not in use, or no
identifier is left. Resolving and validating keep the tree wired. -/
theorem exists_wired_of_enterEach (root : ν) (calls : List (NodeId × ν)) :
    ∃ tree : Tree ν .constructed,
      tree.arena.entries = enterEach calls #[⟨NodeId.root, none, [], root⟩] ∧
        tree.Built ∧ tree.arena.Wired ∧
        (∀ parent node,
          tree.Attempt parent node ((enter parent node).run.run tree.arena.entries)) ∧
        ∀ interpolator resolved, (tree.resolve interpolator).outcome = .ok resolved →
          resolved.arena.Wired ∧
            ∀ validated, resolved.validate.outcome = .ok validated → validated.arena.Wired := by
  obtain ⟨tree, left, built, wired⟩ :=
    exists_wired_of_enterEach_of_built (Built.root root) (.ofRoot root) calls
  refine ⟨tree, left, built, wired, attempt_enter wired, fun interpolator resolved ok => ?_⟩
  have kept := wired_of_resolve wired ok
  exact ⟨kept, fun validated => wired_of_validate kept⟩

/-- A probe that does nothing. -/
def blankProbe : Element :=
  .probe
    { label := none
      values := Dictionary.empty
      strict := false
      rules := []
      inheritedNames := []
      keepsInherited := false
      interpolatedNames := [] }

/-- A call under the root, one under a node that is not in use, and one under the first node. -/
def tries : List (NodeId × Element) :=
  [(.root, blankProbe), (.wrapping 7, blankProbe), (.wrapping 1, blankProbe)]

/-- The call that fails leaves no trace, and the tree can be resolved and validated. -/
theorem exists_wired_of_enterEach_tries :
    ∃ (tree : Tree Element .constructed) (resolved : Tree Element .resolved)
      (validated : Tree Element .validated),
      tree.arena.entries = enterEach tries #[⟨NodeId.root, none, [], blankProbe⟩] ∧
        tree.size = 3 ∧ tree.arena.Wired ∧
        (tree.resolve ⟨.standard, fun _ => none⟩).outcome = .ok resolved ∧
        resolved.arena.Wired ∧ resolved.validate.outcome = .ok validated ∧
        validated.arena.Wired := by
  obtain ⟨tree, left, -, wired, -, passes⟩ := exists_wired_of_enterEach blankProbe tries
  have evaluated : ((ofRoot blankProbe).addEach
      [(.root, blankProbe), (.wrapping 1, blankProbe)] >>= fun tree =>
        (tree.resolve ⟨.standard, fun _ => none⟩).outcome >>= fun resolved =>
          resolved.validate.outcome.map Tree.size) = .ok 3 := by
    decide +kernel
  obtain ⟨concrete, added, evaluated⟩ := bind_eq_ok_iff.mp evaluated
  obtain ⟨resolved, resolves, evaluated⟩ := bind_eq_ok_iff.mp evaluated
  obtain ⟨validated, validates, -⟩ := map_eq_ok_iff.mp evaluated
  have same : concrete = tree := by
    obtain rfl := Except.ok.inj added
    obtain ⟨entries, lower, upper⟩ := tree
    cases left
    rfl
  subst same
  have size : concrete.size = 3 := by
    rw [Tree.size, Arena.size, left]
    rfl
  obtain ⟨resolvedWired, validatedWired⟩ := passes _ resolved resolves
  exact ⟨concrete, resolved, validated, left, size, wired, resolves, resolvedWired, validates,
    validatedWired validated validates⟩

end Tree

end DeployTree
