import DeployTree.Proofs.Tree.Reached

/-! # The way up of a look-up

A look-up with inheritance goes from a node to its parent, to the parent of that, and so on. Nothing
but the numbering of the nodes makes it end: parents have the smaller identifiers, so the look-up at
a node makes at most as many calls as there are identifiers up to it. It ends at the first node of
the path to the root that cannot be read, has a value of its own, does not fall back to its parent,
or is the root, and the answer is what this node itself has (`DeployTree.Tree.Reached.looksUp`).
-/

namespace DeployTree

namespace Arena

variable {ν : Type}

/-- The path from a node up to the root, each node followed by its parent. -/
inductive PathUp (arena : Arena ν) : NodeId → List NodeId → Prop
  | root : PathUp arena .root [.root]
  | step {id parent : NodeId} {path : List NodeId} (wired : arena.parent? id = some parent)
      (higher : PathUp arena parent path) : PathUp arena id (id :: path)

/-- Every node has a path up to the root. -/
theorem Wired.exists_pathUp {arena : Arena ν} (wired : arena.Wired) {id : NodeId}
    (inside : id.index < arena.size) : ∃ rest, arena.PathUp id (id :: rest) := by
  induction reach : id.index using Nat.strongRecOn generalizing id with
  | ind index ih =>
      subst reach
      cases direct : arena.parent? id with
      | none =>
          obtain rfl := (wired.orphan id inside).mp direct
          exact ⟨[], .root⟩
      | some parent =>
          have lower := parent?_lt direct
          obtain ⟨rest, higher⟩ := ih parent.index lower (Nat.lt_trans lower inside) rfl
          exact ⟨parent :: rest, .step direct higher⟩

end Arena

section Ends

variable {ν : Type} [Attributed ν]

/-- Whether a look-up that has come to a node goes no further. -/
inductive EndsAt (name : String) (id : NodeId) (node : ν) : Prop
  | refused {error : Error} (reads : Attributed.read node name = .error error)
  | given {own : Option Value} (reads : Attributed.read node name = .ok own)
      (given : Value.isGiven own = true)
  | alone (alone : Attributed.inherits node name = false)
  | root (top : id = .root)

variable {name : String} {id : NodeId} {node : ν} {outlook : Outlook}

/-- A node at which the look-up ends answers for itself. -/
theorem EndsAt.settingOf_eq (ends : EndsAt name id node) (orphan : id = .root → outlook = none) :
    outlook.settingOf node name = Attributed.read node name := by
  unfold Outlook.settingOf
  cases reads : Attributed.read node name with
  | error error => rfl
  | ok own =>
      cases ends with
      | refused refused =>
          rw [reads] at refused
          cases refused
      | given also given =>
          obtain rfl := Except.ok.inj (reads.symm.trans also)
          simp [given]
      | alone alone => simp [alone]
      | root top =>
          rw [orphan top]
          simp

/-- Elsewhere the answer is the parent's. -/
theorem settingOf_eq_above {above : String → Except Error (Option Value)}
    (goes : ¬ EndsAt name id node) :
    Outlook.settingOf (some above) node name = above name := by
  unfold Outlook.settingOf
  cases reads : Attributed.read node name with
  | error error => exact absurd (.refused reads) goes
  | ok own =>
      have absent : Value.isGiven own = false :=
        Bool.eq_false_iff.mpr fun given => goes (.given reads given)
      have falls : Attributed.inherits node name = true :=
        Decidable.byContradiction fun stays => goes (.alone (Bool.eq_false_iff.mpr stays))
      simp [absent, falls]

end Ends

namespace View

variable {ν : Type} [Attributed ν] {view : View ν} {id : NodeId} {name : String}

/-- The look-up of a setting, cut off after a number of calls. -/
def climb (view : View ν) (name : String) : Nat → NodeId → Option (Except Error (Option Value))
  | 0, _ => none
  | calls + 1, id =>
      match view.entry? id with
      | none => some (.error (.invalidTree (.notVisible id)))
      | some entry =>
          match Attributed.read entry.node name with
          | .error error => some (.error error)
          | .ok own =>
              if Value.isGiven own || !Attributed.inherits entry.node name then some (.ok own)
              else
                match entry.parent with
                | none => some (.ok own)
                | some parent => view.climb name calls parent

/-- A look-up needs no more calls than there are identifiers up to the node where it starts. -/
theorem climb_eq_setting {calls : Nat} (enough : id.index < calls) :
    view.climb name calls id = some (view.setting id name) := by
  induction calls generalizing id with
  | zero => omega
  | succ calls ih =>
      rw [climb]
      cases found : view.entry? id with
      | none => rw [(refused_of_entry?_eq_none found).2.2 name]
      | some entry =>
          have own := setting_of_entry? found name
          rw [own, Outlook.settingOf]
          dsimp only
          cases Attributed.read entry.node name with
          | error error => rfl
          | ok own =>
              by_cases stays : (Value.isGiven own || !Attributed.inherits entry.node name) = true
              · simp only [stays, ↓reduceIte]
              · simp only [stays]
                cases wired : entry.parent with
                | none => rfl
                | some parent =>
                    have lower := Arena.parent_lt_of_entry? (entry?_arena found) wired
                    exact ih (Nat.lt_of_lt_of_le lower (Nat.le_of_lt_succ enough))

/-- What a node that falls back to its parent has or gets from above is its setting. -/
theorem ownOrInherited_eq_setting {entry : Entry ν} {parent : NodeId}
    (found : view.entry? id = some entry) (wired : entry.parent = some parent)
    (falls : Attributed.inherits entry.node name = true) :
    view.ownOrInherited (some parent) entry.node name = view.setting id name := by
  have own := setting_of_entry? found name
  rw [own, wired, ownOrInherited, Outlook.settingOf]
  cases Attributed.read entry.node name with
  | error error => rfl
  | ok own => simp [falls, outlook]

end View

namespace Tree

variable {ν : Type} {phase : Phase}

/-- How a look-up of an attribute that starts at a node goes. It ends within a number of calls, with
the answer of the first node of the path to the root at which it goes no further, or with an error
if there is no such node in the tree. A node that falls back to its parent finds the same by asking
for itself (`override`). -/
structure LooksUp [Attributed ν] (tree : Tree ν phase) (id : NodeId) (name : String) : Prop where
  ends : ∀ calls, id.index < calls → tree.view.climb name calls id = some (tree.setting id name)
  first : id.index < tree.size → ∃ lower stop upper node,
    tree.arena.PathUp id (lower ++ stop :: upper) ∧
      (∀ passed ∈ lower, ∀ other, tree.node? passed = some other → ¬ EndsAt name passed other) ∧
      tree.node? stop = some node ∧ EndsAt name stop node ∧
      tree.setting id name = Attributed.read node name
  outside : tree.size ≤ id.index → tree.setting id name = .error (.invalidTree (.notVisible id))
  override : ∀ node, tree.node? id = some node → id ≠ .root →
    Attributed.inherits node name = true →
      tree.view.ownOrInherited (tree.parent? id) node name = tree.setting id name

variable {tree : Tree ν phase} {id : NodeId} {name : String}

/-- The look-up ends on the path to the root, at the first node where it goes no further. -/
theorem exists_stop [Attributed ν] (wired : tree.arena.Wired) (inside : id.index < tree.size) :
    ∃ lower stop upper node, tree.arena.PathUp id (lower ++ stop :: upper) ∧
      (∀ passed ∈ lower, ∀ other, tree.node? passed = some other → ¬ EndsAt name passed other) ∧
      tree.node? stop = some node ∧ EndsAt name stop node ∧
      tree.setting id name = Attributed.read node name := by
  -- A parent has a smaller identifier than its child.
  induction reach : id.index using Nat.strongRecOn generalizing id with
  | ind index ih =>
      subst reach
      obtain ⟨entry, found⟩ := tree.arena.exists_entry?_of_lt inside
      have own : tree.node? id = some entry.node := congrArg (Option.map Entry.node) found
      have parent : tree.arena.parent? id = entry.parent := by
        rw [Arena.parent?, found, Option.bind_some]
      have visible : tree.view.entry? id = some entry := (tree.arena.entry?_view id).trans found
      have setting : tree.setting id name =
          (tree.view.outlook entry.parent).settingOf entry.node name :=
        View.setting_of_entry? visible name
      by_cases ends : EndsAt name id entry.node
      · obtain ⟨rest, path⟩ := wired.exists_pathUp inside
        refine ⟨[], id, rest, entry.node, path, by simp, own, ends, ?_⟩
        rw [setting]
        apply ends.settingOf_eq
        intro top
        rw [← parent, (wired.orphan id inside).mpr top, View.outlook_none]
      · cases direct : entry.parent with
        | none =>
            rw [direct] at parent
            exact absurd (.root ((wired.orphan id inside).mp parent)) ends
        | some above =>
            rw [direct] at parent setting
            have lower := Arena.parent?_lt parent
            obtain ⟨passed, stop, upper, node, path, goOn, there, stops, answer⟩ :=
              ih above.index lower (Nat.lt_trans lower inside) rfl
            refine ⟨id :: passed, stop, upper, node, .step parent path, ?_, there, stops, ?_⟩
            · intro next listed other present
              rcases List.mem_cons.mp listed with rfl | further
              · obtain rfl := Option.some.inj (own.symm.trans present)
                exact ends
              · exact goOn next further other present
            · rw [setting]
              exact (settingOf_eq_above ends).trans answer

variable [Node ν]

/-- **The way up.** In a tree that can be reached, in whatever phase, a look-up ends with the answer
of the first node on the path to the root at which it goes no further. -/
theorem Reached.looksUp (reached : tree.Reached) (id : NodeId) (name : String) :
    tree.LooksUp id name where
  ends _ enough := View.climb_eq_setting enough
  first := exists_stop reached.wired
  outside beyond := by
    have hidden : tree.view.entry? id = none :=
      (tree.arena.entry?_view id).trans (Arena.entry?_eq_none beyond)
    exact (View.refused_of_entry?_eq_none hidden).2.2 name
  override node present below falls := by
    obtain ⟨entry, found, rfl⟩ := Option.map_eq_some_iff.mp present
    have visible : tree.view.entry? id = some entry := (tree.arena.entry?_view id).trans found
    have parent : tree.parent? id = entry.parent := by
      rw [parent?, Arena.parent?, found, Option.bind_some]
    have inside := Arena.index_lt_of_entry? found
    obtain ⟨above, wired⟩ : ∃ above, entry.parent = some above := by
      rw [← Option.ne_none_iff_exists', ← parent]
      exact fun orphan => below ((reached.wired.orphan id inside).mp orphan)
    rw [parent, wired]
    exact View.ownOrInherited_eq_setting visible wired falls

/-- A probe that falls back to its parent for some attributes. -/
def fallingProbe (values : List (String × Value)) (names : List String) : Element :=
  .probe
    { label := none
      values := Dictionary.ofList values
      strict := false
      rules := []
      inheritedNames := names
      keepsInherited := false
      interpolatedNames := ["format"] }

/-- Probes one below the other: the first has a format to be filled in, the next two fall back, one
of them from an empty text, and the last stands for itself. -/
def fallbacks : Except Error (Tree Element .constructed) :=
  (ofRoot (fallingProbe [("format", .text "$\x7benv.CONVERGDB_FORMAT\x7d")] [])).addEach
    [ (.root, fallingProbe [("format", .text "")] ["format"]),
      (.root, fallingProbe [("format", .text "xml")] []),
      (.wrapping 1, fallingProbe [] ["format"]),
      (.wrapping 3, fallingProbe [] []) ]

/-- A source of one variable. -/
def formatSource : Interpolator :=
  ⟨.standard, Bindings.lookup (Dictionary.ofList [("CONVERGDB_FORMAT", "csv")])⟩

/-- Once the tree has been resolved, the third probe finds the filled format of the root past the
empty text; the probe below it finds nothing. -/
theorem looksUp_fallbacks :
    ∃ tree resolved, fallbacks = .ok tree ∧
      (tree.resolve formatSource).outcome = .ok resolved ∧ resolved.Reached ∧
      resolved.LooksUp (.wrapping 3) "format" ∧
      resolved.setting (.wrapping 3) "format" = .ok (some (.text "csv")) ∧
      resolved.setting (.wrapping 4) "format" = .ok none := by
  obtain ⟨tree, ok⟩ : ∃ tree, fallbacks = .ok tree := ⟨_, rfl⟩
  have evaluated : (fallbacks.bind fun tree =>
      (tree.resolve formatSource).outcome.map fun resolved =>
        (resolved.setting (.wrapping 3) "format", resolved.setting (.wrapping 4) "format")) =
      .ok (.ok (some (.text "csv")), .ok none) := by
    decide +kernel
  rw [ok] at evaluated
  obtain ⟨resolved, resolves, settings⟩ := map_eq_ok_iff.mp evaluated
  obtain ⟨inherited, own⟩ := Prod.mk.inj settings
  have reached : resolved.Reached := .resolved (.built ((Built.root _).addEach ok)) resolves
  exact ⟨tree, resolved, ok, resolves, reached, reached.looksUp _ _, inherited, own⟩

end Tree

end DeployTree
