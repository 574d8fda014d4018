import DeployTree.Tree.Node

/-! # What a node finds above it

A look-up with inheritance only walks up: from a node it reaches the node itself and its ancestors,
which all lie at or below its position. So two views that agree up to there give the same settings
(`DeployTree.View.setting_congr`). What a node finds above it, its *outlook*, is nothing at the root
and the settings of its parent elsewhere; the settings of a node follow from its outlook and its own
values (`DeployTree.View.outlook_eq_beneath`).
-/

namespace DeployTree

/-- What a node finds above it: nothing at the root, else the settings of its parent. -/
abbrev Outlook := Option (String → Except Error (Option Value))

/-- The setting of a node with a given outlook. -/
def Outlook.settingOf {ν : Type} [Attributed ν] (outlook : Outlook) (node : ν) (name : String) :
    Except Error (Option Value) :=
  match Attributed.read node name with
  | .error error => .error error
  | .ok own =>
      if Value.isGiven own || !Attributed.inherits node name then .ok own
      else
        match outlook with
        | none => .ok own
        | some above => above name

/-- What the children of a node find above them. -/
def Outlook.beneath {ν : Type} [Attributed ν] (outlook : Outlook) (node : ν) : Outlook :=
  some (outlook.settingOf node)

/-- A node that inherits nothing has only settings of its own. -/
theorem Outlook.settingOf_eq_read {ν : Type} [Attributed ν] (outlook : Outlook) {node : ν}
    {name : String} (own : Attributed.inherits node name = false) :
    outlook.settingOf node name = Attributed.read node name := by
  unfold settingOf
  cases Attributed.read node name with
  | error error => rfl
  | ok value => simp [own]

namespace View

variable {ν : Type} [Attributed ν] {view other : View ν} {id : NodeId} {entry : Entry ν}

/-- What the children of `parent` find above them; nothing without a parent. -/
def outlook (view : View ν) (parent : Option NodeId) : Outlook := parent.map view.setting

/-- Nothing is found above the root. -/
@[simp] theorem outlook_none (view : View ν) : view.outlook none = none := rfl

/-- The settings of a node come from its own values and from what it finds above it. -/
theorem outlook_eq_beneath (found : view.entry? id = some entry) :
    view.outlook (some id) = Outlook.beneath (view.outlook entry.parent) entry.node := by
  unfold outlook Outlook.beneath
  rw [Option.map_some, Option.some.injEq]
  funext name
  rw [setting, Outlook.settingOf]
  split
  · rename_i hidden
    rw [found] at hidden
    cases hidden
  · rename_i present same
    obtain rfl : entry = present := Option.some.inj (found.symm.trans same)
    cases read : Attributed.read entry.node name with
    | error error => rfl
    | ok own =>
        simp only
        split
        · rfl
        · split <;> rename_i wired <;> rw [wired] <;> rfl

/-- The setting of a node is its own, or else what it finds above it. -/
theorem setting_of_entry? (found : view.entry? id = some entry) (name : String) :
    view.setting id name = (view.outlook entry.parent).settingOf entry.node name :=
  congrFun (Option.some.inj (outlook_eq_beneath found)) name

/-- Settings only depend on the entries up to the node that is asked. -/
theorem setting_congr
    (agree : ∀ lower : NodeId, lower.index ≤ id.index → view.entry? lower = other.entry? lower) :
    view.setting id = other.setting id := by
  induction reach : id.index using Nat.strongRecOn generalizing id with
  | ind index ih =>
      subst reach
      have same := agree id (Nat.le_refl _)
      cases found : view.entry? id with
      | none =>
          funext name
          have hidden : other.entry? id = none := same ▸ found
          rw [setting, setting]
          split
          · split
            · rfl
            · rename_i present
              rw [hidden] at present
              cases present
          · rename_i present
            rw [found] at present
            cases present
      | some entry =>
          have above : view.outlook entry.parent = other.outlook entry.parent := by
            cases wired : entry.parent with
            | none => rfl
            | some parent =>
                have lower : parent.index < id.index :=
                  Arena.parent_lt_of_entry? (entry?_arena found) wired
                exact congrArg some (ih parent.index lower
                  (fun next reached => agree next (by omega)) rfl)
          have own := outlook_eq_beneath (same ▸ found : other.entry? id = some entry)
          rw [← above, ← outlook_eq_beneath found] at own
          exact (Option.some.inj own).symm

/-- What a node finds above it only depends on the entries up to its parent. -/
theorem outlook_congr {parent : Option NodeId}
    (agree : ∀ above, parent = some above → ∀ lower : NodeId, lower.index ≤ above.index →
      view.entry? lower = other.entry? lower) :
    view.outlook parent = other.outlook parent := by
  cases parent with
  | none => rfl
  | some above => exact congrArg some (setting_congr (agree above rfl))

end View

namespace Arena

variable {ν : Type} {arena : Arena ν} {id : NodeId}

/-- All nodes are in the view of all nodes. -/
@[simp] theorem entry?_view (arena : Arena ν) (id : NodeId) :
    arena.view.entry? id = arena.entry? id := by
  rw [View.entry?_eq, view]
  split
  · rfl
  · rename_i outside
    exact (Array.getElem?_eq_none (Nat.le_of_not_lt outside)).symm

/-- The nodes entered before one are in view below it. -/
theorem entry?_viewBelow {lower : NodeId} (below : lower.index < id.index) :
    View.entry? (arena.viewBelow id) lower = arena.entry? lower :=
  (View.entry?_eq _ lower).trans (if_pos below)

variable [Attributed ν]

/-- A node that only sees the nodes entered before it finds the same above it as if it saw all. -/
theorem outlook_viewBelow {entry : Entry ν} (found : arena.entry? id = some entry) :
    (arena.viewBelow id).outlook entry.parent = arena.view.outlook entry.parent := by
  refine View.outlook_congr fun above wired lower reached => ?_
  have inside := parent_lt_of_entry? found wired
  rw [entry?_viewBelow (Nat.lt_of_le_of_lt reached inside), entry?_view]

/-- What stands above a node does not change when others from there on are replaced. -/
theorem outlook_congr {other : Arena ν} {parent : Option NodeId}
    (agree : ∀ above, parent = some above → ∀ lower : NodeId, lower.index ≤ above.index →
      other.entry? lower = arena.entry? lower) :
    other.view.outlook parent = arena.view.outlook parent :=
  View.outlook_congr fun above wired lower reached => by
    rw [entry?_view, entry?_view, agree above wired lower reached]

end Arena

end DeployTree
