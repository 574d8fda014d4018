import DeployTree.Proofs.Tree.Forest
import DeployTree.Proofs.Tree.Outlook
import Mathlib.Data.List.Nodup
import Mathlib.Data.List.Perm.Subperm
import Mathlib.Logic.Relation

/-! # Ancestors and the depth-first order

The proper ancestors of a node are its parent, the parent of that, and so on up to the root
(`DeployTree.Arena.IsAbove`). The depth-first listing of a spanned arena holds every node once, each
after all its ancestors (`DeployTree.Forest.Spans.mem_front_of_isAbove`) and before everything that
stands below it (`DeployTree.Forest.Spans.notMem_front_of_isAbove`). A look-up with inheritance that
starts at a visible node fails only where a node on the way up has no such attribute
(`DeployTree.View.exists_read_of_setting_eq_error`).
-/

namespace DeployTree

namespace Arena

variable {ν : Type} {arena : Arena ν} {above id parent : NodeId}

/-- Whether a node is a proper ancestor of another one. -/
def IsAbove (arena : Arena ν) : NodeId → NodeId → Prop :=
  Relation.TransGen fun above id => arena.parent? id = some above

private theorem parent?_eq_some_iff :
    arena.parent? id = some parent ↔
      ∃ entry, arena.entry? id = some entry ∧ entry.parent = some parent := by
  rw [parent?, Option.bind_eq_some_iff]

/-- Every position within the arena has an entry. -/
theorem exists_entry?_of_lt (inside : id.index < arena.size) :
    ∃ entry, arena.entry? id = some entry :=
  ⟨arena.entries[id.index], Array.getElem?_eq_getElem inside⟩

/-- The listing of a node is the node and then the listings of its children. -/
theorem listing_of_entry? {entry : Entry ν} (found : arena.entry? id = some entry) :
    arena.listing id = id :: entry.children.flatMap arena.listing := by
  rw [listing]
  split
  · rename_i hidden
    rw [found] at hidden
    cases hidden
  · rename_i present same
    obtain rfl := Option.some.inj (found.symm.trans same)
    rw [List.flatMap_subtype fun _ _ => rfl, List.unattach_attach]

/-- No position within the arena is without an entry. -/
theorem entry?_ne_none (inside : id.index < arena.size) : arena.entry? id ≠ none := by
  obtain ⟨entry, found⟩ := exists_entry?_of_lt inside
  rw [found]
  exact Option.some_ne_none entry

/-- Parents come before their children. -/
theorem parent?_lt (wired : arena.parent? id = some parent) : parent.index < id.index := by
  obtain ⟨entry, found, same⟩ := parent?_eq_some_iff.mp wired
  exact parent_lt_of_entry? found same

/-- Ancestors come before their descendants. -/
theorem IsAbove.index_lt (isAbove : arena.IsAbove above id) : above.index < id.index := by
  induction isAbove with
  | single wired => exact parent?_lt wired
  | tail _ wired ih => exact Nat.lt_trans ih (parent?_lt wired)

/-- Ancestors only depend on the parents. -/
theorem IsAbove.congr {other : Arena ν} (isAbove : arena.IsAbove above id)
    (agree : ∀ id, other.parent? id = arena.parent? id) : other.IsAbove above id :=
  Relation.TransGen.mono (fun _ lower wired => (agree lower).trans wired) _ _ isAbove

end Arena

namespace Forest

variable {ν : Type} {arena : Arena ν} {forest : Forest ν} {parent : Option NodeId}
  {id above : NodeId} {front back : List NodeId}

/-- The forest that spans an arena holds every position once. -/
theorem Spans.map_index_perm (spans : forest.Spans arena) :
    (forest.ids.map NodeId.index).Perm (List.range arena.size) := by
  have distinct : (forest.ids.map NodeId.index).Nodup :=
    spans.distinct.map fun _ _ => NodeId.ext_index
  have bounded : forest.ids.map NodeId.index ⊆ List.range arena.size := by
    intro index member
    obtain ⟨other, listed, rfl⟩ := List.mem_map.mp member
    exact List.mem_range.mpr (spans.stands.index_lt_size listed)
  apply (List.subperm_of_subset distinct bounded).perm_of_length_le
  simp only [List.length_range, List.length_map, spans.whole, Nat.le_refl]

/-- The forest that spans an arena holds every identifier in use. -/
theorem Spans.mem_ids_iff (spans : forest.Spans arena) :
    id ∈ forest.ids ↔ id.index < arena.size := by
  constructor
  · exact spans.stands.index_lt_size
  · intro inside
    have all := spans.map_index_perm
    obtain ⟨other, listed, same⟩ := List.mem_map.mp (all.mem_iff.mpr (List.mem_range.mpr inside))
    exact NodeId.ext_index same ▸ listed

/-- The depth-first listings of the branches of a forest are its identifiers. -/
theorem flatMap_listing_tops (stands : forest.StandsIn arena parent) :
    forest.tops.flatMap arena.listing = forest.ids := by
  induction forest generalizing parent with
  | empty => rfl
  | branch id node below rest ihBelow ihRest =>
      obtain ⟨here, standsBelow, standsRest⟩ := stands
      have own : arena.listing id = id :: below.tops.flatMap arena.listing :=
        Arena.listing_of_entry? here
      rw [tops, List.flatMap_cons, own, ihBelow standsBelow, ihRest standsRest, ids,
        List.cons_append]

/-- The listing of the root is the whole forest. -/
theorem Spans.listing_root (spans : forest.Spans arena) : arena.listing .root = forest.ids := by
  rw [← flatMap_listing_tops spans.stands, spans.root, List.flatMap_singleton]

/-- The parent of a node of a forest is the one under which the forest stands, or in the forest. -/
theorem StandsIn.parent?_of_mem (stands : forest.StandsIn arena parent) (member : id ∈ forest.ids) :
    arena.parent? id = parent ∨ ∃ above ∈ forest.ids, arena.parent? id = some above := by
  induction forest generalizing parent with
  | empty => cases member
  | branch top node below rest ihBelow ihRest =>
      obtain ⟨here, standsBelow, standsRest⟩ := stands
      rcases List.mem_cons.mp member with same | inside
      · left
        rw [same, Arena.parent?, here, Option.bind_some]
      · rcases List.mem_append.mp inside with inBelow | inRest
        · right
          rcases ihBelow standsBelow inBelow with direct | ⟨above, listed, wired⟩
          · exact ⟨top, List.mem_cons_self, direct⟩
          · exact ⟨above, by simp [ids, listed], wired⟩
        · rcases ihRest standsRest inRest with direct | ⟨above, listed, wired⟩
          · exact .inl direct
          · exact .inr ⟨above, by simp [ids, listed], wired⟩

/-- An entry in a forest carries the identifier under which it is found. -/
theorem StandsIn.id_of_entry? {entry : Entry ν} (stands : forest.StandsIn arena parent)
    (member : id ∈ forest.ids) (found : arena.entry? id = some entry) : entry.id = id := by
  induction forest generalizing parent with
  | empty => cases member
  | branch top node below rest ihBelow ihRest =>
      obtain ⟨here, standsBelow, standsRest⟩ := stands
      rcases List.mem_cons.mp member with rfl | elsewhere
      · rw [here] at found
        obtain rfl := Option.some.inj found
        rfl
      · rcases List.mem_append.mp elsewhere with inBelow | inRest
        · exact ihBelow standsBelow inBelow
        · exact ihRest standsRest inRest

/-- No parent comes after one of its children. -/
theorem StandsIn.pairwise_parent? (stands : forest.StandsIn arena parent)
    (distinct : forest.ids.Nodup) :
    forest.ids.Pairwise fun earlier later => arena.parent? earlier ≠ some later := by
  induction forest generalizing parent with
  | empty => exact .nil
  | branch top node below rest ihBelow ihRest =>
      obtain ⟨here, standsBelow, standsRest⟩ := stands
      obtain ⟨⟨-, notRest⟩, distinctBelow, distinctRest, disjoint⟩ := nodup_ids_branch.mp distinct
      have wired : arena.parent? top = parent := by rw [Arena.parent?, here, Option.bind_some]
      refine List.pairwise_cons.mpr ⟨?_, List.pairwise_append.mpr
        ⟨ihBelow standsBelow distinctBelow, ihRest standsRest distinctRest, ?_⟩⟩
      · intro later member again
        have lower := Arena.parent?_lt again
        rcases List.mem_append.mp member with inBelow | inRest
        · exact absurd (standsBelow.lt_of_mem inBelow) (by omega)
        · rw [wired] at again
          subst again
          exact absurd (standsRest.lt_of_mem inRest) (Nat.lt_irrefl _)
      · intro earlier inBelow later inRest again
        rcases standsBelow.parent?_of_mem inBelow with direct | ⟨above, listed, direct⟩
        · obtain rfl : top = later := Option.some.inj (direct.symm.trans again)
          exact notRest inRest
        · obtain rfl : above = later := Option.some.inj (direct.symm.trans again)
          exact disjoint above listed inRest

/-- The identifiers are distinct, so none comes before itself. -/
theorem Spans.notMem_front (spans : forest.Spans arena) (split : forest.ids = front ++ id :: back) :
    id ∉ front := by
  have distinct := spans.distinct
  rw [split, List.nodup_append] at distinct
  intro again
  exact distinct.2.2 id again id List.mem_cons_self rfl

/-- **Ancestors first.** In depth-first order all proper ancestors of a node come before it. -/
theorem Spans.mem_front_of_isAbove (spans : forest.Spans arena)
    (split : forest.ids = front ++ id :: back) (isAbove : arena.IsAbove above id) :
    above ∈ front := by
  -- A parent is in front of its child, so a chain of parents moves to the front step by step.
  have direct {front back : List NodeId} {above id : NodeId}
      (split : forest.ids = front ++ id :: back) (wired : arena.parent? id = some above) :
      above ∈ front := by
    have lower := Arena.parent?_lt wired
    have inside : id ∈ forest.ids := split ▸ List.mem_append_right _ List.mem_cons_self
    have listed : above ∈ forest.ids :=
      spans.mem_ids_iff.mpr (Nat.lt_trans lower (spans.mem_ids_iff.mp inside))
    have order := spans.stands.pairwise_parent? spans.distinct
    rw [split, List.pairwise_append, List.pairwise_cons] at order
    rw [split] at listed
    rcases List.mem_append.mp listed with inFront | later
    · exact inFront
    · rcases List.mem_cons.mp later with same | inBack
      · exact absurd lower (same ▸ Nat.lt_irrefl _)
      · exact absurd wired (order.2.1.1 above inBack)
  induction isAbove generalizing front back with
  | single wired => exact direct split wired
  | tail _ wired ih =>
      obtain ⟨before, between, same⟩ := List.append_of_mem (direct split wired)
      rw [same, List.append_assoc, List.cons_append] at split
      rw [same]
      exact List.mem_append_left _ (ih split)

/-- **Descendants last.** In depth-first order nothing that stands below a node comes before it. -/
theorem Spans.notMem_front_of_isAbove (spans : forest.Spans arena)
    (split : forest.ids = front ++ above :: back) (isAbove : arena.IsAbove above id) :
    id ∉ front := by
  intro member
  apply spans.notMem_front split
  obtain ⟨before, between, same⟩ := List.append_of_mem member
  rw [same, List.append_assoc, List.cons_append] at split
  rw [same]
  exact List.mem_append_left _ (spans.mem_front_of_isAbove split isAbove)

end Forest

/-- The nodes entered later are out of view. -/
theorem Arena.entry?_viewBelow_eq_none {ν : Type} {arena : Arena ν} {id lower : NodeId}
    (beyond : id.index ≤ lower.index) : View.entry? (arena.viewBelow id) lower = none :=
  if_neg (Nat.not_lt_of_le beyond)

namespace View

variable {ν : Type} {view : View ν} {id parent : NodeId} {entry : Entry ν}

/-- A view answers for a node with what its entry holds. -/
theorem node_of_entry? (found : view.entry? id = some entry) :
    view.node id = .ok entry.node ∧ view.parentOf id = .ok entry.parent := by
  rw [node, parentOf, View.entry, found]
  exact ⟨rfl, rfl⟩

/-- Every question about a node that cannot be seen is refused. -/
theorem refused_of_entry?_eq_none [Attributed ν] (hidden : view.entry? id = none) :
    view.node id = .error (.invalidTree (.notVisible id)) ∧
      view.parentOf id = .error (.invalidTree (.notVisible id)) ∧
      ∀ name, view.setting id name = .error (.invalidTree (.notVisible id)) := by
  refine ⟨?_, ?_, fun name => ?_⟩
  · rw [node, View.entry, hidden]
    rfl
  · rw [parentOf, View.entry, hidden]
    rfl
  · rw [setting]
    split
    · rfl
    · rename_i found
      rw [hidden] at found
      cases found

/-- Whatever is wired above a visible node is visible. -/
theorem exists_entry?_of_parent (found : view.entry? id = some entry)
    (wired : entry.parent = some parent) : ∃ above, view.entry? parent = some above := by
  have lower := Arena.parent_lt_of_entry? (entry?_arena found) wired
  have inside := Arena.index_lt_of_entry? (entry?_arena found)
  obtain ⟨above, same⟩ := view.arena.exists_entry?_of_lt (Nat.lt_trans lower inside)
  refine ⟨above, ?_⟩
  rw [entry?_eq] at found ⊢
  split at found
  · rw [if_pos (by omega), same]
  · cases found

/-- A look-up at a visible node fails only where the node or an ancestor refuses to be read. -/
theorem exists_read_of_setting_eq_error [Attributed ν] {name : String} {error : Error}
    (found : view.entry? id = some entry) (failed : view.setting id name = .error error) :
    ∃ higher reached, (higher = id ∨ view.arena.IsAbove higher id) ∧
      view.entry? higher = some reached ∧ Attributed.read reached.node name = .error error := by
  induction reach : id.index using Nat.strongRecOn generalizing id entry with
  | ind index ih =>
      have own := setting_of_entry? found name
      rw [own, Outlook.settingOf] at failed
      cases read : Attributed.read entry.node name with
      | error cause =>
          rw [read] at failed
          exact ⟨id, entry, .inl rfl, found, read.trans failed⟩
      | ok setting =>
          rw [read] at failed
          cases wired : entry.parent with
          | none => simp [wired] at failed
          | some parent =>
              simp only [wired, outlook, Option.map_some] at failed
              split at failed
              · cases failed
              · have lower := Arena.parent_lt_of_entry? (entry?_arena found) wired
                obtain ⟨above, visible⟩ := exists_entry?_of_parent found wired
                obtain ⟨higher, reached, place, seen, refused⟩ :=
                  ih parent.index (reach ▸ lower) visible failed rfl
                have direct : view.arena.parent? id = some parent :=
                  Arena.parent?_eq_some_iff.mpr ⟨entry, entry?_arena found, wired⟩
                refine ⟨higher, reached, .inr ?_, seen, refused⟩
                rcases place with rfl | isAbove
                · exact .single direct
                · exact .tail isAbove direct

end View

end DeployTree
