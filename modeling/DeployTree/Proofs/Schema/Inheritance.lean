import DeployTree.Proofs.Environment.Filling
import DeployTree.Proofs.Schema.Accessors
import DeployTree.Proofs.Schema.Manner
import DeployTree.Proofs.Tree.Building
import DeployTree.Proofs.Tree.Lineage

/-! # Inheritance is settled by the resolve pass

A relation, and a probe that keeps what it inherits, write the settings in force into themselves
when they are resolved. From then on a look-up that walks up from such a node ends with the node's
own value, whether it was given or was found above: the two agree for every attribute that was
written (`DeployTree.Tree.Built.settled`). What is found above a node is not changed after the node
has been resolved, so one step settles a node for good (`DeployTree.Outlook.settles_of_write`).
-/

namespace DeployTree

namespace Outlook

variable {κ : Type} [Attributed κ] {outlook : Outlook} {node written last : κ}
  {name : String} {names : List String} {setting : Option Value}

/-- Whether a look-up with inheritance gives the node's own value. -/
def Settles (outlook : Outlook) (node : κ) (name : String) : Prop :=
  outlook.settingOf node name = Attributed.read node name

private theorem Settles.congr {other : κ} (settles : outlook.Settles node name)
    (reads : Attributed.read other name = Attributed.read node name)
    (falls : Attributed.inherits other = Attributed.inherits node) :
    outlook.Settles other name := by
  unfold Settles settingOf at *
  rw [reads, falls]
  exact settles

/-- Writes the settings in force of some attributes, one after another. -/
def copied (outlook : Outlook) : List String → κ → Except Error κ
  | [], node => .ok node
  | name :: rest, node => do
      let setting ← outlook.ownOrInherited node name
      let written ← Attributed.write node name setting
      outlook.copied rest written

private theorem above_of_ownOrInherited (inForce : outlook.ownOrInherited node name = .ok setting)
    (absent : Value.isGiven setting = false) : ∃ above, outlook = some above ∧
      above name = .ok setting := by
  unfold ownOrInherited at inForce
  cases reads : Attributed.read node name with
  | error error => simp [reads] at inForce
  | ok own =>
      rw [reads] at inForce
      cases given : Value.isGiven own with
      | true =>
          obtain rfl : own = setting := by simpa [given] using inForce
          rw [given] at absent
          cases absent
      | false =>
          cases outlook with
          | none => simp [given] at inForce
          | some above => exact ⟨above, rfl, by simpa [given] using inForce⟩

variable [LawfulWrites κ]

/-- Writing the setting in force settles the attribute. -/
theorem settles_of_write (inForce : outlook.ownOrInherited node name = .ok setting)
    (ok : Attributed.write node name setting = .ok written) : outlook.Settles written name := by
  unfold Settles settingOf
  cases reads : Attributed.read written name with
  | error error =>
      -- A strict probe has lost what was written as nothing, and both answers fail alike.
      rfl
  | ok value =>
      obtain rfl := LawfulWrites.read_self ok reads
      cases given : Value.isGiven value with
      | true => simp [given]
      | false =>
          -- What was written came from above, and the look-up finds it there again.
          obtain ⟨above, rfl, found⟩ := above_of_ownOrInherited inForce given
          by_cases falls : Attributed.inherits written name = true
          · simpa [given, falls] using found
          · simp [given, falls]

/-- Copying settles the attributes that are copied and leaves the others alone. -/
theorem of_copied (ok : outlook.copied names node = .ok last) :
    (∀ name ∈ names, outlook.Settles last name) ∧
      (∀ other, other ∉ names → Attributed.read last other = Attributed.read node other) ∧
      Attributed.inherits last = Attributed.inherits node := by
  induction names generalizing node with
  | nil =>
      obtain rfl := Except.ok.inj ok
      simp
  | cons name rest ih =>
      obtain ⟨setting, inForce, ok⟩ := bind_eq_ok_iff.mp ok
      obtain ⟨written, wrote, ok⟩ := bind_eq_ok_iff.mp ok
      obtain ⟨settles, others, falls⟩ := ih ok
      refine ⟨?_, ?_, falls.trans (LawfulWrites.inherits_eq wrote)⟩
      · rw [List.forall_mem_cons]
        refine ⟨?_, settles⟩
        -- A name may be listed again; its last write settles it then.
        by_cases again : name ∈ rest
        · exact settles name again
        · exact (settles_of_write inForce wrote).congr (others name again) falls
      · intro other absent
        rw [List.mem_cons, not_or] at absent
        obtain ⟨apart, later⟩ := absent
        rw [others other later, LawfulWrites.read_other wrote apart]

end Outlook

section Nodes

variable {ν : Type} [Attributed ν] {scope : ResolveScope ν}

private theorem Relation.inherit_eq_copied (names : List String) (relation : Relation) :
    inherit scope names relation =
      (scope.view.outlook scope.parent).copied names relation := by
  induction names generalizing relation with
  | nil => rfl
  | cons name rest ih => simp only [inherit, Outlook.copied, ResolveScope.ownOrInherited_eq, ih]

private theorem Probe.inherit_eq_copied (names : List String) (probe : Probe) :
    inherit scope names probe = (scope.view.outlook scope.parent).copied names probe := by
  induction names generalizing probe with
  | nil => rfl
  | cons name rest ih =>
      simp only [inherit, Outlook.copied, ResolveScope.ownOrInherited_eq, ih]
      rfl

private theorem Relation.read_derive (environment : Option Value) (relation : Relation)
    {name : String} (listed : name ∈ inheritedNames) :
    Attributed.read (derive environment relation) name = Attributed.read relation name := by
  simp only [inheritedNames, List.mem_cons, List.not_mem_nil, or_false] at listed
  rcases listed with rfl | rfl | rfl | rfl
  all_goals rfl

private theorem Relation.settles_of_resolve {relation last : Relation}
    (ok : (relation.resolve scope).outcome = .ok last) {name : String}
    (listed : name ∈ inheritedNames) :
    (scope.view.outlook scope.parent).Settles last name := by
  simp only [resolve, Run.outcome_bind_eq_ok_iff, Run.outcome_ofExcept, Run.outcome_emit_bind,
    Run.outcome_pure, Except.ok.injEq] at ok
  obtain ⟨filled, -, settled, copies, environment, -, rfl⟩ := ok
  rw [inherit_eq_copied] at copies
  obtain ⟨settles, -⟩ := Outlook.of_copied copies
  -- The names that are derived afterwards are no settings.
  exact (settles name listed).congr (read_derive environment settled listed) rfl

/-- Whether two probes inherit the same attributes in the same way. -/
structure Probe.InheritsLike (probe other : Probe) : Prop where
  names : probe.inheritedNames = other.inheritedNames
  keeps : probe.keepsInherited = other.keepsInherited

private theorem Probe.InheritsLike.trans {probe other third : Probe}
    (first : probe.InheritsLike other) (second : other.InheritsLike third) :
    probe.InheritsLike third :=
  ⟨first.names.trans second.names, first.keeps.trans second.keeps⟩

private theorem Probe.inheritsLike_of_write {node written : Probe} {name : String}
    {setting : Option Value} (ok : Attributed.write node name setting = .ok written) :
    written.InheritsLike node := by
  obtain rfl : node.write name setting = written := Except.ok.inj ok
  cases setting <;> exact ⟨rfl, rfl⟩

private theorem Probe.inheritsLike_of_copied {outlook : Outlook} {names : List String}
    {node last : Probe} (ok : outlook.copied names node = .ok last) : last.InheritsLike node := by
  induction names generalizing node with
  | nil =>
      obtain rfl := Except.ok.inj ok
      exact ⟨rfl, rfl⟩
  | cons name rest ih =>
      obtain ⟨setting, -, ok⟩ := bind_eq_ok_iff.mp ok
      obtain ⟨written, wrote, ok⟩ := bind_eq_ok_iff.mp ok
      exact (ih ok).trans (inheritsLike_of_write wrote)

private theorem Probe.settles_of_resolve {probe last : Probe}
    (ok : (probe.resolve scope).outcome = .ok last) (keeps : last.keepsInherited = true)
    {name : String} (listed : name ∈ last.inheritedNames) :
    (scope.view.outlook scope.parent).Settles last name := by
  simp only [resolve, Run.outcome_bind_eq_ok_iff] at ok
  obtain ⟨-, -, filled, fills, ok⟩ := ok
  -- Interpolating and copying only write values, so the probe inherits as it did before.
  have kept : filled.InheritsLike probe :=
    @Interpolator.interpolated_preserves Probe _ scope.interpolator (·.InheritsLike probe) _ _ _
      (fun wrote before => (inheritsLike_of_write wrote).trans before) fills ⟨rfl, rfl⟩
  split at ok
  · rw [Run.outcome_ofExcept, inherit_eq_copied] at ok
    have same := (inheritsLike_of_copied ok).trans kept
    obtain ⟨settles, -⟩ := Outlook.of_copied ok
    exact settles name (same.names ▸ listed)
  · rename_i leaves
    obtain rfl : filled = last := by simpa using ok
    exact absurd (kept.keeps ▸ keeps) leaves

end Nodes

namespace Forest

variable {ν : Type} [Node ν] {interpolator : Interpolator} {manner : Manner ν interpolator}
  {holds : Outlook → ν → Prop} {forest next : Forest ν} {outlook : Outlook} {arena : Arena ν}
  {parent : Option NodeId} {id : NodeId} {entry : Entry ν}

/-- Whether something holds of every node of a forest and what the node finds above it. -/
def Throughout (holds : Outlook → ν → Prop) : Outlook → Forest ν → Prop
  | _, empty => True
  | outlook, branch _ node below rest =>
      holds outlook node ∧ below.Throughout holds (outlook.beneath node) ∧
        rest.Throughout holds outlook

/-- What holds of every node when it has been resolved holds throughout the resolved forest. -/
theorem throughout_resolved
    (step : ∀ {outlook node own}, (manner.resolve outlook node).outcome = .ok own →
      holds outlook own)
    (ok : (forest.resolved manner outlook).outcome = .ok next) : next.Throughout holds outlook := by
  induction forest generalizing outlook next with
  | empty =>
      obtain rfl : empty = next := by simpa [resolved] using ok
      trivial
  | branch id node below rest ihBelow ihRest =>
      simp only [resolved, Run.outcome_emit_bind, Run.outcome_bind_eq_ok_iff, Run.outcome_pure,
        Except.ok.injEq] at ok
      obtain ⟨own, ownOk, lower, belowOk, others, restOk, rfl⟩ := ok
      exact ⟨step ownOk, ihBelow belowOk, ihRest restOk⟩

private theorem Spans.exists_resolved {tree : Tree ν .constructed} {resolvedTree : Tree ν .resolved}
    (spans : forest.Spans tree.arena) (manner : Manner ν interpolator)
    (ok : (tree.resolve interpolator).outcome = .ok resolvedTree) :
    ∃ next, (forest.resolved manner none).outcome = .ok next ∧
      next.Spans resolvedTree.arena := by
  rw [spans.resolve manner] at ok
  obtain ⟨next, resolves, rest⟩ := Run.outcome_bind_eq_ok_iff.mp ok
  obtain rfl : ⟨next.rewrite tree.arena⟩ = resolvedTree := Except.ok.inj rest
  exact ⟨next, resolves, spans.rewrite (outline_resolved resolves)⟩

private theorem Throughout.of_entry? (all : forest.Throughout holds (arena.view.outlook parent))
    (stands : forest.StandsIn arena parent) (member : id ∈ forest.ids)
    (found : arena.entry? id = some entry) :
    holds (arena.view.outlook entry.parent) entry.node := by
  induction forest generalizing parent with
  | empty => cases member
  | branch top node below rest ihBelow ihRest =>
      obtain ⟨here, standsBelow, standsRest⟩ := stands
      obtain ⟨own, lower, others⟩ := all
      have visible := here
      rw [← Arena.entry?_view] at visible
      rw [← View.outlook_eq_beneath visible] at lower
      rcases List.mem_cons.mp member with rfl | inside
      · obtain rfl := Option.some.inj (here.symm.trans found)
        exact own
      · rcases List.mem_append.mp inside with inBelow | inRest
        · exact ihBelow lower standsBelow inBelow
        · exact ihRest others standsRest inRest

end Forest

private theorem Arena.setting_of_entry? {ν : Type} [Attributed ν] {arena : Arena ν} {id : NodeId}
    {entry : Entry ν} (found : arena.entry? id = some entry) (name : String) :
    arena.view.setting id name = (arena.view.outlook entry.parent).settingOf entry.node name := by
  rw [← Arena.entry?_view] at found
  exact View.setting_of_entry? found name

/-- Whether a node writes the setting in force of an attribute into itself: a relation does so for
what it falls back for, and so does a probe that keeps what it inherits. -/
def Element.Copies : Element → String → Prop
  | .relation _, name => name ∈ Relation.inheritedNames
  | .probe node, name => node.keepsInherited = true ∧ name ∈ node.inheritedNames
  | .deployment _, _ => False
  | .column _, _ => False

private theorem Element.settles_of_resolve {interpolator : Interpolator} {outlook : Outlook}
    {element last : Element}
    (ok : ((Element.manner interpolator).resolve outlook element).outcome = .ok last)
    {name : String} (copies : last.Copies name) : outlook.Settles last name := by
  have above := outlook.outlook_view
  cases element with
  | relation node =>
      obtain ⟨own, resolves, rfl⟩ := Run.outcome_map_eq_ok_iff.mp ok
      have settles := Relation.settles_of_resolve resolves copies
      exact above ▸ settles
  | probe node =>
      obtain ⟨own, resolves, rfl⟩ := Run.outcome_map_eq_ok_iff.mp ok
      have settles := Probe.settles_of_resolve resolves copies.1 copies.2
      exact above ▸ settles
  | deployment node =>
      obtain ⟨own, -, rfl⟩ := Run.outcome_map_eq_ok_iff.mp ok
      exact copies.elim
  | column node =>
      obtain ⟨own, -, rfl⟩ := Run.outcome_map_eq_ok_iff.mp ok
      exact copies.elim

namespace Tree

/-- Whether a look-up with inheritance gives a node's own value, for every node and every attribute
that it writes into itself. -/
def Settled {phase : Phase} (tree : Tree Element phase) : Prop :=
  ∀ id node, tree.node? id = some node → ∀ name, node.Copies name →
    tree.setting id name = Attributed.read node name

variable {tree : Tree Element .constructed} {interpolator : Interpolator}
  {resolved : Tree Element .resolved}

/-- **Settled inheritance.** When a tree has been resolved, the nodes that write settings into
themselves have the settings that a look-up with inheritance finds, and validating leaves it so. -/
theorem Built.settled (built : tree.Built)
    (resolves : (tree.resolve interpolator).outcome = .ok resolved) :
    resolved.Settled ∧
      ∀ validated, resolved.validate.outcome = .ok validated → validated.Settled := by
  obtain ⟨root, below, spans⟩ := built.exists_spans
  obtain ⟨next, nextOk, nextSpans⟩ := spans.exists_resolved (Element.manner interpolator) resolves
  have all : next.Throughout (fun outlook node => ∀ name, node.Copies name →
      outlook.Settles node name) none :=
    Forest.throughout_resolved (fun ok name => Element.settles_of_resolve ok) nextOk
  have settled : resolved.Settled := by
    intro id node found name copies
    obtain ⟨entry, here, rfl⟩ := Option.map_eq_some_iff.mp found
    have member : id ∈ next.ids := nextSpans.mem_ids_iff.mpr (Arena.index_lt_of_entry? here)
    have settles := all.of_entry? nextSpans.stands member here name copies
    have own := Arena.setting_of_entry? here name
    exact own.trans settles
  refine ⟨settled, fun validated ok => ?_⟩
  obtain ⟨-, -, rest⟩ := Run.outcome_bind_eq_ok_iff.mp ok
  obtain rfl : ⟨resolved.arena⟩ = validated := Except.ok.inj rest
  exact settled

/-- A probe that keeps what it inherits and knows no attribute without a value. -/
def keepingProbe : Element :=
  .probe
    { label := none
      values := Dictionary.ofList
        [("environment", .text "prod"), ("storage_format", .text ""), ("service_role", .text "")]
      strict := true
      rules := []
      inheritedNames := ["storage_format", "service_role"]
      keepsInherited := true
      interpolatedNames := [] }

/-- A relation under a probe that keeps what it inherits, under a deployment without a role. -/
def keptSettings : Except Error (Tree Element .constructed) :=
  (ofRoot (.deployment
    { Deployment.unset with region := some "us-west-2", storageFormat := some "json" })).addEach
    [ (.root, keepingProbe),
      (.wrapping 1, .relation
        { Relation.unset with
          region := some "eu-west-1", serviceRole := some "etl", scriptBucket := some "scripts" }) ]

/-- The value of an attribute at a node, if the node is in use. -/
def own? {phase : Phase} (tree : Tree Element phase) (id : NodeId) (name : String) :
    Option (Except Error (Option Value)) :=
  (tree.node? id).map fun node => Attributed.read node name

/-- The relation gets the format through the probe; the probe loses the role that nothing above it
gives, and can no longer be asked for it. -/
theorem settled_keptSettings :
    ∃ tree resolved, keptSettings = .ok tree ∧ tree.Built ∧
      (tree.resolve ⟨.standard, fun _ => none⟩).outcome = .ok resolved ∧
      resolved.own? (.wrapping 2) "storage_format" = some (.ok (some (.text "json"))) ∧
      resolved.own? (.wrapping 1) "service_role" =
        some (.error (.unknownAttribute "probe" "service_role")) ∧
      resolved.Settled ∧
      ∀ validated, resolved.validate.outcome = .ok validated → validated.Settled := by
  obtain ⟨tree, ok⟩ : ∃ tree, keptSettings = .ok tree := ⟨_, rfl⟩
  have built : tree.Built := (Built.root _).addEach ok
  have evaluated : (keptSettings.bind fun tree =>
      (tree.resolve ⟨.standard, fun _ => none⟩).outcome.map fun resolved =>
        (resolved.own? (.wrapping 2) "storage_format",
          resolved.own? (.wrapping 1) "service_role")) =
      .ok (some (.ok (some (.text "json"))),
        some (.error (.unknownAttribute "probe" "service_role"))) := by
    decide +kernel
  rw [ok] at evaluated
  obtain ⟨resolved, resolves, settings⟩ := map_eq_ok_iff.mp evaluated
  obtain ⟨format, role⟩ := Prod.mk.inj settings
  exact ⟨tree, resolved, ok, built, resolves, format, role, built.settled resolves⟩

end Tree

end DeployTree
