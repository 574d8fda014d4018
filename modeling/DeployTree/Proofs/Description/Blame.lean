import DeployTree.Proofs.Description.Rendering
import DeployTree.Proofs.Pattern.Names
import DeployTree.Proofs.Tree.Stopping

/-! # What a relation can be blamed for

A relation is validated after the deployment, so what it takes from there has passed already, and so
have the two names that its full name is made of by the time this is checked. A rule that a relation
breaks is therefore one for a name of its own, for its flag, or for a setting that it gives itself;
or the storage format is missing, and the deployment leaves it unset
(`DeployTree.Description.atFault_of_validate_eq_error`).
-/

namespace DeployTree

/-- What a relation can be blamed for, as an attribute and the value that is reported: a name of its
own or its flag, a setting that it gives itself, or a storage format that the deployment leaves
unset. -/
inductive RelationDescription.AtFault (interpolator : Interpolator) (description : Description)
    (relation : RelationDescription) : String → String → Prop where
  | own {name shown : String}
      (listed : name ∈ ["relation_name", "source_relation_prefix", "etl_job_name",
        "use_inventory"]) :
      AtFault interpolator description relation name shown
  | given {name raw text : String} (listed : name ∈ Relation.inheritedNames)
      (reads : Attributed.read relation.node name = .ok (some (.text raw)))
      (fills : (interpolator.interpolate raw).outcome = .ok text) (nonempty : text ≠ "") :
      AtFault interpolator description relation name (Text.quoted text)
  | missing (unset : description.storageFormat = none) :
      AtFault interpolator description relation "storage_format" "<absent>"

/-- A message shows a text in quotes. -/
theorem shownSetting_text (content : String) :
    shownSetting (some (.text content)) = Text.quoted content := by
  rw [shownSetting, Value.rendered, Value.chars, String.ofList_toList]

section Filled

variable {interpolator : Interpolator} {texts : List String} {setting : Option String}

private theorem Interpolator.filled_eq_some_iff {text : String} :
    interpolator.filled setting = some text ↔
      ∃ raw, setting = some raw ∧ (interpolator.interpolate raw).outcome = .ok text := by
  cases setting with
  | none => simp [filled]
  | some raw =>
      cases ends : (interpolator.interpolate raw).outcome with
      | error error => simp [filled, ends, Except.toOption]
      | ok filledText => simp [filled, ends, Except.toOption]

private theorem Interpolator.eq_none_of_filled_eq_none
    (free : interpolator.firstObstacle? texts = none)
    (listed : ∀ text, setting = some text → text ∈ texts)
    (unset : interpolator.filled setting = none) : setting = none := by
  cases setting with
  | none => rfl
  | some raw =>
      obtain ⟨text, ends⟩ :=
        interpolator.exists_interpolate_of_firstObstacle?_eq_none free (listed raw rfl)
      rw [interpolator.filled_of_ok ends] at unset
      cases unset

end Filled

section Rules

variable {ν : Type} [Attributed ν] {node : ν} {rules : List Rule} {error : Error}

/-- The rule that is reported is broken, and it is the first one or the first one is kept. -/
theorem exists_refused_of_breachOfRules?_eq_some {first : Rule}
    (broken : breachOfRules? node (first :: rules) = some error) :
    ∃ rule, rule.accepts (valueOf node rule.name) = false ∧
      error = breachOf (Attributed.kind node) rule (valueOf node rule.name) ∧
      (rule = first ∨ first.accepts (valueOf node first.name) = true ∧ rule ∈ rules) := by
  obtain ⟨rule, found, rfl⟩ := Option.map_eq_some_iff.mp broken
  have refused : rule.accepts (valueOf node rule.name) = false := by
    simpa using List.find?_some found
  refine ⟨rule, refused, rfl, ?_⟩
  rw [List.find?_cons] at found
  split at found
  · exact .inl (Option.some.inj found).symm
  · rename_i kept
    exact .inr ⟨by simpa using kept, List.mem_of_find?_eq_some found⟩

end Rules

namespace RelationDescription

variable {fill : Option String → Option String} {description : Description}
  {relation : RelationDescription}

/-- A setting that a relation falls back for is its own, or that of the deployment. -/
theorem exists_setting_of_mem_inheritedNames (description : Description)
    (relation : RelationDescription) {name : String} (listed : name ∈ Relation.inheritedNames) :
    ∃ above own, Attributed.read description.node name = .ok (above.map .text) ∧
      Attributed.read relation.node name = .ok (own.map .text) ∧
      ∀ fill, valueOf (Element.deployment (description.settled fill)) name =
          (fill above).map .text ∧
        valueOf (Element.relation (relation.settled fill description)) name =
          (ownOr (fill above) (fill own)).map .text := by
  simp only [Relation.inheritedNames, List.mem_cons, List.not_mem_nil, or_false] at listed
  rcases listed with rfl | rfl | rfl | rfl
  all_goals exact ⟨_, _, rfl, rfl, fun fill => ⟨rfl, rfl⟩⟩

/-- The rule for a setting that relations fall back for is that of deployments, but for the storage
format, which only relations must have. -/
theorem exists_rule_of_mem_inheritedNames :
    ∀ rule ∈ Relation.rules, rule.name ∈ Relation.inheritedNames →
      ∃ upper ∈ Deployment.rules, upper.name = rule.name ∧ upper.pattern = rule.pattern ∧
        (rule.required = true → upper.required = true ∨ rule.name = "storage_format") := by
  decide

/-- The other rules of a relation are for its own names, its flag and its full name. -/
theorem own_or_full_of_notMem_inheritedNames :
    ∀ rule ∈ Relation.rules, rule.name ∉ Relation.inheritedNames →
      rule.name ∈ ["relation_name", "source_relation_prefix", "etl_job_name", "use_inventory"] ∨
        rule = .mandatory "full_relation_name" .fourPartName := by
  decide

private theorem ownOr_cases (above own : Option String) :
    ownOr above own = above ∨
      ∃ text, own = some text ∧ text ≠ "" ∧ ownOr above own = some text := by
  cases own with
  | none => exact .inl rfl
  | some text =>
      by_cases blank : text = ""
      · exact .inl (by simp [ownOr, blank])
      · exact .inr ⟨text, rfl, blank, by simp [ownOr, blank]⟩

section Faults

variable {interpolator : Interpolator} {rule : Rule} {error : Error}
  (free : interpolator.firstObstacle? description.interpolatedTexts = none)
  (keeps : Keeps (Element.deployment (description.settled interpolator.filled)) Deployment.rules)

include free keeps

/-- Under a deployment that keeps its rules, a relation that breaks the rule for a setting has given
the setting itself, or the storage format is missing. -/
theorem atFault_of_refused (listed : rule ∈ Relation.rules)
    (inherited : rule.name ∈ Relation.inheritedNames)
    (refused : rule.accepts (valueOf (Element.relation
      (relation.settled interpolator.filled description)) rule.name) = false) :
    relation.AtFault interpolator description rule.name
      (shownSetting (valueOf (Element.relation
        (relation.settled interpolator.filled description)) rule.name)) := by
  obtain ⟨above, own, aboveReads, ownReads, settled⟩ :=
    exists_setting_of_mem_inheritedNames description relation inherited
  obtain ⟨aboveSettled, ownSettled⟩ := settled interpolator.filled
  obtain ⟨upper, upperListed, sameName, samePattern, demanded⟩ :=
    exists_rule_of_mem_inheritedNames rule listed inherited
  have kept := keeps upper upperListed
  rw [sameName, aboveSettled] at kept
  rw [ownSettled] at refused ⊢
  rcases ownOr_cases (interpolator.filled above) (interpolator.filled own) with
    taken | ⟨text, ownFilled, nonempty, taken⟩
  · rw [taken] at refused ⊢
    cases held : interpolator.filled above with
    | some text =>
        -- Both rules have the same pattern, so the deployment would have been refused.
        rw [held] at kept refused
        change upper.pattern.accepts text = true at kept
        change rule.pattern.accepts text = false at refused
        rw [samePattern, refused] at kept
        cases kept
    | none =>
        rw [held] at kept refused
        change (!upper.required) = true at kept
        change (!rule.required) = false at refused
        rcases demanded (by simpa using refused) with required | format
        · simp [required] at kept
        · rw [format] at aboveReads ⊢
          obtain rfl : description.storageFormat = above :=
            (Option.map_inj_right fun _ _ => Value.text.inj).mp (Except.ok.inj aboveReads)
          refine .missing (interpolator.eq_none_of_filled_eq_none free ?_ held)
          intro text given
          simp [Description.interpolatedTexts, given]
  · obtain ⟨raw, rfl, fills⟩ := Interpolator.filled_eq_some_iff.mp ownFilled
    rw [taken, Option.map_some, shownSetting_text]
    exact .given inherited ownReads fills nonempty

private theorem atFault_of_breach?_eq_some
    (broken : breach? (Element.relation (relation.settled interpolator.filled description)) =
      some error) :
    ∃ name shown, error = .validation ⟨Relation.kindName, name, shown⟩ ∧
      relation.AtFault interpolator description name shown := by
  obtain ⟨rule, refused, rfl, position⟩ := exists_refused_of_breachOfRules?_eq_some broken
  refine ⟨_, _, rfl, ?_⟩
  rcases position with rfl | ⟨nameKept, later⟩
  · exact .own (by decide)
  have listed : rule ∈ Relation.rules := List.mem_cons_of_mem _ later
  by_cases inherited : rule.name ∈ Relation.inheritedNames
  · exact atFault_of_refused free keeps listed inherited refused
  · rcases own_or_full_of_notMem_inheritedNames rule listed inherited with own | rfl
    · exact .own own
    · -- The environment and the name have been checked before.
      obtain ⟨environment, environmentSet, environmentFits⟩ : ∃ environment,
          interpolator.filled description.environment = some environment ∧
            Pattern.sqlIdentifier.accepts environment = true :=
        keeps.exists_accepted "environment" (by decide) rfl
      have nameKeeps : Keeps (Element.relation
          (relation.settled interpolator.filled description))
            [.mandatory "relation_name" .threePartName] :=
        List.forall_mem_singleton.mpr nameKept
      obtain ⟨name, nameSet, nameFits⟩ : ∃ name,
          interpolator.filled relation.relationName = some name ∧
            Pattern.threePartName.accepts name = true :=
        nameKeeps.exists_accepted "relation_name" (List.mem_cons_self ..) rfl
      have full : valueOf (Element.relation (relation.settled interpolator.filled description))
          "full_relation_name" = some (.text (environment ++ "." ++ name)) := by
        change (fullName (interpolator.filled description.environment)
          (interpolator.filled relation.relationName)).map Value.text = _
        rw [environmentSet, nameSet]
        rfl
      have accepted := Pattern.accepts_fourPartName_of_accepts environmentFits nameFits
      rw [Rule.mandatory, full] at refused
      exact absurd (accepted.symm.trans refused) (by decide)

end Faults

end RelationDescription

namespace Description

variable {arena other : Arena Element} {parent above : Option NodeId} {id : NodeId}
  {relationNode raw : RelationDescription → Relation}
  {columnNode plain : ColumnDescription → Column} {relations : List RelationDescription}
  {start : Nat}

private theorem exists_column_of_mem {columns : List ColumnDescription}
    (stands : (columnForest columnNode start columns).StandsIn arena parent)
    (member : id ∈ (columnForest columnNode start columns).ids) :
    ∃ column, (arena.entry? id).map Entry.node = some (.column column) := by
  induction columns generalizing start with
  | nil => cases member
  | cons column rest ih =>
      obtain ⟨here, -, standsRest⟩ := stands
      rcases List.mem_cons.mp member with rfl | inRest
      · exact ⟨columnNode column, by rw [here]; rfl⟩
      · exact ih standsRest inRest

private theorem exists_relation_or_column_of_mem
    (stands : (relationForest relationNode columnNode start relations).StandsIn arena parent)
    (otherStands : (relationForest raw plain start relations).StandsIn other above)
    (member : id ∈ (relationForest relationNode columnNode start relations).ids) :
    (∃ relation ∈ relations,
        (arena.entry? id).map Entry.node = some (.relation (relationNode relation)) ∧
        (other.entry? id).map Entry.node = some (.relation (raw relation))) ∨
      ∃ column, (arena.entry? id).map Entry.node = some (.column column) := by
  induction relations generalizing start with
  | nil => cases member
  | cons relation rest ih =>
      obtain ⟨here, standsBelow, standsRest⟩ := stands
      obtain ⟨otherHere, -, otherRest⟩ := otherStands
      rcases List.mem_cons.mp member with rfl | inside
      · exact .inl ⟨relation, List.mem_cons_self .., by rw [here]; rfl, by rw [otherHere]; rfl⟩
      · rcases List.mem_append.mp inside with inBelow | inRest
        · exact .inr (exists_column_of_mem standsBelow inBelow)
        · refine (ih standsRest otherRest inRest).imp_left ?_
          rintro ⟨found, listed, places⟩
          exact ⟨found, List.mem_cons_of_mem _ listed, places⟩

variable {description : Description} {interpolator : Interpolator} {tree : Draft}
  {resolved : Tree Element .resolved} {error : Error}

/-- A settled tree in which validating goes past the root has a deployment that keeps its rules. -/
theorem keeps_of_validateNode_root (fill : Option String → Option String)
    (built : description.build.outcome = .ok tree)
    (passed : (Tree.validateNode (description.settledTree fill tree).arena .root).outcome =
      .ok ()) :
    Keeps (Element.deployment (description.settled fill)) Deployment.rules := by
  obtain ⟨here, -⟩ := (spans_settledTree built fill).stands
  have root : Element.deployment (description.settled fill) ∈ description.settledNodes fill :=
    List.mem_cons_self ..
  rw [Tree.validateNode_outcome here,
    Element.validate_outcome (ne_probe_of_mem_settledNodes root)] at passed
  exact keeps_of_breach?_eq_none (unlessFound_eq_ok_iff.mp passed).1

/-- **The faults of relations.** When validating the tree of a description stops at a relation, the
relation is at fault: neither its full name nor a setting that it has from the deployment is
reported. -/
theorem atFault_of_validate_eq_error (built : description.build.outcome = .ok tree)
    (resolves : (tree.resolve interpolator).outcome = .ok resolved)
    (failed : resolved.validate.outcome = .error error) :
    (∃ id, resolved.StopsAt id error) ∧
      ∀ id node, resolved.StopsAt id error → resolved.node? id = some (.relation node) →
        ∃ relation ∈ description.relations, tree.node? id = some (.relation relation.node) ∧
          ∃ name shown, error = .validation ⟨Relation.kindName, name, shown⟩ ∧
            relation.AtFault interpolator description name shown := by
  refine ⟨Tree.validate_eq_error_iff.mp failed, fun id node stops found => ?_⟩
  rw [resolve_of_build built] at resolves
  obtain ⟨free, same⟩ := unlessFound_eq_ok_iff.mp resolves
  obtain rfl := Except.ok.inj same
  have spans := spans_settledTree built interpolator.filled
  obtain ⟨rootHere, settledStands, -⟩ := spans.stands
  obtain ⟨-, builtStands, -⟩ := (spans_of_build built).stands
  obtain ⟨front, back, split, passed, stopped⟩ := stops
  rw [Tree.preorder, spans.preorder_eq_ids, settledWhole, Forest.ids, Forest.ids,
    List.append_nil] at split
  cases front with
  | nil =>
      -- The root is the deployment.
      obtain ⟨rfl, -⟩ := List.cons.inj split
      rw [Tree.node?, rootHere] at found
      cases found
  | cons first front =>
      obtain ⟨rfl, later⟩ := List.cons.inj split
      have keeps := keeps_of_validateNode_root interpolator.filled built
        (passed .root (List.mem_cons_self ..))
      have member : id ∈ (settledForest interpolator.filled description 1
          description.relations).ids := by
        rw [later]
        exact List.mem_append_right _ (List.mem_cons_self ..)
      rcases exists_relation_or_column_of_mem settledStands builtStands member with
        ⟨relation, listed, here, before⟩ | ⟨column, here⟩
      · refine ⟨relation, listed, before, ?_⟩
        obtain ⟨entry, entryFound, same⟩ := Option.map_eq_some_iff.mp here
        rw [Tree.validateNode_outcome entryFound, same, Element.validate_outcome
          (ne_probe_of_mem_settledNodes (settled_mem_settledNodes _ listed))] at stopped
        cases broken : breach? (Element.relation
            (relation.settled interpolator.filled description)) with
        | none =>
            rw [broken] at stopped
            cases stopped
        | some breach =>
            rw [broken] at stopped
            obtain rfl : breach = error := Except.error.inj stopped
            exact RelationDescription.atFault_of_breach?_eq_some free keeps broken
      · rw [Tree.node?, here] at found
        cases found

/-- No variable is bound. -/
def withoutVariables : Interpolator := ⟨.standard, fun _ => none⟩

/-- A relation without a storage format under a deployment that has none either. -/
def formatless : Description :=
  { unset with
    environment := some "prod"
    region := some "us-west-2"
    relations :=
      [{ RelationDescription.unset with
          relationName := some "sales.orders.raw"
          region := some "" }] }

/-- The region is taken from the deployment and passes; the storage format is missing. -/
theorem atFault_of_formatless :
    ∃ tree resolved error,
      formatless.build.outcome = .ok tree ∧
      (tree.resolve withoutVariables).outcome = .ok resolved ∧
      resolved.validate.outcome = .error error ∧
      error = .validation ⟨"relation", "storage_format", "<absent>"⟩ ∧
      (∃ id, resolved.StopsAt id error) ∧
        ∀ id node, resolved.StopsAt id error → resolved.node? id = some (.relation node) →
          ∃ relation ∈ formatless.relations, tree.node? id = some (.relation relation.node) ∧
            ∃ name shown, error = .validation ⟨Relation.kindName, name, shown⟩ ∧
              relation.AtFault withoutVariables formatless name shown := by
  obtain ⟨tree, built⟩ : ∃ tree, formatless.build.outcome = .ok tree := exists_build (by decide)
  have resolves : (tree.resolve withoutVariables).outcome =
      .ok (formatless.settledTree withoutVariables.filled tree) := by
    have free : withoutVariables.firstObstacle? formatless.interpolatedTexts = none := by
      decide +kernel
    rw [resolve_of_build built, free]
    rfl
  have failed : (formatless.settledTree withoutVariables.filled tree).validate.outcome =
      .error (.validation ⟨"relation", "storage_format", "<absent>"⟩) := by
    have broken : (formatless.settledNodes withoutVariables.filled).findSome? breach? =
        some (.validation ⟨"relation", "storage_format", "<absent>"⟩) := by
      decide +kernel
    rw [validate_settledTree built, broken]
    rfl
  exact ⟨tree, _, _, built, resolves, failed, rfl,
    atFault_of_validate_eq_error built resolves failed⟩

end Description

end DeployTree
