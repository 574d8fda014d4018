import DeployTree.Proofs.Description.Blame
import DeployTree.Proofs.Description.DocumentOrder
import DeployTree.Proofs.Environment.Substitution
import DeployTree.Proofs.Schema.JobNames

/-! # Jobs that are not given a name

A relation that leaves its job without a name has the job named after its full name. Resolving
answers for this name up to a length: it fits as long as no more than 127 characters of it follow
its first letters, and validating refuses the relation for it only beyond that
(`DeployTree.Description.derivesJobName_of_resolve`).
-/

namespace DeployTree

open Pattern (sqlIdentifier threePartName)

/-- Whether a relation leaves its job without a name, or with the empty one. -/
def RelationDescription.Unnamed (interpolator : Interpolator) (relation : RelationDescription) :
    Prop :=
  relation.etlJobName = none ∨
    ∃ text, relation.etlJobName = some text ∧ (interpolator.interpolate text).outcome = .ok ""

/-- What is known about the job of a relation that is named after its environment and its name. The
name fits up to a length. Where validating stops at the relation for the name of its job, that is
longer; and where it is longer, validating fails. -/
structure Tree.DerivesJobName (tree : Tree Element .resolved) (id : NodeId) (relation : Relation)
    (environment name : String) : Prop where
  named : relation.etlJobName = some (Relation.jobName (environment ++ "." ++ name))
  accepted : sqlIdentifier.accepts (Relation.jobName (environment ++ "." ++ name)) = true ↔
    Relation.jobNameTail environment name ≤ 127
  blamed : ∀ shown, tree.StopsAt id (.validation ⟨Relation.kindName, "etl_job_name", shown⟩) →
    127 < Relation.jobNameTail environment name
  refused : 127 < Relation.jobNameTail environment name →
    ∃ breach, tree.validate.outcome = .error (.validation breach)

private theorem Interpolator.firstObstacle?_of_dollar_notMem (interpolator : Interpolator)
    {texts : List String} (plain : ∀ text ∈ texts, '$' ∉ text.toList) :
    interpolator.firstObstacle? texts = none := by
  have none : (texts.flatMap fun text => Placeholder.occurrences text.toList) = [] :=
    List.flatMap_eq_nil_iff.mpr fun text listed =>
      Placeholder.occurrences_of_dollar_notMem (plain text listed)
  rw [firstObstacle?, none]
  rfl

section Relations

variable {interpolator : Interpolator} {relation : RelationDescription} {node : Relation}
  {job : String}

private theorem RelationDescription.Unnamed.ownOr_eq (unnamed : relation.Unnamed interpolator)
    (above : Option String) : ownOr above (interpolator.filled relation.etlJobName) = above := by
  rcases unnamed with unset | ⟨text, given, fills⟩
  · rw [unset]
    rfl
  · rw [given, interpolator.filled_of_ok fills]
    rfl

private theorem Relation.valueOf_etlJobName (named : node.etlJobName = some job) :
    valueOf (Element.relation node) "etl_job_name" = some (.text job) := by
  change node.etlJobName.map Value.text = _
  rw [named]
  rfl

/-- A relation that is refused for the name of its job has one that does not fit. -/
theorem Relation.refused_of_breach?_eq_some {shown : String}
    (named : node.etlJobName = some job)
    (broken : breach? (Element.relation node) =
      some (.validation ⟨kindName, "etl_job_name", shown⟩)) :
    sqlIdentifier.accepts job = false := by
  obtain ⟨rule, found, reported⟩ := Option.map_eq_some_iff.mp broken
  have refused := List.find?_some found
  have name : rule.name = "etl_job_name" := congrArg Breach.name (Error.validation.inj reported)
  have only : ∀ rule ∈ rules, rule.name = "etl_job_name" →
      rule = .optional "etl_job_name" .sqlIdentifier := by
    decide
  rw [only rule (List.mem_of_find?_eq_some found) name] at refused
  rw [Rule.optional, valueOf_etlJobName named] at refused
  simpa [Rule.accepts] using refused

/-- A relation that keeps the rules before is refused for the name of its job where this does not
fit. -/
theorem Relation.breach?_of_keeps (named : node.etlJobName = some job)
    (misfit : sqlIdentifier.accepts job = false)
    (keeps : Keeps (Element.relation node) (rules.take 7)) :
    breach? (Element.relation node) =
      some (.validation ⟨kindName, "etl_job_name", Text.quoted job⟩) := by
  have refused : Rule.accepts (.optional "etl_job_name" .sqlIdentifier)
      (valueOf (Element.relation node) "etl_job_name") = false := by
    rw [valueOf_etlJobName named]
    exact misfit
  calc breach? (Element.relation node)
      = breachOfRules? (Element.relation node)
          [.optional "etl_job_name" .sqlIdentifier, .flag "use_inventory"] :=
        breachOfRules?_append_of_keeps keeps _
    _ = some (breachOf kindName (.optional "etl_job_name" .sqlIdentifier)
          (valueOf (Element.relation node) "etl_job_name")) :=
        breachOfRules?_cons_of_refused refused _
    _ = some (.validation ⟨kindName, "etl_job_name", Text.quoted job⟩) := by
        rw [valueOf_etlJobName named, breachOf, shownSetting_text]
        rfl

/-- A relation whose job has a name that does not fit breaks a rule. -/
theorem Relation.breach?_ne_none (named : node.etlJobName = some job)
    (misfit : sqlIdentifier.accepts job ≠ true) : breach? (Element.relation node) ≠ none := by
  intro unbroken
  have listed : Rule.optional "etl_job_name" .sqlIdentifier ∈ rules := by decide
  exact misfit ((keeps_of_breach?_eq_none unbroken).accepts_of_optional _ listed rfl named)

end Relations

namespace Description

variable {description : Description} {interpolator : Interpolator} {tree : Draft}
  {resolved : Tree Element .resolved} {number : Nat} {relation : RelationDescription}

/-- A resolved tree has the settled deployment for its root, and every relation settled in its
position. -/
theorem exists_settled_of_resolve (built : description.build.outcome = .ok tree)
    (resolves : (tree.resolve interpolator).outcome = .ok resolved)
    (listed : description.relations[number]? = some relation) :
    resolved.node? .root = some (.deployment (description.settled interpolator.filled)) ∧
      ∃ id : NodeId, id.index = relationPosition description.relations number ∧
        resolved.node? id =
          some (.relation (relation.settled interpolator.filled description)) := by
  obtain rfl := eq_settledTree_of_resolve built resolves
  obtain ⟨rootHere, stands, -⟩ := (spans_settledTree built interpolator.filled).stands
  have inside := (List.getElem?_eq_some_iff.mp listed).1
  obtain ⟨here, -⟩ :=
    entry?_of_relationForest stands listed (relationPosition_eq (Nat.le_of_lt inside))
  have room := relationPosition_lt (nodeCount_le_of_build built) listed
  exact ⟨(Tree.node?_of_entry? rootHere).1, _, NodeId.index_wrapping (by omega),
    (Tree.node?_of_entry? here).1⟩

/-- A node of a tree is refused where validating stops at it. -/
theorem breach?_of_stopsAt {id : NodeId} {element : Element} {error : Error}
    (found : resolved.node? id = some element) (described : ∀ probe, element ≠ .probe probe)
    (stops : resolved.StopsAt id error) : breach? element = some error := by
  obtain ⟨-, -, -, -, stopped⟩ := stops
  obtain ⟨entry, here, rfl⟩ := Option.map_eq_some_iff.mp found
  rw [Tree.validateNode_outcome here, Element.validate_outcome described] at stopped
  exact unlessFound_ok_eq_error_iff.mp stopped

/-- A tree of which a relation breaks a rule is refused. -/
theorem validate_of_breach?_ne_none (built : description.build.outcome = .ok tree)
    (resolves : (tree.resolve interpolator).outcome = .ok resolved)
    (member : relation ∈ description.relations)
    (broken : breach? (Element.relation (relation.settled interpolator.filled description)) ≠
      none) :
    ∃ breach, resolved.validate.outcome = .error (.validation breach) := by
  obtain rfl := eq_settledTree_of_resolve built resolves
  rw [validate_settledTree built]
  cases first : (description.settledNodes interpolator.filled).findSome? breach? with
  | none => exact absurd (List.findSome?_eq_none_iff.mp first _
      (settled_mem_settledNodes description member)) broken
  | some error =>
      obtain ⟨element, -, breaks⟩ := List.exists_of_findSome?_eq_some first
      obtain ⟨breach, rfl⟩ := isValidation_of_breach?_eq_some breaks
      exact ⟨breach, rfl⟩

/-- A relation without a name for its job has the job named after its full name. -/
theorem settled_etlJobName {environment name : String} (unnamed : relation.Unnamed interpolator)
    (environmentSet : (description.settled interpolator.filled).environment = some environment)
    (nameSet : (relation.settled interpolator.filled description).relationName = some name) :
    (relation.settled interpolator.filled description).etlJobName =
      some (Relation.jobName (environment ++ "." ++ name)) := by
  change interpolator.filled description.environment = some environment at environmentSet
  change interpolator.filled relation.relationName = some name at nameSet
  rw [RelationDescription.settled, unnamed.ownOr_eq, environmentSet, nameSet]
  rfl

/-- **Derived job names.** In a resolved tree, a relation without a name for its job has the job
named after its full name. When the environment and the name of the relation fit, so does this name
exactly as long as no more than 127 characters of it follow its first letters; validating refuses
the relation for it only beyond that, and then the tree is refused. -/
theorem derivesJobName_of_resolve (built : description.build.outcome = .ok tree)
    (resolves : (tree.resolve interpolator).outcome = .ok resolved)
    (listed : description.relations[number]? = some relation)
    (unnamed : relation.Unnamed interpolator) :
    ∃ (deployment : Deployment) (id : NodeId) (own : Relation),
      resolved.node? .root = some (.deployment deployment) ∧
      id.index = relationPosition description.relations number ∧
      resolved.node? id = some (.relation own) ∧
      ∀ environment name, deployment.environment = some environment →
        sqlIdentifier.accepts environment = true → own.relationName = some name →
        threePartName.accepts name = true → resolved.DerivesJobName id own environment name := by
  obtain ⟨root, id, place, found⟩ := exists_settled_of_resolve built resolves listed
  refine ⟨_, id, _, root, place, found, ?_⟩
  intro environment name environmentSet environmentFits nameSet nameFits
  have named := settled_etlJobName unnamed environmentSet nameSet
  have accepted := Relation.accepts_jobName_iff environmentFits nameFits
  refine ⟨named, accepted, ?_, ?_⟩
  · intro shown stops
    have broken := breach?_of_stopsAt found (fun _ => by simp) stops
    have misfit := Relation.refused_of_breach?_eq_some named broken
    rw [← Nat.not_le, ← accepted, misfit]
    decide
  · intro long
    have misfit := mt accepted.mp (Nat.not_le.mpr long)
    exact validate_of_breach?_ne_none built resolves (List.mem_of_getElem? listed)
      (Relation.breach?_ne_none named misfit)

/-- A name of three parts that ends in so many letters. -/
def longName (count : Nat) : String := "sales.orders." ++ String.ofList (List.replicate count 'r')

/-- A relation with a long name, and without a name for its job. -/
def longRelation (count : Nat) : RelationDescription :=
  { RelationDescription.unset with relationName := some (longName count) }

/-- A deployment of a relation with a long name. -/
def longNamed (count : Nat) : Description :=
  { unset with
    environment := some "prod"
    region := some "us-west-2"
    storageFormat := some "json"
    relations := [longRelation count] }

/-- The deployment as it is resolved. -/
def longDeployment : Deployment :=
  { Deployment.unset with
    environment := some "prod"
    region := some "us-west-2"
    storageFormat := some "json" }

/-- The relation with a long name as it is resolved. -/
def longNode (count : Nat) : Relation :=
  { Relation.unset with
    relationName := some (longName count)
    fullRelationName := some ("prod" ++ "." ++ longName count)
    region := some "us-west-2"
    storageFormat := some "json"
    etlJobName := some (Relation.jobName ("prod" ++ "." ++ longName count)) }

private theorem toList_longName (count : Nat) :
    (longName count).toList = "sales".toList ++
      '.' :: ("orders".toList ++ '.' :: List.replicate count 'r') := by
  simp [longName]

private theorem jobNameTail_longName (count : Nat) :
    Relation.jobNameTail "prod" (longName count) = count + 14 := by
  have letters : ("prod".toList.dropWhile Char.isAlpha).length = 0 := by decide
  have parts : "sales".toList.length = 5 ∧ "orders".toList.length = 6 := by decide
  rw [Relation.jobNameTail, letters, ← String.length_toList, toList_longName]
  simp only [List.length_append, List.length_cons, List.length_replicate, parts]
  omega

private theorem accepts_longName {count : Nat} (positive : 0 < count) :
    threePartName.accepts (longName count) = true := by
  refine Pattern.accepts_threePartName_iff.mpr ⟨_, _, _, toList_longName _, ?_, ?_, ?_⟩
  · exact Pattern.matches_segment_iff.mpr ⟨by decide, List.all_eq_true.mp (by decide)⟩
  · exact Pattern.matches_segment_iff.mpr ⟨by decide, List.all_eq_true.mp (by decide)⟩
  · refine Pattern.matches_segment_iff.mpr ⟨?_, fun c member => ?_⟩
    · simpa [List.replicate_eq_nil_iff] using Nat.ne_of_gt positive
    · rw [List.eq_of_mem_replicate member]
      decide

private theorem dollar_notMem_longNamed (count : Nat) :
    ∀ text ∈ (longNamed count).interpolatedTexts, '$' ∉ text.toList := by
  change ∀ text ∈ ["prod", "us-west-2", "json", longName count], '$' ∉ text.toList
  simp only [List.forall_mem_cons, toList_longName]
  simp

private theorem exists_resolved_longNamed (count : Nat) :
    ∃ tree, (longNamed count).build.outcome = .ok tree ∧
      (tree.resolve withoutVariables).outcome =
        .ok ((longNamed count).settledTree withoutVariables.filled tree) := by
  obtain ⟨tree, built⟩ : ∃ tree, (longNamed count).build.outcome = .ok tree :=
    exists_build (show 2 ≤ NodeId.capacity by decide)
  have free := withoutVariables.firstObstacle?_of_dollar_notMem (dollar_notMem_longNamed count)
  refine ⟨tree, built, ?_⟩
  rw [resolve_of_build built, free]
  rfl

private theorem filled_longNamed {count : Nat} {text : String}
    (listed : text ∈ (longNamed count).interpolatedTexts) :
    withoutVariables.filled (some text) = some text :=
  withoutVariables.filled_of_ok
    (Interpolator.interpolate_of_dollar_notMem (dollar_notMem_longNamed count text listed))

private theorem settled_longNamed (count : Nat) :
    (longNamed count).settled withoutVariables.filled = longDeployment := by
  have environment := @filled_longNamed count "prod" (List.mem_cons_self ..)
  have region := @filled_longNamed count "us-west-2" (by simp [interpolatedTexts, longNamed])
  have format := @filled_longNamed count "json" (by simp [interpolatedTexts, longNamed])
  have none : withoutVariables.filled none = none := rfl
  simp [settled, longNamed, longDeployment, Deployment.unset, unset, environment, region, format,
    none]

private theorem settled_longRelation (count : Nat) :
    (longRelation count).settled withoutVariables.filled (longNamed count) = longNode count := by
  have above := settled_longNamed count
  have environment : withoutVariables.filled (some "prod") = some "prod" :=
    congrArg Deployment.environment above
  have region : withoutVariables.filled (some "us-west-2") = some "us-west-2" :=
    congrArg Deployment.region above
  have format : withoutVariables.filled (some "json") = some "json" :=
    congrArg Deployment.storageFormat above
  have name := @filled_longNamed count (longName count)
    (by simp [interpolatedTexts, longNamed, longRelation])
  have none : withoutVariables.filled none = none := rfl
  simp [RelationDescription.settled, longNamed, longRelation, RelationDescription.unset, longNode,
    Relation.unset, unset, environment, name, region, format, none, fullName, ownOr]

/-- The other settings of the relation with a long name keep their rules. -/
theorem keeps_longRelation {count : Nat} (positive : 0 < count) :
    Keeps (Element.relation (longNode count)) (Relation.rules.take 7) := by
  have nameFits := accepts_longName positive
  have fullFits : Pattern.fourPartName.accepts ("prod" ++ "." ++ longName count) = true :=
    Pattern.accepts_fourPartName_of_accepts (by decide) nameFits
  have regionFits : Pattern.region.accepts "us-west-2" = true := by decide
  have formatFits : Pattern.storageFormat.accepts "json" = true := by decide
  simp only [Keeps, Relation.rules, List.take_succ_cons, List.take_zero, List.forall_mem_cons,
    List.not_mem_nil, false_implies, implies_true, and_true]
  exact ⟨nameFits, fullFits, regionFits, formatFits, rfl, rfl, rfl⟩

/-- The longest name that makes a job after the environment fits. -/
theorem derivesJobName_longNamed :
    ∃ tree resolved deployment id own,
      (longNamed 113).build.outcome = .ok tree ∧
      (tree.resolve withoutVariables).outcome = .ok resolved ∧
      resolved.node? .root = some (.deployment deployment) ∧
      resolved.node? id = some (.relation own) ∧
      resolved.DerivesJobName id own "prod" (longName 113) ∧
      sqlIdentifier.accepts (Relation.jobName ("prod" ++ "." ++ longName 113)) = true := by
  obtain ⟨tree, built, resolves⟩ := exists_resolved_longNamed 113
  have listed : (longNamed 113).relations[0]? = some (longRelation 113) := rfl
  obtain ⟨deployment, id, own, root, place, found, derives⟩ :=
    derivesJobName_of_resolve built resolves listed (.inl rfl)
  obtain ⟨settledRoot, other, settledPlace, settledFound⟩ :=
    exists_settled_of_resolve built resolves listed
  obtain rfl : other = id := NodeId.ext_index (settledPlace.trans place.symm)
  rw [settled_longNamed] at settledRoot
  rw [settled_longRelation] at settledFound
  obtain rfl := Element.deployment.inj (Option.some.inj (settledRoot.symm.trans root))
  obtain rfl := Element.relation.inj (Option.some.inj (settledFound.symm.trans found))
  have holds := derives "prod" (longName 113) rfl (by decide) rfl (accepts_longName (by decide))
  have fits := holds.accepted.mpr (Nat.le_of_eq (jobNameTail_longName 113))
  exact ⟨tree, _, _, other, _, built, resolves, root, found, holds, fits⟩

/-- One letter more, and the job has a name that does not fit: the relation is refused for it,
although the environment and its own name fit. -/
theorem exists_refused_longNamed :
    ∃ tree resolved deployment id own job,
      (longNamed 114).build.outcome = .ok tree ∧
      (tree.resolve withoutVariables).outcome = .ok resolved ∧
      (longNamed 114).relations = [longRelation 114] ∧
      (longRelation 114).Unnamed withoutVariables ∧
      resolved.node? .root = some (.deployment deployment) ∧
      deployment.environment = some "prod" ∧ sqlIdentifier.accepts "prod" = true ∧
      resolved.node? id = some (.relation own) ∧
      own.relationName = some (longName 114) ∧
      threePartName.accepts (longName 114) = true ∧
      own.etlJobName = some job ∧ sqlIdentifier.accepts job = false ∧
      resolved.validate.outcome =
        .error (.validation ⟨"relation", "etl_job_name", Text.quoted job⟩) := by
  obtain ⟨tree, built, resolves⟩ := exists_resolved_longNamed 114
  have listed : (longNamed 114).relations[0]? = some (longRelation 114) := rfl
  obtain ⟨root, id, -, found⟩ := exists_settled_of_resolve built resolves listed
  have nodes : (longNamed 114).settledNodes withoutVariables.filled =
      [.deployment ((longNamed 114).settled withoutVariables.filled),
        .relation ((longRelation 114).settled withoutVariables.filled (longNamed 114))] := rfl
  rw [settled_longNamed] at root nodes
  rw [settled_longRelation] at found nodes
  have environmentFits : sqlIdentifier.accepts "prod" = true := by decide
  have nameFits : threePartName.accepts (longName 114) = true := accepts_longName (by decide)
  have misfit : sqlIdentifier.accepts (Relation.jobName ("prod" ++ "." ++ longName 114)) =
      false := by
    rw [← Bool.not_eq_true, Relation.accepts_jobName_iff environmentFits nameFits,
      jobNameTail_longName]
    decide
  refine ⟨tree, _, _, id, _, _, built, resolves, rfl, .inl rfl, root, rfl, environmentFits, found,
    rfl, nameFits, rfl, misfit, ?_⟩
  have broken := Relation.breach?_of_keeps rfl misfit (keeps_longRelation (by decide))
  have passes : breach? (Element.deployment longDeployment) = none := by decide +kernel
  rw [validate_settledTree built, nodes, List.findSome?_cons, passes, List.findSome?_cons, broken]
  rfl

end Description

end DeployTree
