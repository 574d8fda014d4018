import DeployTree.Description.Document
import DeployTree.Proofs.Description.Trail
import DeployTree.Proofs.Json.Leaves

/-! # What the log tells about values

The log of a run that succeeds holds no value of a variable, with one exception: the record of a
relation gives its full name, and the environment and the names in it may come from variables. So
the logs of two runs that succeed on a document agree but for these names, and they are equal
exactly when the outputs have the same full names
(`DeployTree.Description.records_generateFrom_eq_iff`).
-/

namespace DeployTree

/-- A record without its field for a relation. -/
def Record.unnamed (record : Record) : Record :=
  { record with fields := record.fields.filter fun field => field.1 ≠ "relation" }

/-- The field of a record for a relation. -/
def Record.relation? (record : Record) : Option Json := Dictionary.lookup "relation" record.fields

/-- The full names of the relations of an output, in order. -/
def Json.fullNames (output : Json) : List Json :=
  match output.field "relations" with
  | .array relations => relations.map (Json.field "full_relation_name")
  | _ => []

private theorem Json.ofText?_injective : Function.Injective Json.ofText? := by
  intro first second same
  cases first <;> cases second <;> simp_all [Json.ofText?]

namespace Event

/-- The record of an event without the full name that it tells. -/
def unnamedRecord? (event : Event) : Option Record := event.record?.map Record.unnamed

/-- The full name in the record of an event. -/
def relation? (event : Event) : Option Json := event.record?.bind Record.relation?

end Event

namespace Description

variable {interpolator : Interpolator} {description : Description}

open Interpolator in
private theorem filterMap_relation?_substitutions (texts : List String) :
    (substitutions texts).filterMap Event.relation? = [] := by
  simp only [substitutions, List.filterMap_eq_nil_iff, List.forall_mem_flatMap, List.forall_mem_map]
  exact fun _ _ _ _ => rfl

/-- But for full names, stories of a description tell the same. -/
theorem filterMap_unnamedRecord?_story (naming other : Option String → Option String)
    (description : Description) :
    (description.story naming).filterMap Event.unnamedRecord? =
      (description.story other).filterMap Event.unnamedRecord? := by
  have each (id : NodeId) (element : Element) :
      (Forest.resolving (Element.story naming) id element).filterMap Event.unnamedRecord? =
        (Forest.resolving (Element.story other) id element).filterMap Event.unnamedRecord? := by
    cases element with
    | relation node =>
        simp only [Forest.resolving, Element.story, List.filterMap_cons, List.filterMap_append]
        rfl
    | _ => rfl
  simp only [story, List.filterMap_cons, List.filterMap_append, Forest.filterMap_told, each]

/-- The full names that a story tells are those of the relations, in order. -/
theorem filterMap_relation?_story (naming : Option String → Option String)
    (description : Description) :
    (description.story naming).filterMap Event.relation? =
      description.relations.map fun relation =>
        .string ((naming relation.relationName).getD "<unnamed>") := by
  let names : Element → List Json
    | .relation node => [.string ((naming node.relationName).getD "<unnamed>")]
    | _ => []
  have each (id : NodeId) (element : Element) :
      (Forest.resolving (Element.story naming) id element).filterMap Event.relation? =
        names element := by
    cases element with
    | relation node =>
        rw [Forest.resolving, Element.story, List.filterMap_cons_none rfl, List.filterMap_append,
          filterMap_relation?_substitutions]
        rfl
    | probe node => rfl
    | _ => exact (List.filterMap_cons_none rfl).trans (filterMap_relation?_substitutions _)
  have nodes : description.builtWhole.nodes.flatMap names =
      description.relations.map fun relation =>
        .string ((naming relation.relationName).getD "<unnamed>") := by
    rw [nodes_builtWhole, List.flatMap_cons, List.flatMap_assoc, List.map_eq_flatMap]
    refine congrArg (description.relations.flatMap ·) (funext fun relation => ?_)
    rw [List.flatMap_cons, List.flatMap_map, List.flatMap_eq_nil_iff.mpr fun _ _ => rfl]
    rfl
  have silent : description.builtWhole.told (fun id element =>
      (Forest.validating id element).filterMap Event.relation?) = [] := by
    rw [← List.flatMap_eq_nil_iff.mpr fun element _ => rfl]
    exact Forest.told_eq_flatMap (fun _ => []) description.builtWhole
  rw [story, List.filterMap_cons_none rfl]
  simp only [List.filterMap_append, Forest.filterMap_told, each, silent, Forest.told_eq_flatMap,
    nodes]
  exact (List.append_nil _).trans (List.append_nil _)

private theorem fullNames_rendering (interpolator : Interpolator) (description : Description) :
    (description.rendering interpolator.filled).fullNames =
      description.relations.map fun relation =>
        .ofText? (description.naming interpolator relation.relationName) := by
  change List.map _ (List.map _ _) = _
  rw [List.map_map]
  rfl

variable {naming other : Option String → Option String}

/-- A story depends on the full names of the relations only. -/
theorem story_congr (same : ∀ relation ∈ description.relations,
    naming relation.relationName = other relation.relationName) :
    description.story naming = description.story other := by
  have told : description.builtWhole.told (Forest.resolving (Element.story naming)) =
      description.builtWhole.told (Forest.resolving (Element.story other)) := by
    apply Forest.told_congr
    rw [nodes_builtWhole]
    intro element member id
    rcases List.mem_cons.mp member with rfl | member
    · rfl
    · obtain ⟨relation, listed, member⟩ := List.mem_flatMap.mp member
      rcases List.mem_cons.mp member with rfl | member
      · have name : naming relation.node.relationName = other relation.node.relationName :=
          same relation listed
        rw [Forest.resolving, Forest.resolving, Element.story, Element.story, name]
      · obtain ⟨column, -, rfl⟩ := List.mem_map.mp member
        rfl
  rw [story, story, told]

variable {text : String} {output : Json}

/-- A relation has a full name when generating succeeds. -/
theorem exists_naming_eq_some (generated : (description.generate interpolator).outcome = .ok output)
    {relation : RelationDescription} (member : relation ∈ description.relations) :
    ∃ name, description.naming interpolator relation.relationName = some name := by
  obtain ⟨-, unbroken, -⟩ := of_generate_eq_ok generated
  have keeps : Keeps (Element.relation (relation.settled interpolator.filled description))
      Relation.rules :=
    keeps_of_breach?_eq_none (unbroken _ (settled_mem_settledNodes _ member))
  obtain ⟨name, named, -⟩ : ∃ name, description.naming interpolator relation.relationName =
      some name ∧ Pattern.fourPartName.accepts name = true :=
    keeps.exists_accepted "full_relation_name" (by decide) rfl
  exact ⟨name, named⟩

/-- A run that succeeds on a document tells the story of what the document describes, and gives the
full names that it tells. -/
theorem exists_story (ok : (generateFrom text interpolator).outcome = .ok output) :
    ∃ description, parse text = .ok description ∧
      (generateFrom text interpolator).trail =
        description.story (description.naming interpolator) ∧
      output.fullNames = description.relations.map (fun relation =>
        .ofText? (description.naming interpolator relation.relationName)) ∧
      ∀ relation ∈ description.relations,
        ∃ name, description.naming interpolator relation.relationName = some name := by
  obtain ⟨description, read, generated⟩ := Run.outcome_bind_eq_ok_iff.mp ok
  have tells : (generateFrom text interpolator).Tells
      (description.story (description.naming interpolator)) :=
    (Run.Tells.ofExcept _).bind fun value same => by
      obtain rfl := Except.ok.inj (read.symm.trans same)
      exact tells_generate interpolator
  obtain ⟨-, -, rendered⟩ := of_generate_eq_ok generated
  refine ⟨description, read, tells _ ok, ?_, fun relation => exists_naming_eq_some generated⟩
  rw [rendered, fullNames_rendering]

/-- The full names in a log are those of the output. -/
theorem filterMap_relation?_records (ok : (generateFrom text interpolator).outcome = .ok output) :
    (generateFrom text interpolator).records.filterMap Record.relation? = output.fullNames := by
  obtain ⟨description, -, trail, names, set⟩ := exists_story ok
  rw [Run.records, List.filterMap_filterMap, trail, names]
  refine (filterMap_relation?_story _ description).trans ?_
  apply List.map_congr_left
  intro relation member
  obtain ⟨name, same⟩ := set relation member
  rw [same]
  rfl

/-- **What the log tells about values.** But for the names of relations in records, the logs of two
runs that succeed on a document are the same, whatever the variables are bound to. They are equal
exactly when the outputs give the relations the same full names. -/
theorem records_generateFrom_eq_iff {first second : Interpolator} {also : Json}
    (ok : (generateFrom text first).outcome = .ok output)
    (other : (generateFrom text second).outcome = .ok also) :
    (generateFrom text first).records.map Record.unnamed =
        (generateFrom text second).records.map Record.unnamed ∧
      ((generateFrom text first).records = (generateFrom text second).records ↔
        output.fullNames = also.fullNames) := by
  obtain ⟨description, read, trail, names, -⟩ := exists_story ok
  obtain ⟨same, readAgain, trailOther, namesOther, -⟩ := exists_story other
  obtain rfl := Except.ok.inj (read.symm.trans readAgain)
  refine ⟨?_, ?_, ?_⟩
  · rw [Run.records, Run.records, List.map_filterMap, List.map_filterMap, trail, trailOther]
    exact filterMap_unnamedRecord?_story _ _ description
  · intro equal
    rw [← filterMap_relation?_records ok, ← filterMap_relation?_records other, equal]
  · intro equal
    rw [names, namesOther, List.map_inj_left] at equal
    rw [Run.records, Run.records, trail, trailOther]
    refine congrArg (List.filterMap Event.record?) (story_congr fun relation member => ?_)
    exact Json.ofText?_injective (equal relation member)

/-- A document whose environment is a variable. -/
def stagedDocument : String :=
  "\x7b\"environment\":\"$\x7benv.CONVERGDB_ENV\x7d\",\"region\":\"us-west-2\"," ++
    "\"storage_format\":\"parquet\"," ++
      "\"relations\":[\x7b\"relation_name\":\"ecommerce.inventory.books\"\x7d]\x7d"

/-- The source of variables of one stage, which binds the same name at every stage. -/
def stage (environment : String) : Interpolator :=
  ⟨.standard, Bindings.lookup (Dictionary.ofList [("CONVERGDB_ENV", environment)])⟩

private theorem generateFrom_staged :
    (generateFrom stagedDocument (stage "prod")).outcome.map Json.fullNames =
        .ok [.string "prod.ecommerce.inventory.books"] ∧
      (generateFrom stagedDocument (stage "staging")).outcome.map Json.fullNames =
        .ok [.string "staging.ecommerce.inventory.books"] := by
  decide +kernel

private theorem exists_generateFrom_staged :
    ∃ output also, (generateFrom stagedDocument (stage "prod")).outcome = .ok output ∧
      (generateFrom stagedDocument (stage "staging")).outcome = .ok also ∧
      output.fullNames = [.string "prod.ecommerce.inventory.books"] ∧
      also.fullNames = [.string "staging.ecommerce.inventory.books"] := by
  obtain ⟨first, second⟩ := generateFrom_staged
  obtain ⟨output, ok, names⟩ := map_eq_ok_iff.mp first
  obtain ⟨also, other, namesAlso⟩ := map_eq_ok_iff.mp second
  exact ⟨output, also, ok, other, names, namesAlso⟩

/-- At two stages the logs agree but for the names of relations, in which they differ. -/
theorem records_generateFrom_eq_iff_staged :
    ∃ output also, (generateFrom stagedDocument (stage "prod")).outcome = .ok output ∧
      (generateFrom stagedDocument (stage "staging")).outcome = .ok also ∧
      (generateFrom stagedDocument (stage "prod")).records.map Record.unnamed =
        (generateFrom stagedDocument (stage "staging")).records.map Record.unnamed ∧
      ((generateFrom stagedDocument (stage "prod")).records =
          (generateFrom stagedDocument (stage "staging")).records ↔
        output.fullNames = also.fullNames) := by
  obtain ⟨output, also, ok, other, -, -⟩ := exists_generateFrom_staged
  exact ⟨output, also, ok, other, records_generateFrom_eq_iff ok other⟩

/-- Two sources may bind the same names, and a document succeed under both, with different logs. -/
theorem records_generateFrom_staged_ne :
    (∀ name, ((stage "prod").source name).isSome = ((stage "staging").source name).isSome) ∧
      (∃ output, (generateFrom stagedDocument (stage "prod")).outcome = .ok output) ∧
      (∃ output, (generateFrom stagedDocument (stage "staging")).outcome = .ok output) ∧
      (generateFrom stagedDocument (stage "prod")).records ≠
        (generateFrom stagedDocument (stage "staging")).records := by
  obtain ⟨output, also, ok, other, names, namesAlso⟩ := exists_generateFrom_staged
  refine ⟨fun name => ?_, ⟨output, ok⟩, ⟨also, other⟩, fun same => ?_⟩
  · have bound (environment : String) :
        (stage environment).source name =
          if "CONVERGDB_ENV" = name then some environment else none := rfl
    rw [bound, bound]
    split
    · rfl
    · rfl
  · have equal : output.fullNames = also.fullNames := by
      rw [← filterMap_relation?_records ok, ← filterMap_relation?_records other, same]
    rw [names, namesAlso] at equal
    exact absurd equal (by decide)

end Description

end DeployTree
