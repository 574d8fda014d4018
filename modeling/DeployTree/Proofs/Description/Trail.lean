import DeployTree.Proofs.Description.Rendering
import DeployTree.Proofs.Environment.Trail

/-! # The story of a run

The events of a run that succeeds can be written down in document order, without a tree: the nodes
are resolved one after another, each naming the variables that it mentions, and then validated one
after another (`DeployTree.Description.story`). Generating leaves exactly these events
(`DeployTree.Description.tells_generate`). Of what variables are bound to, they hold the full names
of the relations and nothing else.
-/

namespace DeployTree

namespace Forest

variable {ν : Type}

section Told

variable {α β : Type}

/-- What is told of the nodes of a forest, parents before children. -/
def told (tell : NodeId → ν → List α) : Forest ν → List α
  | empty => []
  | branch id node below rest => tell id node ++ (below.told tell ++ rest.told tell)

/-- Picking from what is told of a forest is telling what is picked from each node. -/
theorem filterMap_told (part : α → Option β) (tell : NodeId → ν → List α) (forest : Forest ν) :
    (forest.told tell).filterMap part =
      forest.told fun id node => (tell id node).filterMap part := by
  induction forest with
  | empty => rfl
  | branch id node below rest ihBelow ihRest =>
      rw [told, told, List.filterMap_append, List.filterMap_append, ihBelow, ihRest]

/-- What is told of a forest depends only on what is told of its nodes. -/
theorem told_congr {tell other : NodeId → ν → List α} {forest : Forest ν}
    (same : ∀ node ∈ forest.nodes, ∀ id, tell id node = other id node) :
    forest.told tell = forest.told other := by
  induction forest with
  | empty => rfl
  | branch id node below rest ihBelow ihRest =>
      simp only [nodes, List.forall_mem_cons, List.forall_mem_append] at same
      obtain ⟨own, lower, later⟩ := same
      rw [told, told, own, ihBelow lower, ihRest later]

/-- What is told of nodes wherever they stand is told of the list of them. -/
theorem told_eq_flatMap (tell : ν → List α) (forest : Forest ν) :
    (forest.told fun _ => tell) = forest.nodes.flatMap tell := by
  induction forest with
  | empty => rfl
  | branch id node below rest ihBelow ihRest =>
      rw [told, nodes, ihBelow, ihRest, List.flatMap_cons, List.flatMap_append]

end Told

variable [Node ν] {interpolator : Interpolator} {manner : Manner ν interpolator}
  {forest : Forest ν}

/-- A node is announced, then it tells its story. -/
def resolving (story : ν → List Event) (id : NodeId) (node : ν) : List Event :=
  .resolving id (Attributed.kind node) :: story node

/-- A node is announced, and its validation tells nothing. -/
def validating (id : NodeId) (node : ν) : List Event := [.validating id (Attributed.kind node)]

private theorem tells_resolved {story : ν → List Event}
    (each : ∀ node ∈ forest.nodes, ∀ outlook, (manner.resolve outlook node).Tells (story node))
    (outlook : Outlook) :
    (forest.resolved manner outlook).Tells (forest.told (resolving story)) := by
  induction forest generalizing outlook with
  | empty => exact .pure _
  | branch id node below rest ihBelow ihRest =>
      simp only [nodes, List.forall_mem_cons, List.forall_mem_append] at each
      obtain ⟨own, lower, later⟩ := each
      refine .emit_bind ((own outlook).bind fun _ _ => ?_)
      refine (ihBelow lower _).bind fun _ _ => ?_
      exact (ihRest later _).bind_nil fun _ _ => .pure _

private theorem tells_validated (quiet : ∀ node ∈ forest.nodes, (Node.validate node).Tells []) :
    forest.validated.Tells (forest.told validating) := by
  induction forest with
  | empty => exact .pure _
  | branch id node below rest ihBelow ihRest =>
      simp only [nodes, List.forall_mem_cons, List.forall_mem_append] at quiet
      obtain ⟨own, lower, later⟩ := quiet
      refine .emit_bind (own.bind fun _ _ => ?_)
      exact (ihBelow lower).bind fun _ _ => ihRest later

private theorem tells_outputs
    (quiet : ∀ outlook children node, (manner.output outlook children node).Tells [])
    (outlook : Outlook) : (forest.outputs manner outlook).Tells [] := by
  induction forest generalizing outlook with
  | empty => exact .pure _
  | branch id node below rest ihBelow ihRest =>
      refine (ihBelow _).bind_nil fun _ _ => ?_
      refine (quiet _ _ _).bind_nil fun _ _ => ?_
      exact (ihRest _).bind_nil fun _ _ => .pure _

end Forest

/-- A check that succeeds tells nothing. -/
theorem tells_checkRules {ν : Type} [Attributed ν] (node : ν) (rules : List Rule) :
    (checkRules node rules).Tells [] := by
  induction rules with
  | nil => exact .pure _
  | cons rule rest ih =>
      refine (Run.Tells.ofExcept _).bind_nil fun setting _ => ?_
      by_cases accepted : rule.accepts setting = true
      · rw [if_pos accepted]
        exact ih
      · rw [if_neg accepted]
        intro value ok
        cases ok

open Interpolator (TextField substitutions)

/-- The texts that some attributes of a node hold. -/
def Interpolator.TextField.texts {κ : Type} [Attributed κ] (fields : List (TextField κ))
    (node : κ) : List String :=
  fields.flatMap fun field => (field.get node).toList

namespace Element

/-- What an element tells while it is resolved, given the full name that goes with a relation's own
name. -/
def story (naming : Option String → Option String) : Element → List Event
  | deployment node => substitutions (TextField.texts Deployment.textFields node)
  | relation node =>
      substitutions (TextField.texts Relation.textFields node) ++
        [.relationResolved (naming node.relationName)]
  | column node => substitutions (TextField.texts Column.textFields node)
  | probe _ => []

variable {interpolator : Interpolator} {outlook : Outlook}

private theorem tells_deployment (node : Deployment) (outlook : Outlook) :
    ((manner interpolator).resolve outlook (.deployment node)).Tells
      (substitutions (TextField.texts Deployment.textFields node)) :=
  (interpolator.tells_interpolated Deployment.textFields node).map deployment

private theorem tells_column (node : Column) (outlook : Outlook) :
    ((manner interpolator).resolve outlook (.column node)).Tells
      (substitutions (TextField.texts Column.textFields node)) :=
  (interpolator.tells_interpolated Column.textFields node).map column

/-- Under a deployment a relation tells its full name after the variables that it mentions. -/
theorem tells_relation (above : Deployment) (node : Relation) (outlook : Outlook) :
    ((manner interpolator).resolve (outlook.beneath (Element.deployment above))
        (.relation node)).Tells
      (substitutions (TextField.texts Relation.textFields node) ++
        [.relationResolved
          (fullName above.environment (interpolator.filled node.relationName))]) := by
  let scope := (outlook.beneath (Element.deployment above)).resolveScope interpolator
  have under : scope.view.outlook scope.parent = outlook.beneath (Element.deployment above) :=
    Outlook.outlook_view _
  have environment : scope.parentSetting "environment" = .ok (above.environment.map .text) := by
    rw [ResolveScope.parentSetting_eq]
    exact Relation.setting_of_deployment under rfl
  have fills := interpolator.fills_interpolated Relation.textFields node
  refine Run.Tells.map relation
    ((interpolator.tells_interpolated Relation.textFields node).bind fun filled ok => ?_)
  obtain rfl := fills.eq_of_ok ok
  rw [Relation.inherit_of_deployment under, environment]
  have named : (Relation.derive (above.environment.map .text)
      ((interpolator.filledNode Relation.textFields node).withSettings above)).fullRelationName =
        fullName above.environment (interpolator.filled node.relationName) := by
    rw [Relation.derive_eq]
    rfl
  rw [← named]
  exact fun _ _ => rfl

end Element

namespace Description

/-- All nodes of a description in their positions, as they are before they are resolved. -/
def builtWhole (description : Description) : Forest Element :=
  .branch .root (.deployment description.node) (builtForest 1 description.relations) .empty

/-- What a run on a description tells that succeeds, given the full names that go with the
relations' own names. -/
def story (naming : Option String → Option String) (description : Description) : List Event :=
  .treeBuilt description.relations.length description.nodeCount ::
    ((description.builtWhole.told (Forest.resolving (Element.story naming)) ++
        [.treeResolved description.nodeCount]) ++
      (description.builtWhole.told Forest.validating ++ [.treeValidated description.nodeCount]))

/-- The nodes of a description before resolution come in document order. -/
theorem nodes_builtWhole (description : Description) :
    description.builtWhole.nodes =
      .deployment description.node :: description.relations.flatMap fun relation =>
        .relation relation.node :: relation.columns.map fun column => .column column.node := by
  rw [builtWhole, Forest.nodes, builtForest, nodes_relationForest, Forest.nodes, List.append_nil]

variable {interpolator : Interpolator} {description : Description}

private theorem tells_columnForest (naming : Option String → Option String) (outlook : Outlook)
    (start : Nat) (columns : List ColumnDescription) :
    ((columnForest ColumnDescription.node start columns).resolved (Element.manner interpolator)
        outlook).Tells
      ((columnForest ColumnDescription.node start columns).told
        (Forest.resolving (Element.story naming))) := by
  apply Forest.tells_resolved
  intro node member outlook
  rw [nodes_columnForest] at member
  obtain ⟨column, -, rfl⟩ := List.mem_map.mp member
  exact Element.tells_column column.node outlook

/-- Relations under a deployment tell their full names, each before its columns. -/
theorem tells_builtForest (above : Deployment) (outlook : Outlook) (start : Nat)
    (relations : List RelationDescription) :
    ((builtForest start relations).resolved (Element.manner interpolator)
        (outlook.beneath (Element.deployment above))).Tells
      ((builtForest start relations).told (Forest.resolving
        (Element.story fun own => fullName above.environment (interpolator.filled own)))) := by
  induction relations generalizing start with
  | nil => exact .pure _
  | cons relation rest ih =>
      refine .emit_bind ((Element.tells_relation above relation.node outlook).bind fun _ _ => ?_)
      refine (tells_columnForest _ _ _ _).bind fun _ _ => ?_
      exact (ih (start + relation.nodeCount)).bind_nil fun _ _ => .pure _

/-- The full name that a description gives to a relation by the relation's own name. -/
def naming (interpolator : Interpolator) (description : Description) (own : Option String) :
    Option String :=
  fullName (interpolator.filled description.environment) (interpolator.filled own)

private theorem tells_builtWhole :
    (description.builtWhole.resolved (Element.manner interpolator) none).Tells
      (description.builtWhole.told
        (Forest.resolving (Element.story (description.naming interpolator)))) := by
  refine .emit_bind ((Element.tells_deployment description.node none).bind fun own ok => ?_)
  obtain rfl := (description.fills_node none).eq_of_ok ok
  exact (tells_builtForest _ none 1 description.relations).bind fun _ _ => .pure _

/-- Settled nodes stand where the nodes stood before, and are of the same kinds. -/
theorem told_validating_settledWhole (fill : Option String → Option String)
    (description : Description) :
    (description.settledWhole fill).told Forest.validating =
      description.builtWhole.told Forest.validating := by
  have columns (start : Nat) (columns : List ColumnDescription) :
      (columnForest (ColumnDescription.settled fill) start columns).told Forest.validating =
        (columnForest ColumnDescription.node start columns).told Forest.validating := by
    induction columns generalizing start with
    | nil => rfl
    | cons column rest ih => exact congrArg (Event.validating _ _ :: ·) (ih (start + 1))
  have relations (start : Nat) (relations : List RelationDescription) :
      (settledForest fill description start relations).told Forest.validating =
        (builtForest start relations).told Forest.validating := by
    induction relations generalizing start with
    | nil => rfl
    | cons relation rest ih =>
        rw [settledForest, relationForest, Forest.told, columns, ← settledForest, ih]
        rfl
  rw [settledWhole, Forest.told, relations]
  rfl

private theorem tells_validate_element {element : Element}
    (described : ∀ probe, element ≠ .probe probe) :
    (Node.validate element).Tells [] := by
  cases element with
  | probe node => exact absurd rfl (described node)
  | _ => exact tells_checkRules _ _

private theorem tells_build (description : Description) :
    description.build.Tells
      [.treeBuilt description.relations.length description.nodeCount] := by
  intro tree built
  rw [← size_of_build built, build, build_eq_ok_iff.mp built]
  rfl

section Passes

variable {tree : Draft} (built : description.build.outcome = .ok tree)
include built

private theorem tells_resolve (interpolator : Interpolator) :
    (tree.resolve interpolator).Tells
      (description.builtWhole.told
        (Forest.resolving (Element.story (description.naming interpolator))) ++
          [.treeResolved description.nodeCount]) := by
  rw [(spans_of_build built).resolve (Element.manner interpolator), size_of_build built]
  exact tells_builtWhole.bind fun _ _ => .emit_bind (.pure _)

private theorem tells_validate (fill : Option String → Option String) :
    (description.settledTree fill tree).validate.Tells
      (description.builtWhole.told Forest.validating ++
        [.treeValidated description.nodeCount]) := by
  have size : (description.settledTree fill tree).size = description.nodeCount := by
    rw [settledTree, Tree.size, Forest.size_rewrite]
    exact size_of_build built
  have nodes := nodes_settledWhole fill description
  rw [(spans_settledTree built fill).validate, size, ← told_validating_settledWhole fill]
  refine (Forest.tells_validated fun node member => ?_).bind fun _ _ => .emit_bind (.pure _)
  exact tells_validate_element (ne_probe_of_mem_settledNodes (nodes ▸ member))

private theorem tells_output (interpolator : Interpolator) :
    (Tree.output ⟨(description.settledTree interpolator.filled tree).arena⟩).Tells [] := by
  have quiet (outlook : Outlook) (children : List ChildOutput) (element : Element) :
      ((Element.manner interpolator).output outlook children element).Tells [] :=
    .ofExcept _
  have spans := spans_settledTree built interpolator.filled
  have output : Tree.output ⟨(description.settledTree interpolator.filled tree).arena⟩ = _ :=
    spans.output (Element.manner interpolator)
  rw [output]
  exact (Forest.tells_outputs quiet _).bind_nil fun _ _ => quiet _ _ _

end Passes

/-- **The events of generating.** A run that succeeds tells the story of its description. -/
theorem tells_generate (interpolator : Interpolator) :
    (description.generate interpolator).Tells
      (description.story (description.naming interpolator)) := by
  refine description.tells_build.bind fun tree built => ?_
  refine (tells_resolve built interpolator).bind fun resolved ok => ?_
  obtain rfl := Run.Fills.eq_of_ok (resolve_of_build built interpolator) ok
  refine (tells_validate built _).bind_nil fun validated ok => ?_
  rw [validate_settledTree built] at ok
  obtain ⟨-, same⟩ := unlessFound_eq_ok_iff.mp ok
  obtain rfl := Except.ok.inj same
  exact tells_output built _

end Description

end DeployTree
