import DeployTree.Proofs.Schema.Manner
import DeployTree.Proofs.Tree.Numbering

/-! # The output of elements does not depend on their numbers

An element that is handed the outputs of its children makes no use of their identifiers
(`DeployTree.Element.manner_ignoresNumbers`). The rest of what it sees are the settings above it, so
two trees that hold the same elements in the same places have the same output, or fail with the same
error (`DeployTree.Tree.Renumbers.generate_outcome_eq`). In which order the subtrees grew makes no
difference.
-/

namespace DeployTree

/-- The manner of elements makes nothing of the numbers of their children. -/
theorem Element.manner_ignoresNumbers (interpolator : Interpolator) :
    (manner interpolator).IgnoresNumbers := by
  intro outlook children node rename
  have outputs : (children.map (ChildOutput.renumber rename)).map ChildOutput.output =
      children.map ChildOutput.output := List.map_map
  have isEmpty : (children.map (ChildOutput.renumber rename)).isEmpty = children.isEmpty :=
    List.isEmpty_map
  cases node with
  | deployment node => simp only [manner, output, Deployment.output, outputs]
  | relation node => simp only [manner, output, Relation.output, outputs]
  | column node => rfl
  | probe node => simp only [manner, output, Probe.output, outputs, isEmpty]

namespace Tree

/-- **Independence of the numbering.** Trees of the same elements in the same places have the same
output or the same error, whatever identifiers the order of the additions gave the elements. -/
theorem Renumbers.generate_outcome_eq {rename : NodeId → NodeId}
    {first second : Tree Element .constructed} (renumbers : Renumbers rename first second)
    (built : first.Built) (also : second.Built) (interpolator : Interpolator) :
    (first.generate interpolator).outcome = (second.generate interpolator).outcome :=
  (Element.manner_ignoresNumbers interpolator).generate_outcome_of_renumbers built also renumbers

/-- A deployment to which elements are added in turn, each under a given parent. -/
def grown (additions : List (NodeId × Element)) : Except Error (Tree Element .constructed) :=
  (ofRoot (.deployment ⟨some "prod", some "us-west-2", none, none, some "json"⟩)).addEach additions

/-- A relation under the deployment. -/
def orders : NodeId × Element :=
  (.root, .relation { Relation.unset with relationName := some "sales.orders.raw" })

/-- A column of the relation `orders`, which is added first. -/
def orderColumn : NodeId × Element :=
  (.wrapping 1, .column { Column.unset with name := some "id", dataType := some "int" })

/-- A probe under the deployment. -/
def endMark : NodeId × Element :=
  (.root, .probe
    { label := none
      values := Dictionary.ofList [("mark", .text "end")]
      strict := true
      rules := []
      inheritedNames := []
      keepsInherited := false
      interpolatedNames := [] })

/-- Takes the numbers of a tree whose second and third additions are swapped. -/
def swapped (id : NodeId) : NodeId :=
  match id.index with
  | 2 => .wrapping 3
  | 3 => .wrapping 2
  | _ => id

/-- The column may be added before the probe or after it. -/
theorem generate_outcome_swapped :
    ∃ first second, grown [orders, orderColumn, endMark] = .ok first ∧
      grown [orders, endMark, orderColumn] = .ok second ∧
      Renumbers swapped first second ∧
      first.preorder.map NodeId.index = [0, 1, 2, 3] ∧
      second.preorder.map NodeId.index = [0, 1, 3, 2] ∧
      (first.generate ⟨.standard, fun _ => none⟩).outcome =
        (second.generate ⟨.standard, fun _ => none⟩).outcome ∧
      (first.generate ⟨.standard, fun _ => none⟩).outcome.isOk = true := by
  obtain ⟨first, firstOk⟩ : ∃ first, grown [orders, orderColumn, endMark] = .ok first := ⟨_, rfl⟩
  obtain ⟨second, secondOk⟩ : ∃ second, grown [orders, endMark, orderColumn] = .ok second :=
    ⟨_, rfl⟩
  have built : first.Built := (Built.root _).addEach firstOk
  have also : second.Built := (Built.root _).addEach secondOk
  have renumbers : Renumbers swapped first second := by
    obtain rfl := Except.ok.inj firstOk
    obtain rfl := Except.ok.inj secondOk
    refine { root := rfl, node := ?_, children := ?_ } <;>
    · rintro ⟨index, bound⟩ inside
      match index, bound, inside with
      | 0, _, _ | 1, _, _ | 2, _, _ | 3, _, _ => rfl
  refine ⟨first, second, firstOk, secondOk, renumbers, ?_, ?_,
    renumbers.generate_outcome_eq built also _, ?_⟩
  · obtain rfl := Except.ok.inj firstOk
    decide
  · obtain rfl := Except.ok.inj secondOk
    decide
  · obtain rfl := Except.ok.inj firstOk
    decide +kernel

end Tree

end DeployTree
