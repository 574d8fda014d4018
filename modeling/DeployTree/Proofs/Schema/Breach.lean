import DeployTree.Proofs.Schema.Table
import DeployTree.Proofs.Tree.Passes

/-! # The first rule that is broken

Checking a node ends with the first of its rules whose attribute it does not have or whose value is
not accepted; the check succeeds where there is no such rule (`DeployTree.checkRules_outcome`).
Deployments, relations and columns have all the attributes that their rules name, so only a value
can go wrong (`DeployTree.Element.validate_outcome`). Validating a forest ends with the first node
that breaks a rule (`DeployTree.Forest.validated_outcome`).
-/

namespace DeployTree

section Rules

variable {ν : Type} [Attributed ν]

/-- The value of an attribute, unset also where the node has no such attribute. -/
def valueOf (node : ν) (name : String) : Option Value :=
  match Attributed.read node name with
  | .ok setting => setting
  | .error _ => none

/-- The report of the first of some rules that a node breaks. -/
def breachOfRules? (node : ν) (rules : List Rule) : Option Error :=
  (rules.find? fun rule => !rule.accepts (valueOf node rule.name)).map fun rule =>
    breachOf (Attributed.kind node) rule (valueOf node rule.name)

/-- The report of the first of its rules that a node breaks. -/
def breach? (node : ν) : Option Error := breachOfRules? node (Attributed.rules node)

/-- Whether a node has the attributes that its rules name. -/
def Knows (node : ν) (rules : List Rule) : Prop :=
  ∀ rule ∈ rules, ∃ setting, Attributed.read node rule.name = .ok setting

variable {node : ν} {rules : List Rule}

/-- An attribute that a node does not have is reported under the kind of the node. -/
def Refuses (node : ν) : Prop :=
  ∀ name error, Attributed.read node name = .error error →
    error = .unknownAttribute (Attributed.kind node) name

/-- What is wrong with a node by one rule: the attribute cannot be read, or its value is refused. -/
def fault? (node : ν) (rule : Rule) : Option Error :=
  match Attributed.read node rule.name with
  | .error error => some error
  | .ok setting =>
      if rule.accepts setting then none else some (breachOf (Attributed.kind node) rule setting)

/-- The check of a node ends with the first rule by which something is wrong with it. -/
theorem checkRules_outcome (node : ν) (rules : List Rule) :
    (checkRules node rules).outcome = unlessFound (rules.findSome? (fault? node)) (.ok ()) := by
  induction rules with
  | nil => rfl
  | cons rule rest ih =>
      rw [checkRules, List.findSome?_cons, fault?]
      cases reads : Attributed.read node rule.name with
      | error error => exact Run.outcome_bind_of_error (Run.outcome_ofExcept _) _
      | ok setting =>
          rw [Run.outcome_bind_of_ok (Run.outcome_ofExcept _)]
          cases accepted : rule.accepts setting with
          | true => simpa [accepted] using ih
          | false => simp [accepted]

/-- With a node that has the attributes, nothing but a broken rule can be wrong. -/
theorem findSome?_fault? (knows : Knows node rules) :
    rules.findSome? (fault? node) = breachOfRules? node rules := by
  induction rules with
  | nil => rfl
  | cons rule rest ih =>
      obtain ⟨setting, reads⟩ := knows rule (List.mem_cons_self ..)
      have later := ih fun next member => knows next (List.mem_cons_of_mem _ member)
      have value : valueOf node rule.name = setting := by rw [valueOf, reads]
      rw [List.findSome?_cons, fault?, reads, breachOfRules?, List.find?_cons, value]
      cases accepted : rule.accepts setting with
      | true => simpa [accepted, breachOfRules?] using later
      | false => simp [accepted, value]

/-- A node keeps rules when its values are accepted by all of them. -/
def Keeps (node : ν) (rules : List Rule) : Prop :=
  ∀ rule ∈ rules, rule.accepts (valueOf node rule.name) = true

/-- A node without a broken rule keeps its rules. -/
theorem keeps_of_breach?_eq_none (unbroken : breach? node = none) :
    Keeps node (Attributed.rules node) := by
  intro rule member
  have kept := List.find?_eq_none.mp (Option.map_eq_none_iff.mp unbroken) rule member
  simpa using kept

/-- Rules that a node keeps are passed over. -/
theorem breachOfRules?_append_of_keeps (keeps : Keeps node rules) (rest : List Rule) :
    breachOfRules? node (rules ++ rest) = breachOfRules? node rest := by
  have none : rules.find? (fun rule => !rule.accepts (valueOf node rule.name)) = none :=
    List.find?_eq_none.mpr fun rule member => by simp [keeps rule member]
  rw [breachOfRules?, List.find?_append, none]
  rfl

/-- The first rule that refuses its value is the one reported. -/
theorem breachOfRules?_cons_of_refused {rule : Rule}
    (refused : rule.accepts (valueOf node rule.name) = false) (rest : List Rule) :
    breachOfRules? node (rule :: rest) =
      some (breachOf (Attributed.kind node) rule (valueOf node rule.name)) := by
  have found : (rule :: rest).find? (fun rule => !rule.accepts (valueOf node rule.name)) =
      some rule := by
    simp [refused]
  rw [breachOfRules?, found]
  rfl

variable {pattern : Pattern} {setting : Option String}

/-- A node that keeps its rules has the texts that it must have, and they fit. -/
theorem Keeps.exists_accepted (keeps : Keeps node rules) (name : String)
    (listed : .mandatory name pattern ∈ rules)
    (reads : Attributed.read node name = .ok (setting.map .text)) :
    ∃ text, setting = some text ∧ pattern.accepts text = true := by
  have accepted := keeps _ listed
  have value : valueOf node (Rule.mandatory name pattern).name = setting.map .text := by
    rw [valueOf, Rule.mandatory, reads]
  rw [value] at accepted
  cases setting with
  | none => cases accepted
  | some text => exact ⟨text, rfl, accepted⟩

/-- A node that keeps its rules has texts that fit where it has any. -/
theorem Keeps.accepts_of_optional {text : String} (keeps : Keeps node rules) (name : String)
    (listed : .optional name pattern ∈ rules)
    (reads : Attributed.read node name = .ok (setting.map .text)) (given : setting = some text) :
    pattern.accepts text = true := by
  have accepted := keeps _ listed
  have value : valueOf node (Rule.optional name pattern).name = setting.map .text := by
    rw [valueOf, Rule.optional, reads]
  rw [value, given] at accepted
  exact accepted

/-- A broken rule is reported as an error of validation. -/
theorem isValidation_of_breach?_eq_some {error : Error} (broken : breach? node = some error) :
    ∃ breach, error = .validation breach := by
  obtain ⟨rule, -, rfl⟩ := Option.map_eq_some_iff.mp broken
  exact ⟨_, rfl⟩

end Rules

/-- A node type with a table has the attributes that its rules name when the table lists them. -/
theorem FollowsTable.knows {κ : Type} [Attributed κ] {kind : String} {table : List (Attribute κ)}
    {rules : List Rule} (follows : FollowsTable κ kind table)
    (listed : ∀ rule ∈ rules, rule.name ∈ table.map Attribute.name) (node : κ) :
    Knows node rules := by
  intro rule member
  rw [follows.read_eq]
  exact Attribute.exists_read_of_mem (listed rule member) kind node

/-- A node type with a table refuses only names that it does not know. -/
theorem FollowsTable.refuses {κ : Type} [Attributed κ] {kind : String} {table : List (Attribute κ)}
    (follows : FollowsTable κ kind table) {node : κ} {name : String} {error : Error}
    (failed : Attributed.read node name = .error error) : error = .unknownAttribute kind name :=
  Attribute.eq_of_read_eq_error ((follows.read_eq node name).symm.trans failed)

private theorem Deployment.knows (node : Deployment) : Knows node rules := by
  have listed : ∀ rule ∈ rules, rule.name ∈ attributes.map Attribute.name := by
    simp [rules, attributes, Rule.mandatory, Rule.optional, Attribute.text]
  exact followsTable.knows listed node

private theorem Relation.knows (node : Relation) : Knows node rules := by
  have listed : ∀ rule ∈ rules, rule.name ∈ attributes.map Attribute.name := by
    simp [rules, attributes, Rule.mandatory, Rule.optional, Rule.flag, Attribute.text,
      Attribute.any]
  exact followsTable.knows listed node

private theorem Column.knows (node : Column) : Knows node rules := by
  have listed : ∀ rule ∈ rules, rule.name ∈ attributes.map Attribute.name := by
    simp [rules, attributes, Rule.mandatory, Rule.optional, Rule.flag, Attribute.text,
      Attribute.any]
  exact followsTable.knows listed node

namespace Element

/-- Every element is validated by its rules; a probe takes a note before. -/
theorem validate_outcome_eq_checkRules (element : Element) :
    (Node.validate element).outcome =
      (checkRules element (Attributed.rules element)).outcome := by
  cases element with
  | probe node =>
      have noted : (node.note "validate").outcome = .ok () := by
        unfold Probe.note
        cases node.label <;> rfl
      calc (Node.validate (probe node)).outcome
          = (checkRules node node.rules).outcome := Run.outcome_bind_of_ok noted _
        _ = unlessFound (node.rules.findSome? (fault? node)) (.ok ()) := checkRules_outcome _ _
        _ = (checkRules (probe node) node.rules).outcome :=
            (checkRules_outcome (probe node) node.rules).symm
  | _ => rfl

/-- An element other than a probe fails with the report of the first rule that it breaks. -/
theorem validate_outcome {element : Element} (described : ∀ probe, element ≠ .probe probe) :
    (Node.validate element).outcome = unlessFound (breach? element) (.ok ()) := by
  have knows : Knows element (Attributed.rules element) := by
    cases element with
    | deployment node => exact node.knows
    | relation node => exact node.knows
    | column node => exact node.knows
    | probe node => exact absurd rfl (described node)
  rw [validate_outcome_eq_checkRules, checkRules_outcome, findSome?_fault? knows, breach?]

/-- An attribute that an element does not have is reported under the kind of the element. -/
theorem refuses (element : Element) : Refuses element := by
  intro name error failed
  cases element with
  | deployment node => exact Deployment.followsTable.refuses failed
  | relation node => exact Relation.followsTable.refuses failed
  | column node => exact Column.followsTable.refuses failed
  | probe node =>
      change node.read name = .error error at failed
      unfold Probe.read at failed
      split at failed
      · cases failed
      · split at failed
        · exact (Except.error.inj failed).symm
        · cases failed

end Element

namespace Forest

variable {ν : Type} [Node ν]

/-- Validating a forest ends with the first node that breaks a rule. -/
theorem validated_outcome {forest : Forest ν}
    (checked : ∀ node ∈ forest.nodes,
      (Node.validate node).outcome = unlessFound (breach? node) (.ok ())) :
    forest.validated.outcome = unlessFound (forest.nodes.findSome? breach?) (.ok ()) := by
  induction forest with
  | empty => rfl
  | branch id node below rest ihBelow ihRest =>
      have own := checked node (by simp [nodes])
      have lower := ihBelow fun other member => checked other (by simp [nodes, member])
      have later := ihRest fun other member => checked other (by simp [nodes, member])
      have order : (node :: (below.nodes ++ rest.nodes)).findSome? breach? =
          (breach? node).or ((below.nodes.findSome? breach?).or
            (rest.nodes.findSome? breach?)) := by
        rw [List.findSome?_cons, List.findSome?_append]
        cases breach? node <;> rfl
      rw [validated, Run.outcome_emit_bind, Run.outcome_bind_of_unlessFound own,
        Run.outcome_bind_of_unlessFound lower, later, nodes, order, unlessFound_or,
        unlessFound_or]

end Forest

end DeployTree
