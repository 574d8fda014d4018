import DeployTree.Attributed
import DeployTree.Run
import DeployTree.Text.Quoted

/-! # Checking a node against rules

The rules are checked in order, and the first one that is broken ends the check. A
broken rule is reported with the kind of the node, the attribute and its value, in
quotes or as absent. A rule for an attribute that the node does not have is an
error of its own.
-/

namespace DeployTree

/-- A setting as a message shows it. -/
def shownSetting : Option Value → String
  | none => "<absent>"
  | some value => Text.quoted value.rendered

/-- The report of a broken rule. -/
def breachOf (kind : String) (rule : Rule) (setting : Option Value) : Error :=
  .validation ⟨kind, rule.name, shownSetting setting⟩

/-- Checks a node against rules in order, up to the first that is broken. -/
def checkRules {ν : Type} [Attributed ν] (node : ν) : List Rule → Run Unit
  | [] => pure ()
  | rule :: rest => do
      let setting ← Run.ofExcept (Attributed.read node rule.name)
      if rule.accepts setting then checkRules node rest
      else
        Run.emit (.attributeRefused (Attributed.kind node) rule.name)
        Run.fail (breachOf (Attributed.kind node) rule setting)

end DeployTree
