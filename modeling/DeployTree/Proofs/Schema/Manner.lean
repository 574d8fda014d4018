import DeployTree.Proofs.Tree.Passes
import DeployTree.Schema.Element

/-! # Elements see only what stands above them

In its scope an element asks for the settings of its parent and for nothing else. So a scope may be
replaced by any other with the same outlook and the same interpolator, also by one in a tree of
another kind (`DeployTree.Element.resolve_congr`, `DeployTree.Element.output_congr`). The smallest
such tree holds one node that has the settings of the outlook; in it elements act by their outlook
alone (`DeployTree.Element.manner`).
-/

namespace DeployTree

namespace Outlook

/-- The setting that is found above, unset where nothing stands above. -/
def setting (outlook : Outlook) (name : String) : Except Error (Option Value) :=
  match outlook with
  | none => .ok none
  | some above => above name

/-- A node's own value of an attribute if it is given, else the setting found above. -/
def ownOrInherited {κ : Type} [Attributed κ] (outlook : Outlook) (node : κ) (name : String) :
    Except Error (Option Value) :=
  match Attributed.read node name with
  | .error error => .error error
  | .ok own =>
      if Value.isGiven own then .ok own
      else
        match outlook with
        | none => .error (.configuration (.noParent (Attributed.kind node) name))
        | some above => above name

/-- A node that has given settings and no others. -/
structure Above where
  setting : String → Except Error (Option Value)

instance : Attributed Above where
  kind _ := "above"
  read := Above.setting
  assign name _ := throw (.unknownAttribute "above" name)

/-- The view of the one node that an outlook stands for. -/
def view (outlook : Outlook) : View Above := (Arena.ofRoot ⟨outlook.setting⟩).view

/-- The parent that an outlook stands for. -/
def parent (outlook : Outlook) : Option NodeId := outlook.map fun _ => NodeId.root

/-- A scope of resolution with a given outlook. -/
def resolveScope (outlook : Outlook) (interpolator : Interpolator) : ResolveScope Above :=
  ⟨NodeId.root, outlook.parent, outlook.view, interpolator⟩

/-- A scope of output with a given outlook. -/
def outputScope (outlook : Outlook) : OutputScope Above :=
  ⟨NodeId.root, outlook.parent, outlook.view⟩

/-- The view made of an outlook gives that outlook. -/
@[simp] theorem outlook_view (outlook : Outlook) :
    outlook.view.outlook outlook.parent = outlook := by
  cases outlook with
  | none => rfl
  | some above =>
      have found : View.entry? (Outlook.view (some above)) NodeId.root =
          some ⟨NodeId.root, none, [], ⟨above⟩⟩ := rfl
      rw [parent, Option.map_some, View.outlook_eq_beneath found]
      exact congrArg some (funext fun name => settingOf_eq_read _ rfl)

end Outlook

section Scopes

variable {ν κ : Type} [Attributed ν] [Attributed κ]

private theorem View.ownOrInherited_eq (view : View ν) (parent : Option NodeId) (node : κ)
    (name : String) :
    view.ownOrInherited parent node name = (view.outlook parent).ownOrInherited node name := by
  cases parent <;> rfl

/-- An own or inherited setting depends on the scope only through its outlook. -/
theorem ResolveScope.ownOrInherited_eq (scope : ResolveScope ν) (node : κ) (name : String) :
    scope.ownOrInherited node name =
      (scope.view.outlook scope.parent).ownOrInherited node name :=
  scope.view.ownOrInherited_eq scope.parent node name

/-- A setting of the parent depends on the scope only through its outlook. -/
theorem ResolveScope.parentSetting_eq (scope : ResolveScope ν) (name : String) :
    scope.parentSetting name = (scope.view.outlook scope.parent).setting name := by
  unfold parentSetting
  cases scope.parent <;> rfl

/-- The name of the relation of a column depends on the scope only through its outlook. -/
theorem Column.relationName_eq (scope : OutputScope ν) :
    relationName scope = (scope.view.outlook scope.parent).setting "full_relation_name" := by
  unfold relationName
  cases scope.parent <;> rfl

end Scopes

variable {ν κ : Type} [Attributed ν] [Attributed κ]

/-- What a relation inherits depends on the scope only through its outlook. -/
theorem Relation.inherit_congr {scope : ResolveScope ν} {other : ResolveScope κ}
    (same : scope.view.outlook scope.parent = other.view.outlook other.parent)
    (names : List String) (relation : Relation) :
    inherit scope names relation = inherit other names relation := by
  induction names generalizing relation with
  | nil => rfl
  | cons name rest ih =>
      simp only [inherit, ResolveScope.ownOrInherited_eq, same, ih]

private theorem Probe.inherit_congr {scope : ResolveScope ν} {other : ResolveScope κ}
    (same : scope.view.outlook scope.parent = other.view.outlook other.parent)
    (names : List String) (probe : Probe) :
    inherit scope names probe = inherit other names probe := by
  induction names generalizing probe with
  | nil => rfl
  | cons name rest ih =>
      simp only [inherit, ResolveScope.ownOrInherited_eq, same, ih]

namespace Element

/-- Resolving an element depends on the scope only through its outlook and interpolator. -/
theorem resolve_congr {scope : ResolveScope ν} {other : ResolveScope κ}
    (same : scope.view.outlook scope.parent = other.view.outlook other.parent)
    (also : scope.interpolator = other.interpolator) (element : Element) :
    element.resolve scope = element.resolve other := by
  cases element with
  | deployment node =>
      simp only [resolve, Deployment.resolve, ResolveScope.interpolated, also]
  | relation node =>
      simp only [resolve, Relation.resolve, ResolveScope.interpolated, also,
        Relation.inherit_congr same, ResolveScope.parentSetting_eq, same]
  | column node =>
      simp only [resolve, Column.resolve, ResolveScope.interpolated, also]
  | probe node =>
      simp only [resolve, Probe.resolve, ResolveScope.interpolated, also,
        Probe.inherit_congr same]

/-- The output of an element depends on the scope only through its outlook. -/
theorem output_congr {scope : OutputScope ν} {other : OutputScope κ}
    (same : scope.view.outlook scope.parent = other.view.outlook other.parent)
    (children : List ChildOutput) (element : Element) :
    element.output scope children = element.output other children := by
  cases element with
  | column node =>
      simp only [output, Column.output, Column.relationName_eq, same]
  | _ => rfl

/-- Elements act by their outlook. -/
def manner (interpolator : Interpolator) : Manner Element interpolator where
  resolve outlook element := element.resolve (outlook.resolveScope interpolator)
  output outlook children element :=
    Run.ofExcept (element.output outlook.outputScope children)
  resolve_eq _ element own := resolve_congr (Outlook.outlook_view _).symm own element
  output_eq _ children element :=
    congrArg Run.ofExcept (output_congr (Outlook.outlook_view _).symm children element)

end Element

end DeployTree
