import DeployTree.CommandLine.Path

/-! # Operations of the system

The program needs four operations on files: to read one, to write one, to make a
folder and to ask whether a path leads to a folder. It needs one more to print on the
standard output. They are classes, so that the program can run on the files of the
system as well as on a map of files. What makes an operation on files fail is reported
with the wording and the number that the system has for it. Making a folder together
with those above it is built from the four.
-/

namespace DeployTree.CommandLine

/-- Why an operation on files fails: nothing or already something is at the path, a folder is needed
where a file is, or a file where a folder is, or the content is no text. Other faults are in the
words of the system. -/
inductive FileFault where
  | missing
  | exists
  | notFolder
  | isFolder
  | notText
  | described (reason : String)
deriving DecidableEq

/-- The wording of a fault. -/
def FileFault.text : FileFault → String
  | .missing => "No such file or directory (os error 2)"
  | .exists => "File exists (os error 17)"
  | .notFolder => "Not a directory (os error 20)"
  | .isFolder => "Is a directory (os error 21)"
  | .notText => "stream did not contain valid UTF-8"
  | .described reason => reason

/-- A place to keep files. Writing makes a file that is missing but not its folder, and a folder is
made in a folder that is there. -/
class FileStore (m : Type → Type) where
  read : Path → m (Except FileFault (List UInt8))
  write : Path → List UInt8 → m (Except FileFault Unit)
  makeFolder : Path → m (Except FileFault Unit)
  isFolder : Path → m Bool

/-- A standard output, on which texts are printed. -/
class Console (m : Type → Type) where
  print : String → m Unit

section Folders

variable {m : Type → Type} [Monad m] [FileStore m]

/-- Makes a folder unless it is there. -/
def ensureFolder (path : Path) : m (Except FileFault Unit) := do
  match ← FileStore.makeFolder path with
  | .ok () => pure (.ok ())
  | .error fault => if ← FileStore.isFolder path then pure (.ok ()) else pure (.error fault)

/-- Makes the folder that some steps, the last one first, lead to. The folders above it are
made only when it cannot be made without them. -/
def ensureFolders (start : Start) : List PathStep → m (Except FileFault Unit)
  | [] => if start = .relative then pure (.ok ()) else ensureFolder ⟨start, []⟩
  | step :: before => do
      if Path.stays step then ensureFolders start before
      else
        match ← ensureFolder ⟨start, step :: before⟩ with
        | .error .missing =>
            match ← ensureFolders start before with
            | .error fault => pure (.error fault)
            | .ok () => ensureFolder ⟨start, step :: before⟩
        | outcome => pure outcome

end Folders

end DeployTree.CommandLine
