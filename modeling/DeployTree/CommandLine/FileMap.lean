import DeployTree.CommandLine.FileStore

/-! # A map of files

Files are a map from places to contents; a place is the list of names from the top
folder, and some places hold folders. A path is followed step by step: each step
before the last must be taken in a folder, and a path that ends with a slash leads
into a folder. On this map the operations on files act as they do on a file system
without links, limits and rights; what is printed is kept beside it.
-/

namespace DeployTree.CommandLine

/-- The names that lead to a place from the top folder, the innermost first. -/
abbrev Location := List PathStep

/-- What is at a place: a file with its content, or a folder. -/
inductive Item where
  | file (content : List UInt8)
  | folder
deriving DecidableEq

/-- What is at some places, the top folder apart, and the working folder. -/
structure FileMap where
  items : List (Location × Item)
  working : Location

namespace FileMap

/-- What is at a place; the top folder is always there. -/
def item? (map : FileMap) : Location → Option Item
  | [] => some .folder
  | name :: above => map.items.lookup (name :: above)

/-- The map with something put at a place. -/
def put (map : FileMap) (location : Location) (item : Item) : FileMap :=
  { map with items := (location, item) :: map.items.filter fun entry => entry.1 ≠ location }

/-- A place is entered only where there is a folder. -/
def enter (map : FileMap) (location : Location) : Except FileFault Unit :=
  match map.item? location with
  | none => .error .missing
  | some (.file _) => .error .notFolder
  | some .folder => .ok ()

/-- Follows steps in order from a place. Every step is taken in a folder. -/
def follow (map : FileMap) : Location → List PathStep → Except FileFault Location
  | here, [] => .ok here
  | here, step :: rest => do
      map.enter here
      if Path.stays step then follow map here rest
      else if step = ['.', '.'] then follow map here.tail rest
      else follow map (step :: here) rest

/-- The place where a path starts. -/
def origin (map : FileMap) (path : Path) : Location :=
  match path.start with
  | .top => []
  | .relative | .dot => map.working

/-- The place that a path leads to. -/
def locate (map : FileMap) (path : Path) : Except FileFault Location :=
  if path.isEmpty then .error .missing
  else map.follow (map.origin path) path.steps.reverse

/-- What the last step of a path names in the folder that holds it: a name, or a folder that is
there, for a path without steps or one that ends with a dot step. -/
inductive Target where
  | named (location : Location)
  | standing
deriving DecidableEq

/-- The last step of a path, slashes at its end aside, with the folder that holds it. -/
def target (map : FileMap) (path : Path) : Except FileFault Target :=
  if path.isEmpty then .error .missing
  else
    match path.steps.dropWhile List.isEmpty with
    | [] => .ok .standing
    | last :: before => do
        let folder ← map.follow (map.origin path) before.reverse
        map.enter folder
        if last = ['.'] || last = ['.', '.'] then .ok .standing
        else .ok (.named (last :: folder))

/-- Whether a path ends with a slash. -/
def endsWithSlash (path : Path) : Bool := path.steps.head?.elim false List.isEmpty

/-- The content of a file. -/
def read (map : FileMap) (path : Path) : Except FileFault (List UInt8) := do
  match map.item? (← map.locate path) with
  | none => .error .missing
  | some .folder => .error .isFolder
  | some (.file content) => .ok content

/-- The map with a content given to a file. -/
def write (map : FileMap) (path : Path) (content : List UInt8) : Except FileFault FileMap := do
  match ← map.target path with
  | .standing => .error .isFolder
  | .named location =>
      if endsWithSlash path then .error .isFolder
      else
        match map.item? location with
        | some .folder => .error .isFolder
        | _ => .ok (map.put location (.file content))

/-- The map with a folder made. -/
def makeFolder (map : FileMap) (path : Path) : Except FileFault FileMap := do
  match ← map.target path with
  | .standing => .error .exists
  | .named location =>
      match map.item? location with
      | some _ => .error .exists
      | none => .ok (map.put location .folder)

/-- Whether a path leads to a folder. -/
def isFolder (map : FileMap) (path : Path) : Bool :=
  match map.locate path with
  | .ok location => map.item? location = some .folder
  | .error _ => false

end FileMap

/-- What the program acts on: a map of files, and what has been printed so far. -/
structure System where
  files : FileMap
  printed : String

namespace System

/-- A change of the files as a step of a computation; a failure changes nothing. -/
def change (next : FileMap → Except FileFault FileMap) : StateM System (Except FileFault Unit) :=
  fun system =>
    match next system.files with
    | .ok files => (.ok (), { system with files := files })
    | .error fault => (.error fault, system)

instance : FileStore (StateM System) where
  read path := fun system => (system.files.read path, system)
  write path content := change fun files => files.write path content
  makeFolder path := change fun files => files.makeFolder path
  isFolder path := fun system => (system.files.isFolder path, system)

instance : Console (StateM System) where
  print text := modify fun system => { system with printed := system.printed ++ text }

variable {α β : Type}

/-- What a program gives on a system, and the system that it leaves. -/
def perform (system : System) (program : StateM System α) : α × System := program.run system

/-- Of two programs in a row the second runs on the system that the first leaves. -/
theorem perform_bind (system : System) (first : StateM System α) (second : α → StateM System β) :
    system.perform (first >>= second) =
      (system.perform first).2.perform (second (system.perform first).1) := rfl

end System

end DeployTree.CommandLine
