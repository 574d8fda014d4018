import DeployTree.Attributed

/-! # Fields of nodes as attributes

The fields of a node are its attributes. A field for a text takes a text or nothing; any other value
is of the wrong type for it. A flag holds whatever it is given. Every node type reads and writes its
fields by name; a table lists them, with how to get the value of each from a node and how to put one
in.
-/

namespace DeployTree

/-- What a field for a text takes from a setting. -/
def takenText (kind name : String) : Option Value → Except Error (Option String)
  | none => .ok none
  | some (.text content) => .ok (some content)
  | some _ => .error (.typeMismatch kind name "string")

/-- Puts what a setting gives into a field for a text. The text is taken from the setting before the
node is changed. -/
def assignText {κ : Type} (kind name : String) (setting : Option Value)
    (put : Option String → κ → κ) : ExceptT Error (StateM κ) Unit := do
  let content ← takenText kind name setting
  modify (put content)

/-- A named attribute of nodes of type `κ`: how to get its value from a node, and how to set it to a
value, unless the value is of the wrong type. -/
structure Attribute (κ : Type) where
  name : String
  get : κ → Option Value
  set : Option Value → κ → Option κ

namespace Attribute

variable {κ : Type}

/-- An attribute that holds a text. -/
def text (name : String) (get : κ → Option String) (set : Option String → κ → κ) :
    Attribute κ where
  name := name
  get := fun node => (get node).map .text
  set := fun setting node =>
    match setting with
    | none => some (set none node)
    | some (.text content) => some (set (some content) node)
    | some _ => none

/-- An attribute that holds any value. -/
def any (name : String) (get : κ → Option Value) (set : Option Value → κ → κ) :
    Attribute κ where
  name := name
  get := get
  set := fun setting node => some (set setting node)

/-- The attribute of a name in a table. -/
def find? (table : List (Attribute κ)) (name : String) : Option (Attribute κ) :=
  table.find? fun candidate => candidate.name = name

/-- Reads an attribute of a table by name. -/
def read (table : List (Attribute κ)) (kind : String) (node : κ) (name : String) :
    Except Error (Option Value) :=
  match find? table name with
  | some found => .ok (found.get node)
  | none => .error (.unknownAttribute kind name)

/-- Writes an attribute of a table by name. -/
def write (table : List (Attribute κ)) (kind : String) (node : κ) (name : String)
    (setting : Option Value) : Except Error κ :=
  match find? table name with
  | none => .error (.unknownAttribute kind name)
  | some found =>
      match found.set setting node with
      | some written => .ok written
      | none => .error (.typeMismatch kind name "string")

end Attribute

end DeployTree
