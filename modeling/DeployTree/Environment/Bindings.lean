import DeployTree.Dictionary
import DeployTree.Text.Encoded

/-! # Where variables are bound

A source of variables answers the value of a name. Three kinds are known: explicit
bindings, the environment block of the process, and explicit bindings in front of
another source. The block holds entries `NAME=VALUE` in bytes; a value that is not
a text in UTF-8 reads as unbound.
-/

namespace DeployTree

/-- A source of variables: the value bound to a name. -/
abbrev Lookup := String → Option String

/-- Explicit bindings of variables. -/
abbrev Bindings := Dictionary String

namespace Bindings

/-- The source that knows only the bindings. -/
def lookup (bindings : Bindings) : Lookup := bindings.find?

/-- The source that asks the bindings first and then another source. -/
def shadowing (bindings : Bindings) (base : Lookup) : Lookup := fun name =>
  match bindings.find? name with
  | some value => some value
  | none => base name

end Bindings

/-- The bytes of the entries `NAME=VALUE` of a process, in order. -/
structure EnvironmentBlock where
  entries : List (List UInt8)

namespace EnvironmentBlock

/-- The byte between the name and the value of an entry. -/
def separator : UInt8 := 61

/-- The bytes after a given front, if they start with it. -/
def after? : List UInt8 → List UInt8 → Option (List UInt8)
  | [], bytes => some bytes
  | _ :: _, [] => none
  | own :: front, byte :: bytes => if own = byte then after? front bytes else none

/-- The block with a variable set; an entry of the same name gives way. -/
def set (block : EnvironmentBlock) (name value : List UInt8) : EnvironmentBlock :=
  let front := name ++ [separator]
  ⟨block.entries.filter (fun entry => (after? front entry).isNone) ++ [front ++ value]⟩

/-- The block that a list of variables describes; a later one of the same name counts. -/
def ofPairs (pairs : List (List UInt8 × List UInt8)) : EnvironmentBlock :=
  pairs.foldl (fun block pair => block.set pair.1 pair.2) ⟨[]⟩

/-- The bytes of the value of a variable. The empty name and names with a null byte, which
no entry can carry, are unbound. -/
def bytes? (block : EnvironmentBlock) (name : String) : Option (List UInt8) :=
  if name.isEmpty || name.toList.any (· = '\x00') then none
  else block.entries.findSome? (after? (Text.encode name ++ [separator]))

/-- The source that reads the block. -/
def lookup (block : EnvironmentBlock) : Lookup := fun name => (block.bytes? name).bind Text.decode?

/-- The name and the value of an entry; a separator at the very start belongs to the name. -/
def split (entry : List UInt8) : List UInt8 × List UInt8 :=
  match entry with
  | [] => ([], [])
  | byte :: rest =>
      (byte :: rest.takeWhile (· ≠ separator), (rest.dropWhile (· ≠ separator)).drop 1)

/-- The variables of the block whose name and value are texts. -/
def bindings (block : EnvironmentBlock) : Bindings :=
  Dictionary.ofList <| block.entries.filterMap fun entry => do
    let (name, value) := split entry
    pure (← Text.decode? name, ← Text.decode? value)

end EnvironmentBlock

end DeployTree
