import DeployTree.Attributed
import DeployTree.Environment.Bindings
import DeployTree.Environment.Placeholder
import DeployTree.Run

/-! # Interpolation of variables

An interpolator replaces the placeholders of a text by the values of their
variables. A variable must belong to the interpolator's namespace, which is checked
before it is looked up, and it must be bound. The distinct placeholders of the text
are replaced one after another, each everywhere in the text reached so far; hence a
value that holds a placeholder which is still to come is replaced in turn.
-/

namespace DeployTree

/-- The names that may be read: those that start with the given text. -/
structure Namespace where
  start : String
deriving DecidableEq

namespace Namespace

/-- The namespace in force unless another one is chosen. -/
def standard : Namespace := ⟨"CONVERGDB_"⟩

/-- Whether a name belongs to the namespace. -/
def permits (names : Namespace) (name : String) : Bool :=
  names.start.toList.isPrefixOf name.toList

end Namespace

/-- The names that may be read, and where variables are bound. -/
structure Interpolator where
  names : Namespace
  source : Lookup

/-- A text with every occurrence of `part` replaced, from left to right and without overlap,
after `skipped` characters that have been replaced already. -/
def replaceAll (part value : List Char) : Nat → List Char → List Char
  | _, [] => []
  | skipped + 1, _ :: rest => replaceAll part value skipped rest
  | 0, c :: rest =>
      if part.isPrefixOf (c :: rest) then
        value ++ replaceAll part value (part.length - 1) rest
      else c :: replaceAll part value 0 rest

namespace Interpolator

/-- The value of a variable. -/
def value (interpolator : Interpolator) (name : String) : Except Error String :=
  if interpolator.names.permits name then
    match interpolator.source name with
    | some value => .ok value
    | none => .error (.configuration (.unbound name))
  else .error (.configuration (.outsideNamespace name interpolator.names.start))

/-- The text reached so far with the given placeholders replaced in turn. -/
def replaceEach (interpolator : Interpolator) : List Placeholder → List Char → Run (List Char)
  | [], reached => pure reached
  | placeholder :: rest, reached => do
      let value ← Run.ofExcept (interpolator.value placeholder.variableName)
      Run.emit (.substituting placeholder.variableName)
      replaceEach interpolator rest (replaceAll placeholder.chars value.toList 0 reached)

/-- A text with the placeholders that it holds replaced. -/
def interpolate (interpolator : Interpolator) (text : String) : Run String := do
  let reached ← interpolator.replaceEach (Placeholder.inText text) text.toList
  pure (String.ofList reached)

variable {ν : Type} [Attributed ν]

/-- The node that interpolating the named attributes in order leaves, and the run that did it. The
node keeps what was written before a failure. Attributes that are unset or no texts stay. -/
def interpolateNamed (interpolator : Interpolator) : List String → ν → ν × Run Unit
  | [], node => (node, pure ())
  | name :: rest, node =>
      match Attributed.read node name with
      | .error error => (node, Run.fail error)
      | .ok (some (.text content)) =>
          let run := interpolator.interpolate content
          match run.outcome with
          | .error error => (node, ⟨run.trail, .error error⟩)
          | .ok filled =>
              match Attributed.attempt node name (some (.text filled)) with
              | (.error error, left) => (left, ⟨run.trail, .error error⟩)
              | (.ok (), written) =>
                  let (last, more) := interpolateNamed interpolator rest written
                  (last, ⟨run.trail ++ more.trail, more.outcome⟩)
      | .ok _ => interpolateNamed interpolator rest node

/-- The node with the named attributes interpolated, unless one of them fails. -/
def interpolated (interpolator : Interpolator) (names : List String) (node : ν) : Run ν :=
  let (last, run) := interpolator.interpolateNamed names node
  run.andThen fun _ => pure last

end Interpolator

end DeployTree
