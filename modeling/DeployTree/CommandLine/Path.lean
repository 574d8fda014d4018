import DeployTree.Text.Split

/-! # Paths

A path is a text of steps between slashes. It starts at the top folder, or at the
working folder, which may be written as a dot. The parent of a path is the path
without its last step; empty steps and dots before and after that step are no steps
of their own and go with it.
-/

namespace DeployTree.CommandLine

/-- Where a path starts: at the working folder, which may be written as a dot, or at the top
folder. -/
inductive Start where
  | relative
  | dot
  | top
deriving DecidableEq

/-- The text between two slashes. -/
abbrev PathStep := List Char

/-- A path by its start and its steps, the last one first. -/
structure Path where
  start : Start
  steps : List PathStep
deriving DecidableEq

namespace Path

/-- The path of a text. -/
def ofText (text : String) : Path :=
  match text.toList with
  | ['.'] => ⟨.dot, []⟩
  | '.' :: '/' :: rest => ⟨.dot, (Text.split '/' rest).reverse⟩
  | '/' :: rest => ⟨.top, (Text.split '/' rest).reverse⟩
  | whole => ⟨.relative, (Text.split '/' whole).reverse⟩

/-- The text of a path. -/
def text (path : Path) : String :=
  let body := Text.join '/' path.steps.reverse
  String.ofList <|
    match path.start with
    | .relative => body
    | .top => '/' :: body
    | .dot => if path.steps.isEmpty then ['.'] else '.' :: '/' :: body

/-- Whether a step stays where it is. -/
def stays (step : PathStep) : Bool := step = [] || step = ['.']

/-- The path without its last step; none for the top folder and for the empty path. -/
def parent? (path : Path) : Option Path :=
  match path.steps.dropWhile stays with
  | _ :: before => some ⟨path.start, before.dropWhile stays⟩
  | [] =>
      match path.start with
      | .dot => some ⟨.relative, []⟩
      | .relative | .top => none

/-- Whether the text of the path is empty. -/
def isEmpty (path : Path) : Bool :=
  path.start = .relative && path.steps.all List.isEmpty

/-- The text of a path is the text it was read from. -/
theorem text_ofText (text : String) : (ofText text).text = text := by
  suffices chars : (ofText text).text.toList = text.toList by
    rw [← String.ofList_toList (s := (ofText text).text), chars, String.ofList_toList]
  unfold ofText
  split
  · rename_i same
    simp [Path.text, same]
  · rename_i rest same
    have stepped : (Text.split '/' rest).reverse.isEmpty = false := by
      simp [Text.split_ne_nil]
    simp [Path.text, same, Text.join_split, stepped]
  · rename_i rest same
    simp [Path.text, same, Text.join_split]
  · simp [Path.text, Text.join_split]

end Path

end DeployTree.CommandLine
