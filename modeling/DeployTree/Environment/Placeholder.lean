import DeployTree.Text.WordChar

/-! # Placeholders in texts

A placeholder is the text `${env.NAME}` with one or more word characters for its
name. The placeholders of a text are found from left to right, and the search goes
on behind the one that was found last. Two placeholders never overlap, because a name
holds neither the character that opens a placeholder nor the one that closes it; so
none is passed over.
-/

namespace DeployTree

/-- A placeholder, given by the name of its variable. -/
structure Placeholder where
  name : List Char
deriving DecidableEq

namespace Placeholder

/-- The characters that open a placeholder. -/
def opening : List Char := ['$', '\x7b', 'e', 'n', 'v', '.']

/-- The characters of a placeholder. -/
def chars (placeholder : Placeholder) : List Char :=
  opening ++ (placeholder.name ++ ['\x7d'])

/-- The text of a placeholder. -/
def text (placeholder : Placeholder) : String := String.ofList placeholder.chars

/-- The characters after an opening. -/
def afterOpening? : List Char → Option (List Char)
  | '$' :: '\x7b' :: 'e' :: 'n' :: 'v' :: '.' :: rest => some rest
  | _ => none

/-- The name in the characters of a placeholder: what stands between its opening and its last
character. Characters that are no placeholder are their own name. -/
def nameIn (chars : List Char) : List Char :=
  match afterOpening? chars with
  | none => chars
  | some rest => if rest.getLast? = some '\x7d' then rest.dropLast else chars

/-- The name of the variable as a text. -/
def variableName (placeholder : Placeholder) : String := String.ofList (nameIn placeholder.chars)

/-- The placeholder at the front of a text. -/
def atFront? (text : List Char) : Option Placeholder :=
  match afterOpening? text with
  | none => none
  | some rest =>
      match rest.takeWhile Text.isWordChar, rest.dropWhile Text.isWordChar with
      | c :: name, '\x7d' :: _ => some ⟨c :: name⟩
      | _, _ => none

/-- The placeholders of a text from left to right, after `skipped` characters of the placeholder
that was found last. -/
def scan : Nat → List Char → List Placeholder
  | _, [] => []
  | skipped + 1, _ :: rest => scan skipped rest
  | 0, c :: rest =>
      match atFront? (c :: rest) with
      | some placeholder => placeholder :: scan (placeholder.chars.length - 1) rest
      | none => scan 0 rest

/-- A list with only the first of equal items. -/
def firsts {α : Type} [DecidableEq α] : List α → List α
  | [] => []
  | item :: rest => item :: (firsts rest).filter fun other => other ≠ item

/-- The distinct placeholders of a text, in the order of their first occurrences. -/
def inText (text : String) : List Placeholder := firsts (scan 0 text.toList)

end Placeholder

end DeployTree
