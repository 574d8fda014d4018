/-! # Attribute values

An attribute of a node holds a text, a flag, a whole number or a list of values.
Being unset is not a value: it is written with `Option Value`. A value has a name
for its kind and a text rendering, which validation matches when a rule asks for
the text form of values that are not texts.
-/

namespace DeployTree

/-- An attribute value: a text, a flag, a whole number of 64 bits with sign, or values in order. -/
inductive Value where
  | text (content : String)
  | flag (state : Bool)
  | integer (number : Int64)
  | list (items : List Value)
deriving Inhabited

namespace Value

mutual

/-- Equality of values is decided constructor by constructor. -/
def decEq : (first second : Value) → Decidable (first = second)
  | .text a, .text b => decidable_of_iff (a = b) (by simp)
  | .flag a, .flag b => decidable_of_iff (a = b) (by simp)
  | .integer a, .integer b => decidable_of_iff (a = b) (by simp)
  | .list as, .list bs =>
      match decEqItems as bs with
      | isTrue same => isTrue (by rw [same])
      | isFalse other => isFalse (by simpa using other)
  | .text _, .flag _ | .text _, .integer _ | .text _, .list _
  | .flag _, .text _ | .flag _, .integer _ | .flag _, .list _
  | .integer _, .text _ | .integer _, .flag _ | .integer _, .list _
  | .list _, .text _ | .list _, .flag _ | .list _, .integer _ => isFalse (by simp)

/-- Equality of lists of values is decided item by item. -/
def decEqItems : (first second : List Value) → Decidable (first = second)
  | [], [] => isTrue rfl
  | [], _ :: _ => isFalse (by simp)
  | _ :: _, [] => isFalse (by simp)
  | a :: as, b :: bs =>
      match decEq a b, decEqItems as bs with
      | isTrue head, isTrue tail => isTrue (by rw [head, tail])
      | isFalse other, _ => isFalse (by simp [other])
      | _, isFalse other => isFalse (by simp [other])

end

instance : DecidableEq Value := decEq

/-- The content of a text. -/
def text? : Value → Option String
  | .text content => some content
  | _ => none

/-- The state of a flag. -/
def flag? : Value → Option Bool
  | .flag state => some state
  | _ => none

/-- The name of a value's kind. -/
def kind : Value → String
  | .text _ => "string"
  | .flag _ => "boolean"
  | .integer _ => "integer"
  | .list _ => "list"

mutual

/-- The characters of a value's rendering: texts as they are, lists in brackets. -/
def chars : Value → List Char
  | .text content => content.toList
  | .flag state => if state then ['t', 'r', 'u', 'e'] else ['f', 'a', 'l', 's', 'e']
  | .integer number => (toString number.toInt).toList
  | .list items => '[' :: (itemChars items ++ [']'])

/-- The characters of values separated by a comma and a blank. -/
def itemChars : List Value → List Char
  | [] => []
  | [item] => item.chars
  | item :: next :: rest => item.chars ++ ',' :: ' ' :: itemChars (next :: rest)

end

/-- The text rendering of a value. -/
def rendered (value : Value) : String := String.ofList value.chars

/-- Whether a setting counts as given, so that nothing is inherited in its place:
it is set and it is not the empty text. -/
def isGiven : Option Value → Bool
  | none => false
  | some (.text content) => content ≠ ""
  | some _ => true

end Value

end DeployTree
