import DeployTree.Json.Printer
import DeployTree.Value

/-! # Attribute values in documents

In a document an attribute value is a string, a truth value, a whole number of 64
bits or an array of attribute values; `null`, objects and other numbers are no
attribute values. A value is put into a document in two ways: it has a JSON form,
which is printed with what stands around it, and it can be written out by itself,
item by item, with no such form in between. A flag that is written as a text shows
up in the output as the truth value that the text names.
-/

namespace DeployTree.Value

mutual

/-- The JSON form of a value. -/
def toJson : Value → Json
  | .text content => .string content
  | .flag state => .bool state
  | .integer number => .ofInt number.toInt
  | .list items => .array (itemsToJson items)

/-- The JSON forms of values. -/
def itemsToJson : List Value → List Json
  | [] => []
  | item :: rest => item.toJson :: itemsToJson rest

end

mutual

/-- The characters of a value as it is written out: a list item by item in brackets. -/
def writtenChars : Value → List Char
  | .text content => Json.stringChars content
  | .flag state => Json.boolChars state
  | .integer number => Json.integerChars number.toInt
  | .list items => '[' :: (writtenItems true items ++ [']'])

/-- The characters of items as they are written out, with a comma before each but the first one. -/
def writtenItems (first : Bool) : List Value → List Char
  | [] => []
  | item :: rest =>
      (if first then [] else [',']) ++ (item.writtenChars ++ writtenItems false rest)

end

/-- The text of a value as it is written out. -/
def written (value : Value) : String := String.ofList value.writtenChars

mutual

/-- The value of a JSON form, if it is one. -/
def ofJson? : Json → Option Value
  | .null => none
  | .bool state => some (.flag state)
  | .number (.integer number) =>
      if Int64.minValue.toInt ≤ number ∧ number ≤ Int64.maxValue.toInt then
        some (.integer (Int64.ofInt number))
      else none
  | .number (.real _) => none
  | .string content => some (.text content)
  | .array items => (itemsOfJson? items).map .list
  | .object _ => none

/-- The values of JSON forms, if all of them are values. -/
def itemsOfJson? : List Json → Option (List Value)
  | [] => some []
  | item :: rest =>
      match ofJson? item, itemsOfJson? rest with
      | some first, some others => some (first :: others)
      | _, _ => none

end

/-- The JSON form of a setting, `null` when it is unset. -/
def settingJson : Option Value → Json
  | none => .null
  | some value => value.toJson

/-- The truth value that a text names, in either case of the basic letters. -/
def truthOf? (text : List Char) : Option Bool :=
  let small := text.map Char.toLower
  if small = ['t'] ∨ small = ['t', 'r', 'u', 'e'] then some true
  else if small = ['f'] ∨ small = ['f', 'a', 'l', 's', 'e'] then some false
  else none

/-- The JSON form of a flag, which may be given as a text; `null` when it names no truth
value. -/
def flagJson : Option Value → Json
  | none => .null
  | some (.flag state) => .bool state
  | some value =>
      match truthOf? value.chars with
      | some state => .bool state
      | none => .null

end DeployTree.Value
