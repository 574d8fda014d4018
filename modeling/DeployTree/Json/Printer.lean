import DeployTree.Json

/-! # JSON text

A value is written compactly, without blanks, or over several lines with an
indentation of two blanks a level. In a string the double quote, the backslash and
the characters below code point 32 are escaped and all others stand as they are.
Both layouts write members in the order in which the value lists them.
-/

namespace DeployTree.Json

/-- A hexadecimal digit, lower case. -/
def hexDigit (value : Nat) : Char := Nat.digitChar value

/-- A character as it stands inside a string. -/
def stringChar (c : Char) : List Char :=
  match c with
  | '"' => ['\\', '"']
  | '\\' => ['\\', '\\']
  | '\x08' => ['\\', 'b']
  | '\t' => ['\\', 't']
  | '\n' => ['\\', 'n']
  | '\x0c' => ['\\', 'f']
  | '\r' => ['\\', 'r']
  | _ =>
      if c.toNat < 32 then
        ['\\', 'u', '0', '0', hexDigit (c.toNat / 16), hexDigit (c.toNat % 16)]
      else [c]

/-- A string between double quotes. -/
def stringChars (content : String) : List Char :=
  '"' :: (content.toList.flatMap stringChar ++ ['"'])

/-- A whole number in base ten. -/
def integerChars : Int → List Char
  | .ofNat value => Nat.toDigits 10 value
  | .negSucc value => '-' :: Nat.toDigits 10 (value + 1)

/-- A number. Only whole numbers are ever written; a binary number is written as `null`. -/
def numberChars : Number → List Char
  | .integer value => integerChars value
  | .real _ => ['n', 'u', 'l', 'l']

/-- A truth value. -/
def boolChars : Bool → List Char
  | true => ['t', 'r', 'u', 'e']
  | false => ['f', 'a', 'l', 's', 'e']

mutual

/-- The compact text of a value. -/
def chars : Json → List Char
  | .null => ['n', 'u', 'l', 'l']
  | .bool state => boolChars state
  | .number value => numberChars value
  | .string content => stringChars content
  | .array items => '[' :: (itemChars items ++ [']'])
  | .object members => '\x7b' :: (memberChars members ++ ['\x7d'])

/-- The compact texts of the items of an array, separated by commas. -/
def itemChars : List Json → List Char
  | [] => []
  | [item] => item.chars
  | item :: next :: rest => item.chars ++ ',' :: itemChars (next :: rest)

/-- The compact texts of the members of an object, separated by commas. -/
def memberChars : List (String × Json) → List Char
  | [] => []
  | [(name, value)] => stringChars name ++ ':' :: value.chars
  | (name, value) :: next :: rest =>
      stringChars name ++ ':' :: (value.chars ++ ',' :: memberChars (next :: rest))

end

/-- The compact text of a value. -/
def compact (value : Json) : String := String.ofList value.chars

/-- A new line at a level of nesting. -/
def newLine (level : Nat) : List Char := '\n' :: List.replicate (2 * level) ' '

mutual

/-- The text of a value over several lines, with its opening at the given level. -/
def indentedChars (level : Nat) : Json → List Char
  | .null => ['n', 'u', 'l', 'l']
  | .bool state => boolChars state
  | .number value => numberChars value
  | .string content => stringChars content
  | .array [] => ['[', ']']
  | .array (item :: rest) =>
      '[' :: (indentedItems (level + 1) (item :: rest) ++ newLine level ++ [']'])
  | .object [] => ['\x7b', '\x7d']
  | .object (member :: rest) =>
      '\x7b' :: (indentedMembers (level + 1) (member :: rest) ++ newLine level ++ ['\x7d'])

/-- The items of an array, each on lines of its own. -/
def indentedItems (level : Nat) : List Json → List Char
  | [] => []
  | [item] => newLine level ++ indentedChars level item
  | item :: next :: rest =>
      newLine level ++ indentedChars level item ++ ',' :: indentedItems level (next :: rest)

/-- The members of an object, each on lines of its own. -/
def indentedMembers (level : Nat) : List (String × Json) → List Char
  | [] => []
  | [(name, value)] =>
      newLine level ++ stringChars name ++ ':' :: ' ' :: indentedChars level value
  | (name, value) :: next :: rest =>
      newLine level ++ stringChars name ++ ':' :: ' ' ::
        (indentedChars level value ++ ',' :: indentedMembers level (next :: rest))

end

/-- The text of a value over several lines. -/
def indented (value : Json) : String := String.ofList (indentedChars 0 value)

end DeployTree.Json
