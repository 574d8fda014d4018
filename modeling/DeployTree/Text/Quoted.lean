import DeployTree.Text.GraphemeExtend
import DeployTree.Text.Ignorable
import DeployTree.Text.Printable

/-! # Quoted text in messages

A message shows an offending text between double quotes, on one line and without
invisible parts: the double quote, the backslash, tab, line feed, carriage return
and the null character have short escapes, and a character that is not printable,
that may be shown as nothing or that extends its neighbour is shown by its code
point in braces.
-/

namespace DeployTree.Text

/-- The hexadecimal digits of a number, lower case and without leading zeros. -/
def hexDigits (number : Nat) : List Char := Nat.toDigits 16 number

/-- A character as it stands inside a quoted text. -/
def quotedChar (c : Char) : List Char :=
  match c with
  | '\x00' => ['\\', '0']
  | '\t' => ['\\', 't']
  | '\n' => ['\\', 'n']
  | '\r' => ['\\', 'r']
  | '"' => ['\\', '"']
  | '\\' => ['\\', '\\']
  | _ =>
      if isGraphemeExtend c || isIgnorable c || !isPrintable c then
        ['\\', 'u', '\x7b'] ++ hexDigits c.toNat ++ ['\x7d']
      else [c]

/-- A text between double quotes, escaped for a message. -/
def quoted (text : String) : String :=
  String.ofList ('"' :: (text.toList.flatMap quotedChar ++ ['"']))

end DeployTree.Text
