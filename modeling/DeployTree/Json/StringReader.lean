import DeployTree.Json.Reader

/-! # Strings in a document

A string holds characters as they are and escapes. A code point beyond the basic
plane is escaped as a pair of surrogates, and half of a pair is refused, so that
every string that is read is a text.
-/

namespace DeployTree.Json.Reader

/-- The value of a hexadecimal digit of either case. -/
def hexValue (c : Char) : Option Nat :=
  if c.isDigit then some (c.toNat - '0'.toNat)
  else if 'a' ≤ c ∧ c ≤ 'f' then some (c.toNat - 'a'.toNat + 10)
  else if 'A' ≤ c ∧ c ≤ 'F' then some (c.toNat - 'A'.toNat + 10)
  else none

/-- The unit that four hexadecimal digits spell. -/
def hexUnit (first second third fourth : Char) : Option Nat := do
  let a ← hexValue first
  let b ← hexValue second
  let c ← hexValue third
  let d ← hexValue fourth
  pure (((a * 16 + b) * 16 + c) * 16 + d)

/-- Reads the four digits of an escaped unit. Four bytes are taken in any case; where there
are fewer, the text ends inside the string. -/
def escapedUnit : Reader Nat := fun cursor =>
  let refused : Except Stop (Nat × Cursor) :=
    match cursor.position.afterBytes 4 cursor.rest with
    | some place => .error (.placed .invalidEscape place)
    | none => .error (.placed .endInString cursor.finish)
  match cursor.rest with
  | a :: b :: c :: d :: _ =>
      match hexUnit a b c d with
      | some unit => .ok (unit, cursor.next.next.next.next)
      | none => refused
  | _ => refused

/-- Whether a unit is the first half of a surrogate pair. -/
def isLeadingSurrogate (unit : Nat) : Bool := 0xD800 ≤ unit && unit ≤ 0xDBFF

/-- Whether a unit is the second half of a surrogate pair. -/
def isTrailingSurrogate (unit : Nat) : Bool := 0xDC00 ≤ unit && unit ≤ 0xDFFF

/-- Reads a character that must stand next inside a string. -/
def demand (expected : Char) (cause : Cause) : Reader Unit := do
  match ← peek with
  | none => failHere .endInString
  | some c => if c = expected then advance else failNext cause

/-- Reads what follows the letter of a code point escape. -/
def escapedCodePoint : Reader Char := do
  let unit ← escapedUnit
  if isTrailingSurrogate unit then failHere .loneSurrogate
  else if isLeadingSurrogate unit then
    demand '\\' .secondSurrogateExpected
    demand 'u' .secondSurrogateExpected
    let second ← escapedUnit
    if isTrailingSurrogate second then
      pure (Char.ofNat ((unit - 0xD800) * 0x400 + (second - 0xDC00) + 0x10000))
    else failHere .loneSurrogate
  else pure (Char.ofNat unit)

/-- Reads what follows a backslash. -/
def escaped : Reader Char := do
  match ← peek with
  | none => failHere .endInString
  | some '"' => advance; pure '"'
  | some '\\' => advance; pure '\\'
  | some '/' => advance; pure '/'
  | some 'b' => advance; pure '\x08'
  | some 'f' => advance; pure '\x0c'
  | some 'n' => advance; pure '\n'
  | some 'r' => advance; pure '\r'
  | some 't' => advance; pure '\t'
  | some 'u' => advance; escapedCodePoint
  | some _ => failNext .invalidEscape

/-- Reads one character of a string, or its closing quote. -/
def stringStep : Reader (Option Char) := do
  match ← peek with
  | none => failHere .endInString
  | some '"' =>
      advance
      pure none
  | some '\\' =>
      advance
      some <$> escaped
  | some c =>
      if c.toNat < 32 then failNext .controlCharacter
      else
        advance
        pure (some c)

/-- The characters of a string up to its closing quote, at most as many as there are steps;
those already read come last first. -/
def stringWithin : Nat → List Char → Reader (List Char)
  | 0, _ => failHere .endInString
  | steps + 1, done => do
      match ← stringStep with
      | none => pure done.reverse
      | some c => stringWithin steps (c :: done)

/-- The content of a string whose opening quote has been read. -/
def stringBody : Reader String := do
  String.ofList <$> stringWithin ((← remaining) + 1) []

end DeployTree.Json.Reader
