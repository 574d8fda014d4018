import DeployTree.Json.Cursor

/-! # Readers

A reader takes a value from the front of a text. It stops with a failure whose
place is known, or with a cause whose place is still open: such a cause is raised
by a record that does not fit, and it is placed at the end of the construct around
it, which the reader tries to close first.
-/

namespace DeployTree.Json

/-- How a reader stops early: with a failure at a known place, or with a cause that the construct
around it will place. -/
inductive Stop where
  | placed (cause : Cause) (position : Position)
  | pending (cause : Cause) (cursor : Cursor)
deriving DecidableEq

/-- A reader of values of type `α`. -/
abbrev Reader (α : Type) := StateT Cursor (Except Stop) α

namespace Reader

variable {α : Type}

/-- Stops at the place reached. -/
def failHere (cause : Cause) : Reader α := fun cursor =>
  .error (.placed cause cursor.position)

/-- Stops after the byte looked at. -/
def failNext (cause : Cause) : Reader α := fun cursor =>
  .error (.placed cause cursor.lookedAt)

/-- Stops with a cause that is not yet placed. -/
def failOpen (cause : Cause) : Reader α := fun cursor =>
  .error (.pending cause cursor)

/-- The next character, left in place. -/
def peek : Reader (Option Char) := fun cursor => .ok (cursor.rest.head?, cursor)

/-- Reads the next character. -/
def advance : Reader Unit := fun cursor => .ok ((), cursor.next)

/-- Reads blanks. -/
def skipBlanks : Reader Unit := fun cursor => .ok ((), cursor.skipBlanks)

/-- The next character after blanks, left in place. -/
def peekPastBlanks : Reader (Option Char) := do
  skipBlanks
  peek

/-- The number of characters left, a bound for the steps of any loop that reads. -/
def remaining : Reader Nat := fun cursor => .ok (cursor.rest.length, cursor)

/-- Reads the given letters, the rest of a word. -/
def letters : List Char → Reader Unit
  | [] => pure ()
  | expected :: rest => do
      match ← peek with
      | none => failHere .endInValue
      | some c =>
          if c = expected then
            advance
            letters rest
          else failNext .wordExpected

/-- Runs `body` between brackets already opened, then `close`. An open cause of the body is
placed where `close` leaves off. -/
def enclosed (close : Cursor → Except Stop Unit × Cursor) (body : Reader α) : Reader α :=
  fun cursor =>
    match body cursor with
    | .ok (value, after) =>
        match close after with
        | (.ok _, last) => .ok (value, last)
        | (.error stop, _) => .error stop
    | .error (.placed cause position) => .error (.placed cause position)
    | .error (.pending cause after) => .error (.placed cause (close after).2.position)

/-- Closes an array: a bracket is read, a comma is read but refused, all else is refused. -/
def closeList (cursor : Cursor) : Except Stop Unit × Cursor :=
  let here := cursor.skipBlanks
  match here.rest with
  | [] => (.error (.placed .endInList here.position), here)
  | ']' :: _ => (.ok (), here.next)
  | ',' :: _ =>
      let past := here.next.skipBlanks
      match past.rest with
      | ']' :: _ => (.error (.placed .trailingComma past.lookedAt), past)
      | _ => (.error (.placed .trailingCharacters past.lookedAt), past)
  | _ => (.error (.placed .trailingCharacters here.lookedAt), here)

/-- Closes an object: a brace is read, all else is refused. -/
def closeObject (cursor : Cursor) : Except Stop Unit × Cursor :=
  let here := cursor.skipBlanks
  match here.rest with
  | [] => (.error (.placed .endInObject here.position), here)
  | '\x7d' :: _ => (.ok (), here.next)
  | ',' :: _ => (.error (.placed .trailingComma here.lookedAt), here)
  | _ => (.error (.placed .trailingCharacters here.lookedAt), here)

/-- Whether an array has a next item, leaving the cursor at the item or at the bracket. -/
def nextItem (first : Bool) : Reader Bool := do
  match ← peekPastBlanks with
  | none => failHere .endInList
  | some ']' => pure false
  | some c =>
      if first then pure true
      else if c = ',' then
        advance
        match ← peekPastBlanks with
        | none => failHere .endInValue
        | some ']' => failNext .trailingComma
        | some _ => pure true
      else failNext .listEndExpected

/-- Whether an object has a next member, leaving the cursor at the key's quote or at the brace. -/
def nextKey (first : Bool) : Reader Bool := do
  match ← peekPastBlanks with
  | none => failHere .endInObject
  | some '\x7d' => pure false
  | some c =>
      if first then
        if c = '"' then pure true else failNext .keyExpected
      else if c = ',' then
        advance
        match ← peekPastBlanks with
        | none => failHere .endInValue
        | some '"' => pure true
        | some '\x7d' => failNext .trailingComma
        | some _ => failNext .keyExpected
      else failNext .objectEndExpected

/-- Reads the colon between a key and its value. -/
def colon : Reader Unit := do
  match ← peekPastBlanks with
  | none => failHere .endInObject
  | some ':' => advance
  | some _ => failNext .colonExpected

/-- The items of an array, at most as many as there are steps. -/
def itemsWithin (item : Reader α) : Nat → Bool → Reader (List α)
  | 0, _ => failHere .endInList
  | steps + 1, first => do
      if ← nextItem first then
        let value ← item
        let rest ← itemsWithin item steps false
        pure (value :: rest)
      else pure []

/-- The items of an array whose opening bracket has been read. -/
def items (item : Reader α) : Reader (List α) := do
  itemsWithin item ((← remaining) + 1) true

/-- The whole text of a value: nothing but blanks may follow. -/
def toEnd (reader : Reader α) : Reader α := do
  let value ← reader
  match ← peekPastBlanks with
  | none => pure value
  | some _ => failNext .trailingCharacters

/-- Reads a text to its end. A cause that no construct placed has no place. -/
def run (reader : Reader α) (text : String) : Except Failure α :=
  match toEnd reader (Cursor.start text.toList) with
  | .ok (value, _) => .ok value
  | .error (.placed cause position) => .error ⟨cause, some position⟩
  | .error (.pending cause _) => .error ⟨cause, none⟩

end Reader

end DeployTree.Json
