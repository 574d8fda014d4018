import DeployTree.Json.Failure

/-! # The place of a reader in its text

A cursor is the rest of the text together with the place reached. Places are
counted in bytes, so a character advances the column by the size of its encoding.
Two places matter for a failure: the place reached, and the place after the first
byte of the next character, which is where a reader has looked.
-/

namespace DeployTree.Json

/-- The place after a character. -/
def Position.afterChar (place : Position) (c : Char) : Position :=
  if c = '\n' then ⟨place.line + 1, 0⟩ else ⟨place.line, place.column + c.utf8Size⟩

/-- The place after the first byte of a character. -/
def Position.afterByte (place : Position) (c : Char) : Position :=
  if c = '\n' then ⟨place.line + 1, 0⟩ else ⟨place.line, place.column + 1⟩

/-- The place after some bytes of a text, if it has that many. -/
def Position.afterBytes (place : Position) : Nat → List Char → Option Position
  | 0, _ => some place
  | _ + 1, [] => none
  | count + 1, c :: rest =>
      if c.utf8Size ≤ count + 1 then
        (place.afterChar c).afterBytes (count + 1 - c.utf8Size) rest
      else some ⟨place.line, place.column + (count + 1)⟩

/-- The characters of a text that are not yet read, and the place reached. -/
structure Cursor where
  rest : List Char
  position : Position
deriving DecidableEq

namespace Cursor

/-- The cursor at the start of a text. -/
def start (text : List Char) : Cursor := ⟨text, ⟨1, 0⟩⟩

/-- The cursor after the next character. -/
def next (cursor : Cursor) : Cursor :=
  match cursor.rest with
  | [] => cursor
  | c :: rest => ⟨rest, cursor.position.afterChar c⟩

/-- The place after the first byte of the next character, or the end of the text. -/
def lookedAt (cursor : Cursor) : Position :=
  match cursor.rest with
  | [] => cursor.position
  | c :: _ => cursor.position.afterByte c

/-- The place at the end of the text. -/
def finish (cursor : Cursor) : Position := cursor.rest.foldl Position.afterChar cursor.position

/-- The blanks that may stand between the parts of a value. -/
def isBlank (c : Char) : Bool := c = ' ' || c = '\n' || c = '\t' || c = '\r'

/-- The cursor after the characters of a list that satisfy a test. -/
def skip (test : Char → Bool) : List Char → Position → Cursor
  | [], place => ⟨[], place⟩
  | c :: rest, place =>
      if test c then skip test rest (place.afterChar c) else ⟨c :: rest, place⟩

/-- The cursor at the next character that is not a blank. -/
def skipBlanks (cursor : Cursor) : Cursor := skip isBlank cursor.rest cursor.position

end Cursor

end DeployTree.Json
