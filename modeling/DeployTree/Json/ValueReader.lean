import DeployTree.Json.Numeral
import DeployTree.Json.StringReader

/-! # Values in a document

Any JSON value can be read, nested up to a given depth. A record is read field by
field, from an object in which the fields stand in any order or from an array in
which they stand in the order of the record; a field of an object may be missing,
a field of an array only where the record says so.
-/

namespace DeployTree.Json.Reader

variable {α σ : Type}

/-- The deepest nesting of arrays and objects in a document. -/
def maxDepth : Nat := 127

/-- Reads a value that is no array and no object, or hands these two to their readers. -/
def anyOf (array object : Reader Json) : Reader Json := do
  match ← peekPastBlanks with
  | none => failHere .endInValue
  | some 'n' =>
      advance
      letters ['u', 'l', 'l']
      pure .null
  | some 't' =>
      advance
      letters ['r', 'u', 'e']
      pure (.bool true)
  | some 'f' =>
      advance
      letters ['a', 'l', 's', 'e']
      pure (.bool false)
  | some '-' =>
      advance
      .number <$> numeral true
  | some '"' =>
      advance
      .string <$> stringBody
  | some '[' => array
  | some '\x7b' => object
  | some c => if c.isDigit then .number <$> numeral false else failNext .valueExpected

/-- The members of an object, at most as many as there are steps. -/
def membersWithin (item : Reader α) : Nat → Bool → Reader (List (String × α))
  | 0, _ => failHere .endInObject
  | steps + 1, first => do
      if ← nextKey first then
        advance
        let name ← stringBody
        colon
        let value ← item
        let rest ← membersWithin item steps false
        pure ((name, value) :: rest)
      else pure []

/-- The members of an object whose opening brace has been read. -/
def members (item : Reader α) : Reader (List (String × α)) := do
  membersWithin item ((← remaining) + 1) true

/-- Reads a value in which arrays and objects are nested at most `depth` deep. -/
def value : Nat → Reader Json
  | 0 => anyOf (failNext .tooDeep) (failNext .tooDeep)
  | depth + 1 =>
      anyOf
        (do
          advance
          .array <$> enclosed closeList (items (value depth)))
        (do
          advance
          .object <$> enclosed closeObject (members (value depth)))

/-- Reads the start of a value that is not of the expected kind and stops. -/
def mismatch (expected : String) : Reader α := do
  let found : Found ← do
    match ← peek with
    | some 'n' =>
        advance
        letters ['u', 'l', 'l']
        pure .null
    | some 't' =>
        advance
        letters ['r', 'u', 'e']
        pure (.bool true)
    | some 'f' =>
        advance
        letters ['a', 'l', 's', 'e']
        pure (.bool false)
    | some '-' =>
        advance
        .number <$> numeral true
    | some '"' =>
        advance
        .string <$> stringBody
    | some '[' => pure .sequence
    | some '\x7b' => pure .map
    | some c => if c.isDigit then .number <$> numeral false else failNext .valueExpected
    | none => failHere .valueExpected
  failHere (.mismatch found expected)

/-- Reads `null` as unset and anything else with the given reader. -/
def optional (reader : Reader α) : Reader (Option α) := do
  match ← peekPastBlanks with
  | some 'n' =>
      advance
      letters ['u', 'l', 'l']
      pure none
  | _ => some <$> reader

/-- Reads a string. -/
def string : Reader String := do
  match ← peekPastBlanks with
  | none => failHere .endInValue
  | some '"' =>
      advance
      stringBody
  | some _ => mismatch "a string"

/-- Reads an array of values of one type. -/
def sequence (item : Reader α) : Reader (List α) := do
  match ← peekPastBlanks with
  | none => failHere .endInValue
  | some '[' =>
      advance
      enclosed closeList (items item)
  | some _ => mismatch "a sequence"

/-- Reads a whole number of 32 bits without sign. -/
def word32 : Reader Nat := do
  let read : Number ← do
    match ← peekPastBlanks with
    | none => failHere .endInValue
    | some '-' =>
        advance
        numeral true
    | some c => if c.isDigit then numeral false else mismatch "u32"
  match read with
  | .real bits => failHere (.mismatch (.number (.real bits)) "u32")
  | .integer whole =>
      if 0 ≤ whole ∧ whole.toNat < UInt32.size then pure whole.toNat
      else failHere (.outOfType whole "u32")

/-- A field of a record of type `σ`, whose value is read as a way to put it into the record. An
array may end before the field where `mayEnd` says so. -/
structure Field (σ : Type) where
  name : String
  read : Reader (σ → σ)
  mayEnd : Bool

/-- Reads the fields of a record from an array, the first of them at position `index`. -/
def fieldsInOrder (expected : String) : List (Field σ) → Nat → Bool → σ → Reader σ
  | [], _, _, record => pure record
  | field :: rest, index, first, record => do
      if ← nextItem first then
        let put ← field.read
        fieldsInOrder expected rest (index + 1) false (put record)
      else if field.mayEnd then fieldsInOrder expected rest (index + 1) first record
      else failOpen (.tooShort index expected)

/-- Reads the fields of a record from an object, at most as many as there are steps. -/
def fieldsByName (fields : List (Field σ)) : Nat → Bool → List String → σ → Reader σ
  | 0, _, _, _ => failHere .endInObject
  | steps + 1, first, seen, record => do
      if ← nextKey first then
        advance
        let name ← stringBody
        match fields.find? fun field => field.name = name with
        | none => failOpen (.unknownField name (fields.map Field.name))
        | some field =>
            if name ∈ seen then failOpen (.duplicateField name)
            else
              colon
              let put ← field.read
              fieldsByName fields steps false (name :: seen) (put record)
      else pure record

/-- Reads a record with the given fields, starting from one in which all are unset. -/
def record (name : String) (fields : List (Field σ)) (unset : σ) : Reader σ := do
  match ← peekPastBlanks with
  | none => failHere .endInValue
  | some '[' =>
      advance
      enclosed closeList
        (fieldsInOrder (name ++ " with " ++ toString fields.length ++ " elements") fields 0 true
          unset)
  | some '\x7b' =>
      advance
      enclosed closeObject do
        fieldsByName fields ((← remaining) + 1) true [] unset
  | some _ => mismatch name

end DeployTree.Json.Reader
