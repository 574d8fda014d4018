import DeployTree.Decimal.Shortest
import DeployTree.Json
import DeployTree.Text.Quoted

/-! # Why a document cannot be read

A failure has a cause and, when it is known, the place: the line, counted from one,
and the number of bytes of that line that had been read. Causes are of two kinds:
the text is not JSON, or it is JSON of a shape that the reader does not take.
-/

namespace DeployTree.Json

/-- A place in a text: the line, counted from one, and the number of bytes of the line before the
place. -/
structure Position where
  line : Nat
  column : Nat
deriving DecidableEq

/-- What stands where something else was expected. -/
inductive Found where
  | null
  | bool (state : Bool)
  | number (value : Number)
  | string (content : String)
  | sequence
  | map
deriving DecidableEq

/-- The description of what was found. -/
def Found.text : Found → String
  | .null => "null"
  | .bool state => "boolean `" ++ (if state then "true" else "false") ++ "`"
  | .number (.integer value) => "integer `" ++ toString value ++ "`"
  | .number (.real bits) => "floating point `" ++ Decimal.text bits ++ "`"
  | .string content => "string " ++ Text.quoted content
  | .sequence => "sequence"
  | .map => "map"

/-- Why a document cannot be read. The first causes are about its text; from `mismatch` on a value
does not fit what is read from it. -/
inductive Cause where
  | endInList
  | endInObject
  | endInString
  | endInValue
  | colonExpected
  | listEndExpected
  | objectEndExpected
  | wordExpected
  | valueExpected
  | invalidEscape
  | invalidNumber
  | numberOutOfRange
  | controlCharacter
  | keyExpected
  | loneSurrogate
  | secondSurrogateExpected
  | trailingComma
  | trailingCharacters
  | tooDeep
  | mismatch (found : Found) (expected : String)
  | outOfType (value : Int) (expected : String)
  | tooShort (length : Nat) (expected : String)
  | unknownField (name : String) (known : List String)
  | duplicateField (name : String)
  | noAttributeValue
deriving DecidableEq

/-- The names of fields as a message lists them. -/
def oneOf (names : List String) : String :=
  "one of " ++ ", ".intercalate (names.map fun name => "`" ++ name ++ "`")

/-- The wording of a cause. -/
def Cause.text : Cause → String
  | .endInList => "EOF while parsing a list"
  | .endInObject => "EOF while parsing an object"
  | .endInString => "EOF while parsing a string"
  | .endInValue => "EOF while parsing a value"
  | .colonExpected => "expected `:`"
  | .listEndExpected => "expected `,` or `]`"
  | .objectEndExpected => "expected `,` or `\x7d`"
  | .wordExpected => "expected ident"
  | .valueExpected => "expected value"
  | .invalidEscape => "invalid escape"
  | .invalidNumber => "invalid number"
  | .numberOutOfRange => "number out of range"
  | .controlCharacter =>
      "control character (\\u0000-\\u001F) found while parsing a string"
  | .keyExpected => "key must be a string"
  | .loneSurrogate => "lone leading surrogate in hex escape"
  | .secondSurrogateExpected => "unexpected end of hex escape"
  | .trailingComma => "trailing comma"
  | .trailingCharacters => "trailing characters"
  | .tooDeep => "recursion limit exceeded"
  | .mismatch found expected => "invalid type: " ++ found.text ++ ", expected " ++ expected
  | .outOfType value expected =>
      "invalid value: integer `" ++ toString value ++ "`, expected " ++ expected
  | .tooShort length expected =>
      "invalid length " ++ toString length ++ ", expected " ++ expected
  | .unknownField name known => "unknown field `" ++ name ++ "`, expected " ++ oneOf known
  | .duplicateField name => "duplicate field `" ++ name ++ "`"
  | .noAttributeValue => "data did not match any variant of untagged enum AttrValue"

/-- A cause and, when it is known, the place. -/
structure Failure where
  cause : Cause
  position : Option Position
deriving DecidableEq

/-- The wording of a failure. -/
def Failure.text (failure : Failure) : String :=
  match failure.position with
  | none => failure.cause.text
  | some place =>
      failure.cause.text ++ " at line " ++ toString place.line ++ " column " ++
        toString place.column

end DeployTree.Json
