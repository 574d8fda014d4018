import DeployTree.Pattern.Derivative
import DeployTree.Text.CaseFold

/-! # Patterns of attribute texts

A pattern describes whole texts: its expression has to match from the first to the
last character. A caseless pattern is matched against the text with its letters
folded, so its expression names small letters only. The patterns that deployments
are checked with are listed here.
-/

namespace DeployTree

/-- An expression for whole texts, and whether letters match it without regard to case. -/
structure Pattern where
  body : Regex
  caseless : Bool
deriving DecidableEq

namespace Pattern

/-- Whether a text, as a list of characters, fits the pattern. -/
def fits (pattern : Pattern) (text : List Char) : Bool :=
  pattern.body.accepts (if pattern.caseless then text.map Text.foldCase else text)

/-- Whether a text fits the pattern. -/
def accepts (pattern : Pattern) (text : String) : Bool := pattern.fits text.toList

/-- The notation of the pattern, with the marks for the start and the end of the text. -/
def source (pattern : Pattern) : String :=
  String.ofList
    ((if pattern.caseless then ['(', '?', 'i', ')'] else []) ++
      '^' :: (pattern.body.sourceChars ++ ['$']))

/-- Letters of the basic alphabet. -/
def letter : Regex := .oneOf [.range 'a' 'z', .range 'A' 'Z']

/-- One segment of a dotted name: word characters. -/
def segment : Regex := .plus .wordChar

/-- A dot and a segment. -/
def furtherSegment : Regex := .seq (.char '.') segment

/-- Letters, then at most 127 word characters. -/
def sqlIdentifier : Pattern :=
  ⟨.seq (.plus letter) (.rep .wordChar 0 (some 127)), false⟩

/-- A region such as `us-west-2`: two words and a number, joined by hyphens. -/
def region : Pattern :=
  ⟨.inOrder [segment, .char '-', segment, .char '-', .plus .decimalDigit], false⟩

/-- A dotted name of one to four segments. -/
def dottedPrefix : Pattern := ⟨.seq segment (.rep furtherSegment 0 (some 3)), false⟩

/-- A dotted name of four segments. -/
def fourPartName : Pattern :=
  ⟨.inOrder [segment, .char '.', segment, .char '.', segment, .char '.', segment], false⟩

/-- A dotted name of three segments. -/
def threePartName : Pattern :=
  ⟨.inOrder [segment, .char '.', segment, .char '.', segment], false⟩

/-- A dotted name of one to three segments. -/
def shortDottedName : Pattern := ⟨.seq segment (.rep furtherSegment 0 (some 2)), false⟩

/-- A role name: word characters and some punctuation, possibly none. -/
def roleName : Pattern :=
  ⟨.star (.oneOf [.word, .single '+', .single '=', .single ',', .single '.', .single '@',
    .single '/', .single '-']), false⟩

/-- The text of a flag in either case, or the empty text. -/
def flagText : Pattern :=
  ⟨.anyOf [.word "t", .word "true", .word "f", .word "false", .empty], true⟩

/-- A dotted name of two segments, or the empty text. -/
def twoPartNameOrEmpty : Pattern :=
  ⟨.orEmpty (.inOrder [segment, .char '.', segment]), false⟩

/-- A storage format. -/
def storageFormat : Pattern :=
  ⟨.anyOf [.word "parquet", .word "json", .word "csv"], false⟩

/-- A name of a type with a length in parentheses. -/
def sized (name : String) : Regex :=
  .inOrder [.word name, .char '(', .plus .decimalDigit, .char ')']

/-- A data type of a column. -/
def dataType : Pattern :=
  ⟨.anyOf [sized "varchar", sized "char", .word "text", .word "boolean", .word "smallint",
    .word "integer", .word "int", .word "bigint", .word "float", .word "double", .word "date",
    .word "timestamp",
    .inOrder [.word "numeric", .char '(', .plus .decimalDigit, .char ',', .star .blank,
      .plus .decimalDigit, .char ')']], true⟩

/-- The first and the last character of a bucket name. -/
def bucketEnd : Regex := .oneOf [.range 'a' 'z', .range '0' '9']

/-- A character inside a bucket name. -/
def bucketChar : Regex := .oneOf [.range 'a' 'z', .range '0' '9', .single '.', .single '-']

/-- A bucket name of 3 to 63 characters. -/
def bucketName : Pattern :=
  ⟨.inOrder [bucketEnd, .rep bucketChar 1 (some 61), bucketEnd], false⟩

end Pattern

end DeployTree
