import DeployTree.Event
import DeployTree.Text.Split

/-! # Which records are logged

A filter is a list of directives. A directive sets a threshold for the records whose
target starts with a given text, all of them or those that have a given field; of
several directives that fit a record, the one with the longest text decides, among
those one that asks for a field, and of equal ones the last. Levels are given by
name, in either case, or by number; a directive without a level logs in full. A
directive that is tied to a span never fits, since no record is made inside a span.
A filter without directives lets errors pass.
-/

namespace DeployTree.Log

/-- How much is logged: the number of levels that pass, none when logging is off. -/
abbrev Threshold := Nat

/-- The threshold that a text names. -/
def threshold? (text : List Char) : Option Threshold :=
  let small := text.map Char.toLower
  let digits := if small.head? = some '+' then small.tail else small
  if small = [] then some 1
  else if !digits.isEmpty && digits.all Char.isDigit then
    let number := digits.foldl (fun value c => 10 * value + (c.toNat - '0'.toNat)) 0
    if number ≤ 5 then some number else none
  else if small = "off".toList then some 0
  else if small = "error".toList then some 1
  else if small = "warn".toList then some 2
  else if small = "info".toList then some 3
  else if small = "debug".toList then some 4
  else if small = "trace".toList then some 5
  else none

/-- Which records a directive is for: those whose target starts with a text and that have a field,
if one is named, or the inside of a span. -/
inductive Scope where
  | records (target : List Char) (field : Option (List Char))
  | span
deriving DecidableEq

/-- Whether the scope of a directive is at least as narrow as another: the longer target is
narrower, then the one with a field, then the one whose field comes later in the alphabet. -/
def Scope.isNarrower : Scope → Scope → Bool
  | .records target field, .records target' field' =>
      target'.length < target.length ||
        target'.length = target.length &&
          match field, field' with
          | _, none => true
          | none, some _ => false
          | some name, some name' => decide (¬ name < name')
  | _, _ => true

/-- A threshold for the records of a scope. -/
structure Directive where
  scope : Scope
  threshold : Threshold
deriving DecidableEq

/-- A character that may start a directive. -/
def startsDirective (c : Char) : Bool :=
  c.isAlphanum || c = '-' || c = ':' || c = '_' || 128 ≤ c.toNat

/-- The level part of a directive, after the sign that precedes it. -/
def levelPart? (text : List Char) : Option Threshold :=
  if text.isEmpty then some 5 else threshold? text

/-- What the text between brackets asks of the records of a target: a field when it is a
name in braces; all else, a value that a field must have included, speaks of spans. -/
def bracketScope (target inner : List Char) : Scope :=
  match inner with
  | '{' :: rest =>
      let name := rest.dropLast
      if rest.getLast? = some '}' ∧ name ≠ [] ∧ name.all (fun c => c ≠ '=' ∧ c ≠ '}') then
        .records target (some name)
      else .span
  | _ => .span

/-- The directive of a target that goes on with brackets, then possibly a level. -/
def bracketDirective? (target afterBracket : List Char) : Option Directive :=
  let scope := bracketScope target (afterBracket.takeWhile (· ≠ ']'))
  match afterBracket.dropWhile (· ≠ ']') with
  | [_] => some ⟨scope, 5⟩
  | _ :: '=' :: level => (levelPart? level).map (Directive.mk scope)
  | _ => none

/-- The directive that a text gives, if it is one. -/
def directive? (text : List Char) : Option Directive :=
  match text with
  | [] => none
  | '[' :: rest => bracketDirective? [] rest
  | first :: _ =>
      if !startsDirective first then none
      else
        let name := text.takeWhile fun c => c ≠ '=' ∧ c ≠ '['
        match text.drop name.length with
        | '=' :: level => (levelPart? level).map (Directive.mk (.records name none))
        | '[' :: rest => bracketDirective? name rest
        | _ =>
            match threshold? text with
            | some threshold => some ⟨.records [] none, threshold⟩
            | none => some ⟨.records text none, 5⟩

/-- A filter: its directives in order. -/
structure Filter where
  directives : List Directive
deriving DecidableEq

namespace Filter

/-- The filter of some directives; without any, errors pass. -/
def ofDirectives (directives : List Directive) : Filter :=
  if directives.isEmpty then ⟨[⟨.records [] none, 1⟩]⟩ else ⟨directives⟩

/-- A text without blanks at its ends. -/
def trim (text : List Char) : List Char :=
  ((text.dropWhile Char.isWhitespace).reverse.dropWhile Char.isWhitespace).reverse

/-- The parts of a text between commas that are not empty. -/
def parts (text : String) : List (List Char) :=
  ((Text.split ',' text.toList).map trim).filter fun part => !part.isEmpty

/-- The filter that a text gives, if all its parts are directives. -/
def parse? (text : String) : Option Filter := ((parts text).mapM directive?).map ofDirectives

/-- The filter of those parts of a text that are directives. -/
def ofText (text : String) : Filter := ofDirectives ((parts text).filterMap directive?)

/-- Whether a record has a field of a name; its message is one. -/
def hasField (record : Record) (name : List Char) : Bool :=
  name = "message".toList || record.fields.any fun field => field.1.toList = name

/-- Whether a directive is for a record. -/
def fits (record : Record) (directive : Directive) : Bool :=
  match directive.scope with
  | .records target field =>
      target.isPrefixOf record.target.toList && field.all (hasField record)
  | .span => false

/-- The narrowest of some directives, the last among equals. -/
def narrowest? (directives : List Directive) : Option Directive :=
  directives.foldl
    (fun best directive =>
      match best with
      | none => some directive
      | some other =>
          if Scope.isNarrower directive.scope other.scope then some directive else some other)
    none

/-- The threshold for a record: that of the narrowest directive that fits, or none passes. -/
def thresholdFor (filter : Filter) (record : Record) : Threshold :=
  match narrowest? (filter.directives.filter (fits record)) with
  | some directive => directive.threshold
  | none => 0

/-- Whether a record is logged. -/
def passes (filter : Filter) (record : Record) : Bool :=
  record.level.verbosity ≤ filter.thresholdFor record

end Filter

end DeployTree.Log
