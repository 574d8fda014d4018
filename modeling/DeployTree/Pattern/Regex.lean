import DeployTree.Text.Blank
import DeployTree.Text.DecimalDigit
import DeployTree.Text.WordChar

/-! # Regular expressions

An expression is built from single characters, sets of characters, sequences,
choices and bounded or unbounded repeats. `Regex.Matches` says which texts belong
to its language, and `Regex.source` writes the expression down.
-/

namespace DeployTree

/-- A set of characters that may be named inside brackets: one character, those between two, both
included, the word characters, the decimal digits, or the blanks. -/
inductive CharItem where
  | single (c : Char)
  | range (low high : Char)
  | word
  | digit
  | blank
deriving DecidableEq

namespace CharItem

/-- Whether a character belongs to the set. -/
def test : CharItem → Char → Bool
  | single own, c => own = c
  | range low high, c => low ≤ c && c ≤ high
  | word, c => Text.isWordChar c
  | digit, c => Text.isDecimalDigit c
  | blank, c => Text.isBlank c

/-- The set as it is written inside brackets. -/
def source : CharItem → List Char
  | single c => [c]
  | range low high => [low, '-', high]
  | word => ['\\', 'w']
  | digit => ['\\', 'd']
  | blank => ['\\', 's']

end CharItem

/-- A regular expression. `never` has no text and `empty` the empty one, `oneOf` is a union of sets
of characters, and a repeat has a least number of texts in a row and may have a greatest. -/
inductive Regex where
  | never
  | empty
  | char (c : Char)
  | oneOf (items : List CharItem)
  | seq (first second : Regex)
  | alt (left right : Regex)
  | rep (body : Regex) (least : Nat) (most : Option Nat)
deriving DecidableEq

namespace Regex

/-- The texts in the language of an expression. A repeat without a lower bound has the empty text,
and any repeat has one text more while its upper bound, if it has one, is not used up. -/
inductive Matches : Regex → List Char → Prop where
  | empty : Matches .empty []
  | char (c : Char) : Matches (.char c) [c]
  | oneOf {items : List CharItem} {c : Char} (hit : items.any (·.test c) = true) :
      Matches (.oneOf items) [c]
  | seq {first second : Regex} {front back : List Char} :
      Matches first front → Matches second back → Matches (.seq first second) (front ++ back)
  | left {left right : Regex} {text : List Char} :
      Matches left text → Matches (.alt left right) text
  | right {left right : Regex} {text : List Char} :
      Matches right text → Matches (.alt left right) text
  | done {body : Regex} {most : Option Nat} : Matches (.rep body 0 most) []
  | more {body : Regex} {least : Nat} {front back : List Char} :
      Matches body front → Matches (.rep body (least - 1) none) back →
        Matches (.rep body least none) (front ++ back)
  | moreWithin {body : Regex} {least most : Nat} {front back : List Char} :
      Matches body front → Matches (.rep body (least - 1) (some most)) back →
        Matches (.rep body least (some (most + 1))) (front ++ back)

/-- The choice among several expressions. -/
def anyOf : List Regex → Regex
  | [] => .never
  | [only] => only
  | first :: second :: rest => .alt first (anyOf (second :: rest))

/-- The sequence of several expressions. -/
def inOrder : List Regex → Regex
  | [] => .empty
  | [only] => only
  | first :: second :: rest => .seq first (inOrder (second :: rest))

/-- The expression that has one given text. -/
def word (text : String) : Regex := inOrder (text.toList.map .char)

/-- One or more texts in a row. -/
def plus (body : Regex) : Regex := .rep body 1 none

/-- Any number of texts in a row. -/
def star (body : Regex) : Regex := .rep body 0 none

/-- A text of the expression or the empty text. -/
def orEmpty (body : Regex) : Regex := .rep body 0 (some 1)

/-- One word character. -/
def wordChar : Regex := .oneOf [.word]

/-- One decimal digit. -/
def decimalDigit : Regex := .oneOf [.digit]

/-- One blank. -/
def blank : Regex := .oneOf [.blank]

/-- A character outside brackets, with a backslash where it has a meaning of its own. -/
def charSource (c : Char) : List Char :=
  if c ∈ ['.', '(', ')', '[', ']', '\x7b', '\x7d', '*', '+', '?', '|', '^', '$', '\\'] then
    ['\\', c]
  else [c]

/-- The bounds of a repeat. -/
def boundsSource (least : Nat) : Option Nat → List Char
  | none =>
      match least with
      | 0 => ['*']
      | 1 => ['+']
      | _ => '\x7b' :: (Nat.toDigits 10 least ++ [',', '\x7d'])
  | some most =>
      if least = 0 ∧ most = 1 then ['?']
      else '\x7b' :: (Nat.toDigits 10 least ++ ',' :: (Nat.toDigits 10 most ++ ['\x7d']))

/-- A set of characters: in brackets unless it is one of the named sets. -/
def itemsSource : List CharItem → List Char
  | [.word] => CharItem.word.source
  | [.digit] => CharItem.digit.source
  | [.blank] => CharItem.blank.source
  | items => '[' :: (items.flatMap CharItem.source ++ [']'])

mutual

/-- The notation of an expression. -/
def sourceChars : Regex → List Char
  | .never => ['[', ']']
  | .empty => []
  | .char c => charSource c
  | .oneOf items => itemsSource items
  | .seq first second => sourceChars first ++ sourceChars second
  | .alt left right => '(' :: (sourceChars left ++ '|' :: (choiceChars right ++ [')']))
  | .rep body least most => groupChars body ++ boundsSource least most

/-- The notation of the right side of a choice, which needs no parentheses of its own. -/
def choiceChars : Regex → List Char
  | .alt left right => sourceChars left ++ '|' :: choiceChars right
  | .never => ['[', ']']
  | .empty => []
  | .char c => charSource c
  | .oneOf items => itemsSource items
  | .seq first second => sourceChars first ++ sourceChars second
  | .rep body least most => groupChars body ++ boundsSource least most

/-- The notation of a repeated expression, in parentheses where it is a sequence. -/
def groupChars : Regex → List Char
  | .seq first second => '(' :: (sourceChars first ++ sourceChars second ++ [')'])
  | .never => ['[', ']']
  | .empty => ['(', ')']
  | .char c => charSource c
  | .oneOf items => itemsSource items
  | .alt left right => '(' :: (sourceChars left ++ '|' :: (choiceChars right ++ [')']))
  | .rep body least most => '(' :: (groupChars body ++ boundsSource least most ++ [')'])

end

end Regex

end DeployTree
