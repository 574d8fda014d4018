import DeployTree.Pattern.Regex

/-! # Deciding whether a text matches

The derivative of an expression by a character has the texts that complete the
character to a text of the expression. A text matches when the derivative by all
its characters in turn has the empty text. Derivatives are kept small by dropping
sides that have no text and empty parts of sequences.
-/

namespace DeployTree.Regex

/-- Whether an expression has the empty text. -/
def nullable : Regex → Bool
  | .never => false
  | .empty => true
  | .char _ => false
  | .oneOf _ => false
  | .seq first second => first.nullable && second.nullable
  | .alt left right => left.nullable || right.nullable
  | .rep body least most =>
      match most with
      | none => least = 0 || body.nullable
      | some bound => least = 0 || (body.nullable && least ≤ bound)

/-- The sequence of two expressions, without empty parts. -/
def followedBy : Regex → Regex → Regex
  | .never, _ => .never
  | _, .never => .never
  | .empty, second => second
  | first, .empty => first
  | first, second => .seq first second

/-- The choice of two expressions, without sides that have no text. -/
def orElse : Regex → Regex → Regex
  | .never, right => right
  | left, .never => left
  | left, right => .alt left right

/-- The repeat with one text less to come. -/
def repeatLess (body : Regex) (least : Nat) (most : Option Nat) : Regex :=
  .rep body (least - 1) (most.map (· - 1))

/-- The texts that complete a character to a text of the expression. -/
def derive (c : Char) : Regex → Regex
  | .never => .never
  | .empty => .never
  | .char own => if own = c then .empty else .never
  | .oneOf items => if items.any (·.test c) then .empty else .never
  | .seq first second =>
      let started := followedBy (derive c first) second
      if first.nullable then orElse started (derive c second) else started
  | .alt left right => orElse (derive c left) (derive c right)
  | .rep body least most =>
      match most with
      | some 0 => .never
      | _ => followedBy (derive c body) (repeatLess body least most)

/-- Whether a text is in the language of an expression. -/
def accepts (expression : Regex) (text : List Char) : Bool :=
  (text.foldl (fun rest c => derive c rest) expression).nullable

end DeployTree.Regex
