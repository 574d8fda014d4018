import DeployTree.Pattern
import DeployTree.Value

/-! # Rules for attributes

A rule asks that the text of one attribute fits a pattern. A required attribute
must be set; an optional one may be unset. A value that is not a text breaks a rule,
unless the rule is lenient: then the value's rendering is matched.
-/

namespace DeployTree

/-- What one attribute must satisfy: the pattern of its text, whether it must be set, and whether a
value that is not a text is matched by its rendering. -/
structure Rule where
  name : String
  pattern : Pattern
  required : Bool
  lenient : Bool
deriving DecidableEq

namespace Rule

/-- The rule for an attribute that must be set. -/
def mandatory (name : String) (pattern : Pattern) : Rule := ⟨name, pattern, true, false⟩

/-- The rule for an attribute that may be unset. -/
def optional (name : String) (pattern : Pattern) : Rule := ⟨name, pattern, false, false⟩

/-- The rule for a flag, which may be written as a flag or as a text and may be unset. -/
def flag (name : String) : Rule := ⟨name, .flagText, false, true⟩

/-- Whether a setting satisfies the rule. -/
def accepts (rule : Rule) : Option Value → Bool
  | none => !rule.required
  | some (.text content) => rule.pattern.accepts content
  | some value => rule.lenient && rule.pattern.accepts value.rendered

end Rule

end DeployTree
