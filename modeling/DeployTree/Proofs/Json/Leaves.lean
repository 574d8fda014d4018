import DeployTree.Dictionary
import DeployTree.Proofs.Pattern.Alphabet
import DeployTree.Value.Encoding

/-! # The strings inside a JSON value

What a document promises about its strings is said member by member, with patterns
(`DeployTree.Json.Fits`), or about all strings at once, wherever they are. For the latter a value
has leaves: its strings, each with the names of the members on the way to it. A value is clean when
no leaf holds the character that opens a placeholder (`DeployTree.Json.Clean`); it may be clean
outside one path only (`DeployTree.Json.CleanOutside`).
-/

namespace DeployTree.Json

/-- The member of an object, `null` where there is none. -/
def field (name : String) : Json → Json
  | .object members => (Dictionary.lookup name members).getD .null
  | _ => .null

/-- Whether a value is a string that fits a pattern. -/
def Fits (pattern : Pattern) (json : Json) : Prop :=
  ∃ content, json = .string content ∧ pattern.accepts content = true

/-- Whether a value is `null` or a string that fits a pattern. -/
def FitsOrNull (pattern : Pattern) (json : Json) : Prop :=
  json = .null ∨ json.Fits pattern

/-- A string inside a value, with the names of the members on the way to it. -/
structure Leaf where
  path : List String
  content : String

/-- A leaf of a member as a leaf of the object. -/
def Leaf.under (name : String) (leaf : Leaf) : Leaf := ⟨name :: leaf.path, leaf.content⟩

mutual

/-- The strings inside a value, in order. -/
def leaves : Json → List Leaf
  | .null => []
  | .bool _ => []
  | .number _ => []
  | .string content => [⟨[], content⟩]
  | .array items => itemLeaves items
  | .object members => memberLeaves members

/-- The strings inside the items of an array. -/
def itemLeaves : List Json → List Leaf
  | [] => []
  | item :: rest => leaves item ++ itemLeaves rest

/-- The strings inside the members of an object. -/
def memberLeaves : List (String × Json) → List Leaf
  | [] => []
  | (name, value) :: rest => (leaves value).map (Leaf.under name) ++ memberLeaves rest

end

/-- Whether no string inside a value holds the character that opens a placeholder. -/
def Clean (json : Json) : Prop := ∀ leaf ∈ json.leaves, '$' ∉ leaf.content.toList

/-- Whether no string outside a path holds the character that opens a placeholder. -/
def CleanOutside (path : List String) (json : Json) : Prop :=
  ∀ leaf ∈ json.leaves, leaf.path ≠ path → '$' ∉ leaf.content.toList

variable {json : Json} {pattern : Pattern} {head : String} {path : List String} {leaf : Leaf}
  {items : List Json} {members : List (String × Json)}

private theorem mem_leaves_array_iff :
    leaf ∈ (array items).leaves ↔ ∃ item ∈ items, leaf ∈ item.leaves := by
  rw [leaves]
  induction items with
  | nil => simp [itemLeaves]
  | cons item rest ih => simp [itemLeaves, ih]

private theorem mem_leaves_object_iff :
    leaf ∈ (object members).leaves ↔
      ∃ member ∈ members, ∃ inner ∈ member.2.leaves, Leaf.under member.1 inner = leaf := by
  rw [leaves]
  induction members with
  | nil => simp [memberLeaves]
  | cons member rest ih => simp [memberLeaves, ih]

/-- An array of items that are clean outside a path is so itself. -/
theorem cleanOutside_array (clean : ∀ item ∈ items, item.CleanOutside path) :
    (array items).CleanOutside path := by
  intro leaf member outside
  obtain ⟨item, inside, inner⟩ := mem_leaves_array_iff.mp member
  exact clean item inside leaf inner outside

/-- An object is clean outside a path if the member that the path starts with is clean outside the
rest of it and the other members are clean. -/
theorem cleanOutside_object
    (clean : ∀ member ∈ members,
      if member.1 = head then member.2.CleanOutside path else member.2.Clean) :
    (object members).CleanOutside (head :: path) := by
  intro leaf member outside
  obtain ⟨own, inside, inner, below, rfl⟩ := mem_leaves_object_iff.mp member
  have part := clean own inside
  split at part
  · rename_i same
    apply part inner below
    intro again
    apply outside
    rw [Leaf.under, same, again]
  · exact part inner below

private theorem cleanOutside_nil_of_string (content : String) :
    (string content).CleanOutside [] := by
  intro leaf member outside
  obtain rfl : leaf = ⟨[], content⟩ := by simpa [leaves] using member
  exact absurd rfl outside

/-- A text may hold anything where it is the one that is left out. -/
theorem cleanOutside_nil_ofText? (setting : Option String) : (ofText? setting).CleanOutside [] := by
  cases setting with
  | none => exact fun leaf member => nomatch member
  | some content => exact cleanOutside_nil_of_string content

private theorem clean_null : Clean .null := fun _ member => nomatch member

/-- A flag is clean, whatever the setting. -/
theorem clean_flagJson (setting : Option Value) : (Value.flagJson setting).Clean := by
  have empty : (Value.flagJson setting).leaves = [] := by
    unfold Value.flagJson
    split
    · rfl
    · rfl
    · split <;> rfl
  intro leaf member
  rw [empty] at member
  cases member

/-- A string that fits a pattern of the rules is clean. -/
theorem Fits.clean (fits : json.Fits pattern) (listed : pattern ∈ Pattern.checked) :
    json.Clean := by
  obtain ⟨content, rfl, accepted⟩ := fits
  intro leaf member
  obtain rfl : leaf = ⟨[], content⟩ := by simpa [leaves] using member
  exact Pattern.dollar_notMem_of_accepts accepted listed

/-- A value that is null or fits a pattern of the rules is clean. -/
theorem FitsOrNull.clean (fits : json.FitsOrNull pattern) (listed : pattern ∈ Pattern.checked) :
    json.Clean := by
  rcases fits with rfl | fits
  · exact clean_null
  · exact fits.clean listed

end DeployTree.Json
