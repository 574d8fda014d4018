/-! # JSON values

Output and input documents are JSON values. An object keeps its members as a list
of pairs, because the order in which members are written is part of the output. A
number is a whole number, or a binary number of 64 bits given by its encoding;
output holds whole numbers only.
-/

namespace DeployTree

/-- A number as a document writes it: a whole number, or a binary number of 64 bits by its
encoding. -/
inductive Number where
  | integer (value : Int)
  | real (bits : UInt64)
deriving DecidableEq

/-- A JSON value. The items of an array and the named members of an object stand in order. -/
inductive Json where
  | null
  | bool (state : Bool)
  | number (value : Number)
  | string (content : String)
  | array (items : List Json)
  | object (members : List (String × Json))
deriving Inhabited

namespace Json

mutual

/-- Equality of JSON values is decided constructor by constructor. -/
def decEq : (first second : Json) → Decidable (first = second)
  | .null, .null => isTrue rfl
  | .bool a, .bool b => decidable_of_iff (a = b) (by simp)
  | .number a, .number b => decidable_of_iff (a = b) (by simp)
  | .string a, .string b => decidable_of_iff (a = b) (by simp)
  | .array as, .array bs =>
      match decEqItems as bs with
      | isTrue same => isTrue (by rw [same])
      | isFalse other => isFalse (by simpa using other)
  | .object as, .object bs =>
      match decEqMembers as bs with
      | isTrue same => isTrue (by rw [same])
      | isFalse other => isFalse (by simpa using other)
  | .null, .bool _ | .null, .number _ | .null, .string _ | .null, .array _ | .null, .object _
  | .bool _, .null | .bool _, .number _ | .bool _, .string _ | .bool _, .array _
  | .bool _, .object _
  | .number _, .null | .number _, .bool _ | .number _, .string _ | .number _, .array _
  | .number _, .object _
  | .string _, .null | .string _, .bool _ | .string _, .number _ | .string _, .array _
  | .string _, .object _
  | .array _, .null | .array _, .bool _ | .array _, .number _ | .array _, .string _
  | .array _, .object _
  | .object _, .null | .object _, .bool _ | .object _, .number _ | .object _, .string _
  | .object _, .array _ => isFalse (by simp)

/-- Equality of arrays is decided item by item. -/
def decEqItems : (first second : List Json) → Decidable (first = second)
  | [], [] => isTrue rfl
  | [], _ :: _ => isFalse (by simp)
  | _ :: _, [] => isFalse (by simp)
  | a :: as, b :: bs =>
      match decEq a b, decEqItems as bs with
      | isTrue head, isTrue tail => isTrue (by rw [head, tail])
      | isFalse other, _ => isFalse (by simp [other])
      | _, isFalse other => isFalse (by simp [other])

/-- Equality of objects is decided member by member, in order. -/
def decEqMembers : (first second : List (String × Json)) → Decidable (first = second)
  | [], [] => isTrue rfl
  | [], _ :: _ => isFalse (by simp)
  | _ :: _, [] => isFalse (by simp)
  | (name, a) :: as, (other, b) :: bs =>
      match decEq a b, decEqMembers as bs with
      | isTrue head, isTrue tail =>
          if same : name = other then isTrue (by rw [head, tail, same])
          else isFalse (by simp [same])
      | isFalse differ, _ => isFalse (by simp [differ])
      | _, isFalse differ => isFalse (by simp [differ])

end

instance : DecidableEq Json := decEq

/-- A whole number as a JSON value. -/
def ofInt (value : Int) : Json := .number (.integer value)

/-- A count as a JSON value. -/
def ofNat (value : Nat) : Json := .number (.integer value)

/-- A text that may be unset as a JSON value, `null` when unset. -/
def ofText? : Option String → Json
  | none => .null
  | some content => .string content

end Json

end DeployTree
