import DeployTree.Description.Document
import DeployTree.Proofs.Json.Numerals

/-! # Attribute values in documents

The JSON form of an attribute value tells the value (`DeployTree.Value.ofJson?_eq_some_iff`), and
its text is read back as the value as long as its lists are not nested too deep
(`DeployTree.Value.reads_reader`). Unset values and unset texts are read back as unset.
-/

namespace DeployTree

namespace Json

mutual

/-- How deep arrays and objects are nested in a value. -/
def nesting : Json → Nat
  | .null => 0
  | .bool _ => 0
  | .number _ => 0
  | .string _ => 0
  | .array items => itemNesting items + 1
  | .object members => memberNesting members + 1

/-- How deep the items of an array are nested at most. -/
def itemNesting : List Json → Nat
  | [] => 0
  | item :: rest => max item.nesting (itemNesting rest)

/-- How deep the members of an object are nested at most. -/
def memberNesting : List (String × Json) → Nat
  | [] => 0
  | (_, value) :: rest => max value.nesting (memberNesting rest)

end

/-- An array is nested one level deeper than its items. -/
theorem nesting_array_le_iff {items : List Json} {depth : Nat} :
    (array items).nesting ≤ depth + 1 ↔ ∀ item ∈ items, item.nesting ≤ depth := by
  rw [nesting, Nat.add_le_add_iff_right]
  induction items with
  | nil => simp [itemNesting]
  | cons item rest ih => rw [itemNesting, Nat.max_le, ih, List.forall_mem_cons]

/-- An object is nested one level deeper than its members. -/
theorem nesting_object_le_iff {members : List (String × Json)} {depth : Nat} :
    (object members).nesting ≤ depth + 1 ↔ ∀ member ∈ members, member.2.nesting ≤ depth := by
  rw [nesting, Nat.add_le_add_iff_right]
  induction members with
  | nil => simp [memberNesting]
  | cons member rest ih => rw [memberNesting, Nat.max_le, ih, List.forall_mem_cons]

/-- A text or null is not nested. -/
theorem nesting_ofText? (content : Option String) : (ofText? content).nesting = 0 := by
  cases content with
  | none => rfl
  | some content => rfl

namespace Reader

variable {α : Type} {reader : Reader α} {text : List Char} {value : α}

private theorem word_cons (c : Char) (word : List Char) (value : α) (rest : List Char)
    (place : Position) :
    (advance >>= fun _ => letters word >>= fun _ => pure value) ⟨c :: (word ++ rest), place⟩ =
      .ok (value, ⟨rest, place.afterChars (c :: word)⟩) := by
  rw [bind_of_ok (advance_cons c _ place), bind_of_ok (letters_append word rest _)]
  rfl

private theorem reads_null (reader : Reader α) : Reads (optional reader) Json.null.chars none := by
  intro rest place _
  rw [chars, List.cons_append, optional, bind_of_ok (peekPastBlanks_cons rfl)]
  exact word_cons 'n' ['u', 'l', 'l'] none rest place

/-- What does not start like `null` is set. -/
theorem Reads.optional {c : Char} {others : List Char} (reads : Reads reader (c :: others) value)
    (solid : Cursor.isBlank c = false) (set : c ≠ 'n') :
    Reads (Reader.optional reader) (c :: others) (some value) := by
  intro rest place after
  rw [List.cons_append, Reader.optional, bind_of_ok (peekPastBlanks_cons solid)]
  have given : (some c : Option Char) ≠ some 'n' := fun same => set (Option.some.inj same)
  simp only
  exact map_of_ok (reads rest place after) some

/-- A string is read as it was written. -/
theorem reads_string (content : String) : Reads string (Json.string content).chars content := by
  intro rest place _
  rw [chars, stringChars, List.cons_append, string, bind_of_ok (peekPastBlanks_cons rfl),
    List.append_assoc]
  exact stringBody_flatMap content rest (place.afterChar '"')

private theorem reads_anyOf_string (array object : Reader Json) (content : String) :
    Reads (anyOf array object) (Json.string content).chars (.string content) := by
  intro rest place _
  rw [chars, stringChars, List.cons_append, anyOf, bind_of_ok (peekPastBlanks_cons rfl),
    List.append_assoc]
  exact map_of_ok (stringBody_flatMap content rest (place.afterChar '"')) Json.string

private theorem reads_anyOf_bool (array object : Reader Json) (state : Bool) :
    Reads (anyOf array object) (Json.bool state).chars (.bool state) := by
  intro rest place _
  cases state with
  | true =>
      rw [chars, boolChars, List.cons_append, anyOf, bind_of_ok (peekPastBlanks_cons rfl)]
      exact word_cons 't' ['r', 'u', 'e'] _ rest place
  | false =>
      rw [chars, boolChars, List.cons_append, anyOf, bind_of_ok (peekPastBlanks_cons rfl)]
      exact word_cons 'f' ['a', 'l', 's', 'e'] _ rest place

/-- A text that may be unset is read as it was written. -/
theorem reads_ofText? (content : Option String) :
    Reads (Reader.optional string) (Json.ofText? content).chars content := by
  cases content with
  | none => exact reads_null string
  | some content => exact (reads_string content).optional rfl (by decide)

end Reader

end Json

namespace Value

open Json.Reader

/-- Items are written one by one. -/
theorem itemsToJson_eq_map (items : List Value) : itemsToJson items = items.map toJson := by
  induction items with
  | nil => rfl
  | cons item rest ih => rw [itemsToJson, ih, List.map_cons]

mutual

/-- The JSON form of a value stands for the value. -/
theorem ofJson?_toJson : (value : Value) → ofJson? value.toJson = some value
  | .text _ => rfl
  | .flag _ => rfl
  | .integer number => by
      rw [toJson, Json.ofInt, ofJson?, if_pos ⟨number.minValue_le_toInt, number.toInt_le⟩,
        Int64.ofInt_toInt]
  | .list items => by rw [toJson, ofJson?, itemsOfJson?_itemsToJson items, Option.map_some]

private theorem itemsOfJson?_itemsToJson : (items : List Value) →
    itemsOfJson? (itemsToJson items) = some items
  | [] => rfl
  | item :: rest => by
      rw [itemsToJson, itemsOfJson?, ofJson?_toJson item, itemsOfJson?_itemsToJson rest]

end

mutual

/-- Only the JSON form of a value stands for it. -/
theorem toJson_of_ofJson?_eq_some : (json : Json) → (value : Value) → ofJson? json = some value →
    value.toJson = json
  | .bool _, _, same => by
      obtain rfl := Option.some.inj same
      rfl
  | .string _, _, same => by
      obtain rfl := Option.some.inj same
      rfl
  | .number (.integer number), value, same => by
      rw [ofJson?] at same
      split at same
      · rename_i fits
        obtain rfl := Option.some.inj same
        rw [toJson, Json.ofInt, Int64.toInt_ofInt_of_le fits.1 (Int.lt_add_one_of_le fits.2)]
      · cases same
  | .array items, value, same => by
      rw [ofJson?] at same
      obtain ⟨values, read, rfl⟩ := Option.map_eq_some_iff.mp same
      rw [toJson, itemsToJson_of_itemsOfJson?_eq_some items values read]
  | .null, _, same => nomatch same
  | .number (.real _), _, same => nomatch same
  | .object _, _, same => nomatch same

private theorem itemsToJson_of_itemsOfJson?_eq_some : (items : List Json) → (values : List Value) →
    itemsOfJson? items = some values → itemsToJson values = items
  | [], _, same => by
      obtain rfl := Option.some.inj same
      rfl
  | item :: rest, values, same => by
      rw [itemsOfJson?] at same
      split at same
      · rename_i first others readFirst readOthers
        obtain rfl := Option.some.inj same
        rw [itemsToJson, toJson_of_ofJson?_eq_some item first readFirst,
          itemsToJson_of_itemsOfJson?_eq_some rest others readOthers]
      · cases same

end

/-- A value is decoded from what it is written as, and from nothing else. -/
theorem ofJson?_eq_some_iff {json : Json} {value : Value} :
    ofJson? json = some value ↔ value.toJson = json := by
  constructor
  · exact toJson_of_ofJson?_eq_some json value
  · rintro rfl
    exact ofJson?_toJson value

/-- A value starts neither with a blank nor like `null`, nor does it close an array. -/
theorem exists_chars_eq_cons (value : Value) :
    ∃ c rest, value.toJson.chars = c :: rest ∧ Json.Cursor.isBlank c = false ∧ c ≠ ']' ∧
      c ≠ 'n' := by
  cases value with
  | text content => exact ⟨'"', _, rfl, rfl, by decide, by decide⟩
  | flag state =>
      cases state with
      | true => exact ⟨'t', _, rfl, rfl, by decide, by decide⟩
      | false => exact ⟨'f', _, rfl, rfl, by decide, by decide⟩
  | integer number =>
      obtain ⟨c, rest, same, sign⟩ := Json.exists_integerChars_eq_cons number.toInt
      refine ⟨c, rest, same, ?_⟩
      rcases sign with rfl | digit
      · exact ⟨rfl, by decide, by decide⟩
      · exact ⟨Json.isBlank_of_isDigit digit, Json.ne_of_isDigit digit rfl,
          Json.ne_of_isDigit digit rfl⟩
  | list items => exact ⟨'[', _, rfl, rfl, by decide, by decide⟩

/-- A written value may come where an item is due. -/
theorem opens_chars (value : Value) : Json.Opens value.toJson.chars := by
  obtain ⟨c, rest, same, solid, notClose, -⟩ := value.exists_chars_eq_cons
  exact ⟨c, rest, same, solid, notClose⟩

/-- A value that is no list is read wherever a value is due. -/
theorem reads_anyOf {value : Value} (flat : value.toJson.nesting = 0)
    (array object : Json.Reader Json) :
    Reads (anyOf array object) value.toJson.chars value.toJson := by
  cases value with
  | text content => exact reads_anyOf_string array object content
  | flag state => exact reads_anyOf_bool array object state
  | integer number =>
      have upper : number.toInt < UInt64.size := Int.lt_trans number.toInt_lt (by decide)
      exact reads_anyOf_integerChars array object number.le_toInt upper
  | list items => cases flat

/-- A value is read as it was written, if it is not nested too deep. -/
theorem reads_value {value : Value} {depth : Nat} (fits : value.toJson.nesting ≤ depth) :
    Reads (Json.Reader.value depth) value.toJson.chars value.toJson := by
  -- The induction is on the depth, since items are read with one level less.
  induction depth generalizing value with
  | zero => exact reads_anyOf (Nat.eq_zero_of_le_zero fits) _ _
  | succ depth ih =>
      cases value with
      | text content => exact reads_anyOf rfl _ _
      | flag state => exact reads_anyOf rfl _ _
      | integer number => exact reads_anyOf rfl _ _
      | list items =>
          rw [toJson, itemsToJson_eq_map] at fits ⊢
          have shallow := Json.nesting_array_le_iff.mp fits
          have each : ∀ item ∈ items, Json.Opens item.toJson.chars ∧
              Reads (Json.Reader.value depth) item.toJson.chars item.toJson :=
            fun item member => ⟨item.opens_chars, ih (shallow _ (List.mem_map_of_mem member))⟩
          intro rest place _
          have inner := enclosed_items each rest (place.afterChar '[')
          rw [Json.chars_array, List.map_map, List.cons_append, Json.Reader.value, anyOf,
            bind_of_ok (peekPastBlanks_cons rfl), List.append_assoc]
          exact map_of_ok inner Json.array

/-- **Values.** A value is told from its text, if it is not nested too deep. -/
theorem reads_reader {value : Value} {depth : Nat} (fits : value.toJson.nesting ≤ depth) :
    Reads (reader depth) value.toJson.chars value := by
  intro rest place after
  rw [reader, bind_of_ok (reads_value fits rest place after), ofJson?_toJson]
  rfl

/-- A value that may be unset is told from its text, if it is not nested too deep. -/
theorem reads_settingJson {setting : Option Value} {depth : Nat}
    (fits : (settingJson setting).nesting ≤ depth) :
    Reads (Json.Reader.optional (reader depth)) (settingJson setting).chars setting := by
  cases setting with
  | none => exact reads_null (reader depth)
  | some value =>
      obtain ⟨c, rest, same, solid, -, set⟩ := value.exists_chars_eq_cons
      have reads : Reads (reader depth) value.toJson.chars value := reads_reader fits
      rw [same] at reads
      rw [settingJson, same]
      exact reads.optional solid set

end Value

end DeployTree
