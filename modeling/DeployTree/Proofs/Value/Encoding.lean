import DeployTree.Proofs.Json.Depth
import DeployTree.Proofs.Json.Rejecting

/-! # The two encodings of an attribute value

A value is put into a document in two ways, and both give the same text: what is written out item
by item is the printed JSON form (`DeployTree.Value.compact_toJson`). The text is read back as the
value as long as lists are not nested too deep, and is rejected as nested too deep otherwise
(`DeployTree.Value.parse_written_iff`). Reading tries the kinds of values one after another
(`DeployTree.Value.ofJson?_eq_findSome?`). The order of the kinds does not matter: a kind reads
nothing but the JSON forms of its own values (`DeployTree.Value.Variant.read?_eq_some_iff`).
-/

namespace DeployTree.Value

open Json.Reader

mutual

/-- How deep lists are nested in a value. -/
def nesting : Value → Nat
  | .text _ => 0
  | .flag _ => 0
  | .integer _ => 0
  | .list items => itemNesting items + 1

/-- How deep lists are nested in the items of a list at most. -/
def itemNesting : List Value → Nat
  | [] => 0
  | item :: rest => max item.nesting (itemNesting rest)

end

section Writing

mutual

/-- The JSON form of a value is nested as deep as the value. -/
theorem nesting_toJson : (value : Value) → value.toJson.nesting = value.nesting
  | .text _ => rfl
  | .flag _ => rfl
  | .integer _ => rfl
  | .list items => by rw [toJson, Json.nesting, nesting, itemNesting_itemsToJson items]

private theorem itemNesting_itemsToJson : (items : List Value) →
    Json.itemNesting (itemsToJson items) = itemNesting items
  | [] => rfl
  | item :: rest => by
      rw [itemsToJson, Json.itemNesting, itemNesting, nesting_toJson item,
        itemNesting_itemsToJson rest]

end

mutual

/-- The JSON form of a value is printed as the value is written out. -/
theorem chars_toJson : (value : Value) → value.toJson.chars = value.writtenChars
  | .text _ => rfl
  | .flag _ => rfl
  | .integer _ => rfl
  | .list items => by
      rw [toJson, Json.chars_array, writtenChars, separated_itemsToJson items true]

private theorem separated_itemsToJson : (items : List Value) → (first : Bool) →
    Json.separated first ((itemsToJson items).map Json.chars) = writtenItems first items
  | [], _ => rfl
  | item :: rest, first => by
      rw [itemsToJson, List.map_cons, Json.separated, chars_toJson item,
        separated_itemsToJson rest false, writtenItems, Json.lead]

end

/-- The tree of a value is printed as the value is written item by item. -/
theorem compact_toJson (value : Value) : value.toJson.compact = value.written := by
  rw [Json.compact, chars_toJson, written]

end Writing

section Rejecting

/-- A value that is nested deeper than it may be is rejected. -/
theorem rejects_value {value : Value} {depth : Nat} (deep : depth < value.toJson.nesting) :
    Rejects (Json.Reader.value depth) value.toJson.chars .tooDeep := by
  induction depth generalizing value with
  | zero =>
      cases value with
      | text _ | flag _ | integer _ => cases deep
      | list items =>
          intro rest place _
          rw [toJson, Json.chars_array, List.cons_append, Json.Reader.value, anyOf,
            bind_of_ok (peekPastBlanks_cons rfl)]
          exact ⟨_, rfl⟩
  | succ depth ih =>
      cases value with
      | text _ | flag _ | integer _ => cases deep
      | list items =>
          rw [toJson, itemsToJson_eq_map] at deep ⊢
          -- Some item goes too deep as well, and each of the others is read or rejected likewise.
          have rejected : ∃ item ∈ items,
              Rejects (Json.Reader.value depth) item.toJson.chars .tooDeep := by
            have tooDeep := mt Json.nesting_array_le_iff.mpr (Nat.not_le.mpr deep)
            simp only [List.forall_mem_map, Classical.not_forall, Nat.not_le] at tooDeep
            obtain ⟨item, member, deeper⟩ := tooDeep
            exact ⟨item, member, ih deeper⟩
          have each : ∀ item ∈ items, Json.Opens item.toJson.chars ∧
              (Reads (Json.Reader.value depth) item.toJson.chars item.toJson ∨
                Rejects (Json.Reader.value depth) item.toJson.chars .tooDeep) := by
            refine fun item _ => ⟨item.opens_chars, ?_⟩
            rcases Nat.lt_or_ge depth item.toJson.nesting with deeper | fits
            · exact .inr (ih deeper)
            · exact .inl (reads_value fits)
          intro rest place _
          obtain ⟨position, stopped⟩ :=
            exists_enclosed_items_eq_error each rejected rest (place.afterChar '[')
          refine ⟨position, ?_⟩
          rw [Json.chars_array, List.map_map, List.cons_append, Json.Reader.value, anyOf,
            bind_of_ok (peekPastBlanks_cons rfl), List.append_assoc]
          exact map_of_error stopped Json.array

private theorem parse_written_of_nesting_le {value : Value} (fits : value.nesting ≤ maxDepth) :
    parse value.written = .ok value := by
  rw [← nesting_toJson] at fits
  rw [parse, written, ← chars_toJson, run_of_reads (reads_reader fits)]

private theorem exists_parse_written_eq_error {value : Value} (deep : maxDepth < value.nesting) :
    ∃ place, parse value.written =
      .error (.invalidDescription (.stopped ⟨.tooDeep, some place⟩)) := by
  rw [← nesting_toJson] at deep
  have rejects : Rejects (reader maxDepth) value.toJson.chars .tooDeep :=
    (rejects_value deep).bind _
  obtain ⟨place, stopped⟩ := exists_run_eq_error_of_rejects rejects
  exact ⟨place, by rw [parse, written, ← chars_toJson, stopped]⟩

/-- Whether the text of a value is read back or rejected depends on how deep its lists are nested,
and on nothing else. -/
theorem parse_written_iff (value : Value) :
    (parse value.written = .ok value ↔ value.nesting ≤ maxDepth) ∧
      ((∃ place, parse value.written =
          .error (.invalidDescription (.stopped ⟨.tooDeep, some place⟩))) ↔
        maxDepth < value.nesting) := by
  rcases Nat.lt_or_ge maxDepth value.nesting with deep | fits
  · obtain ⟨place, rejected⟩ := exists_parse_written_eq_error deep
    refine ⟨iff_of_false ?_ (Nat.not_le.mpr deep), iff_of_true ⟨place, rejected⟩ deep⟩
    rw [rejected]
    nofun
  · have read := parse_written_of_nesting_le fits
    refine ⟨iff_of_true read fits, iff_of_false ?_ (Nat.not_lt.mpr fits)⟩
    rintro ⟨place, rejected⟩
    cases read.symm.trans rejected

end Rejecting

/-- A JSON form stands for one value only. -/
theorem toJson_injective {first second : Value} (same : first.toJson = second.toJson) :
    first = second :=
  Option.some.inj ((ofJson?_toJson first).symm.trans (same ▸ ofJson?_toJson second))

section Variants

/-- A kind of value. -/
inductive Variant where
  | text
  | flag
  | integer
  | list
deriving DecidableEq

/-- The kind of a value. -/
def variant : Value → Variant
  | .text _ => .text
  | .flag _ => .flag
  | .integer _ => .integer
  | .list _ => .list

namespace Variant

/-- The kinds in the order in which they are tried. -/
def inOrder : List Variant := [.text, .flag, .integer, .list]

/-- The value of one kind that a JSON form stands for, if there is one. The items of a list may be
of any kind. -/
def read? : Variant → Json → Option Value
  | .text, .string content => some (.text content)
  | .flag, .bool state => some (.flag state)
  | .integer, .number (.integer number) =>
      if Int64.minValue.toInt ≤ number ∧ number ≤ Int64.maxValue.toInt then
        some (.integer (Int64.ofInt number))
      else none
  | .list, .array items => (itemsOfJson? items).map .list
  | _, _ => none

end Variant

/-- A kind takes a JSON form exactly when it is the form of a value of this kind. -/
theorem Variant.read?_eq_filter (kind : Variant) (json : Json) :
    kind.read? json = (ofJson? json).filter (·.variant = kind) := by
  cases json with
  | null | bool _ | string _ | object _ => cases kind <;> rfl
  | number number =>
      cases number with
      | real _ => cases kind <;> rfl
      | integer number =>
          by_cases fits : Int64.minValue.toInt ≤ number ∧ number ≤ Int64.maxValue.toInt
          · rw [ofJson?, if_pos fits]
            cases kind with
            | integer => exact if_pos fits
            | text | flag | list => rfl
          · rw [ofJson?, if_neg fits]
            cases kind with
            | integer => exact if_neg fits
            | text | flag | list => rfl
  | array items =>
      rw [ofJson?]
      cases kind with
      | list =>
          rw [read?]
          cases itemsOfJson? items <;> rfl
      | text | flag | integer => cases itemsOfJson? items <;> rfl

/-- What a kind reads is a value of this kind, and only the JSON form of that value is read so. -/
theorem Variant.read?_eq_some_iff {kind : Variant} {json : Json} {value : Value} :
    kind.read? json = some value ↔ value.variant = kind ∧ value.toJson = json := by
  rw [read?_eq_filter, Option.filter_eq_some_iff, ofJson?_eq_some_iff, decide_eq_true_iff,
    and_comm]

/-- **Kinds in order.** A JSON form is read as the first kind that takes it. -/
theorem ofJson?_eq_findSome? (json : Json) :
    ofJson? json = Variant.inOrder.findSome? (·.read? json) := by
  simp only [Variant.read?_eq_filter]
  cases ofJson? json with
  | none => rfl
  | some value => cases value <;> rfl

end Variants

/-- **Encodings.** A value is written out as its JSON form is printed. The text is read back as the
value, with every kind kept, exactly when lists are nested at most 127 levels deep, and is rejected
as nested too deep otherwise. Among the kinds that are tried, only that of the value takes the JSON
form. -/
theorem encodings_agree (value : Value) :
    value.toJson.compact = value.written ∧
      (parse value.written = .ok value ↔ value.nesting ≤ 127) ∧
      ((∃ place, parse value.written =
          .error (.invalidDescription (.stopped ⟨.tooDeep, some place⟩))) ↔ 127 < value.nesting) ∧
      ∀ kind read, kind.read? value.toJson = some read ↔ kind = value.variant ∧ read = value := by
  obtain ⟨readBack, rejected⟩ := value.parse_written_iff
  refine ⟨value.compact_toJson, readBack, rejected, fun kind read => ?_⟩
  rw [Variant.read?_eq_some_iff]
  constructor
  · rintro ⟨rfl, same⟩
    obtain rfl : read = value := toJson_injective same
    exact ⟨rfl, rfl⟩
  · rintro ⟨rfl, rfl⟩
    exact ⟨rfl, rfl⟩

end DeployTree.Value
