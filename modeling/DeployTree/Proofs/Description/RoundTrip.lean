import DeployTree.Proofs.Json.Depth

/-! # Documents read back

The document of a description is read as this description, unless it is nested too deep
(`DeployTree.Description.parse_document`). The document of a description that has itself been read
is never too deep, so that it is always read back. Both rest on the same accounts of how deep a
column, a relation and a deployment are nested, of which only their attribute values have a say.
-/

namespace DeployTree.Description

open Json.Reader

private theorem nesting_columnToJson_le_iff {column : ColumnDescription} {depth : Nat} :
    (columnToJson column).nesting ≤ depth + 1 ↔
      (Value.settingJson column.required).nesting ≤ depth ∧
        (Value.settingJson column.partition).nesting ≤ depth := by
  simp [columnToJson, Json.nesting_object_le_iff, Json.nesting_ofText?]

private theorem nesting_relationToJson_le_iff {relation : RelationDescription} {depth : Nat} :
    (relationToJson relation).nesting ≤ depth + 2 ↔
      (Value.settingJson relation.useInventory).nesting ≤ depth + 1 ∧
        ∀ column ∈ relation.columns, (columnToJson column).nesting ≤ depth := by
  simp [relationToJson, Json.nesting_object_le_iff, Json.nesting_array_le_iff,
    Json.nesting_ofText?]

private theorem nesting_toJson_le_iff {description : Description} {depth : Nat} :
    description.toJson.nesting ≤ depth + 2 ↔
      ∀ relation ∈ description.relations, (relationToJson relation).nesting ≤ depth := by
  simp [toJson, Json.nesting_object_le_iff, Json.nesting_array_le_iff, Json.nesting_ofText?]

section Reads

variable {σ : Type} {fields : List (Json.Reader.Field σ)} {members : List (String × Json)}
  {record result : σ} {name : String}

private theorem fills_text {put : Option String → σ → σ} {text : Option String}
    (later : Fills fields members (put text record) result) :
    Fills (textField name put :: fields) ((name, .ofText? text) :: members) record result :=
  .cons ((reads_ofText? text).map put) later

private theorem fills_value {depth : Nat} {put : Option Value → σ → σ} {setting : Option Value}
    (fits : (Value.settingJson setting).nesting ≤ depth)
    (later : Fills fields members (put setting record) result) :
    Fills (valueField depth name put :: fields) ((name, Value.settingJson setting) :: members)
      record result :=
  .cons ((Value.reads_settingJson fits).map put) later

private theorem fills_list {α : Type} {item : Json.Reader α} {put : List α → σ → σ}
    {toJson : α → Json} {elements : List α}
    (each : ∀ element ∈ elements, Json.Opens (toJson element).chars ∧
      Reads item (toJson element).chars element)
    (later : Fills fields members (put elements record) result) :
    Fills (listField name item put :: fields)
      ((name, .array (elements.map toJson)) :: members) record result :=
  .cons ((reads_sequence each).map put) later

private theorem reads_column {column : ColumnDescription}
    (fits : (columnToJson column).nesting ≤ maxDepth - 4) :
    Reads Description.column (columnToJson column).chars column := by
  obtain ⟨required, partition⟩ := nesting_columnToJson_le_iff.mp fits
  have fills : Fills columnFields _ .unset column :=
    fills_text <| fills_text <| fills_text <| fills_text <| fills_value required <|
      fills_value partition <| .nil column
  exact reads_record (by decide) fills "struct AttributeDescription"

private theorem reads_relation {relation : RelationDescription}
    (fits : (relationToJson relation).nesting ≤ maxDepth - 2) :
    Reads Description.relation (relationToJson relation).chars relation := by
  obtain ⟨inventory, columns⟩ := nesting_relationToJson_le_iff.mp fits
  have each : ∀ column ∈ relation.columns, Json.Opens (columnToJson column).chars ∧
      Reads Description.column (columnToJson column).chars column :=
    fun column member => ⟨Json.opens_object _, reads_column (columns column member)⟩
  have fills : Fills relationFields _ .unset relation :=
    fills_text <| fills_text <| fills_text <| fills_text <| fills_text <| fills_text <|
      fills_text <| fills_value inventory <| fills_list each <| .nil relation
  exact reads_record (by decide) fills "struct RelationDescription"

/-- A description is told from its text, if it is not nested too deep. -/
theorem reads_reader {description : Description} (fits : description.toJson.nesting ≤ maxDepth) :
    Reads reader description.toJson.chars description := by
  have relations := nesting_toJson_le_iff.mp fits
  have each : ∀ relation ∈ description.relations, Json.Opens (relationToJson relation).chars ∧
      Reads Description.relation (relationToJson relation).chars relation :=
    fun relation member => ⟨Json.opens_object _, reads_relation (relations relation member)⟩
  have fills : Fills Description.fields _ .unset description :=
    fills_text <| fills_text <| fills_text <| fills_text <| fills_text <| fills_list each <|
      .nil description
  exact reads_record (by decide) fills "struct DeploymentDescription"

end Reads

section Yields

variable {σ : Type} {P : σ → Prop} {name : String}

private theorem yields_textField {put : Option String → σ → σ}
    (keeps : ∀ text record, P record → P (put text record)) :
    Yields (textField name put).read fun change => ∀ record, P record → P (change record) :=
  yields_map _ keeps

private theorem yields_valueField {depth : Nat} {put : Option Value → σ → σ}
    (keeps : ∀ setting, (Value.settingJson setting).nesting ≤ depth →
      ∀ record, P record → P (put setting record)) :
    Yields (valueField depth name put).read fun change =>
      ∀ record, P record → P (change record) := by
  refine (Value.yields_reader depth).optional.map fun setting shallow => keeps setting ?_
  cases setting with
  | none => exact Nat.zero_le depth
  | some value => exact shallow value rfl

private theorem yields_listField {α : Type} {Q : α → Prop} {item : Json.Reader α}
    {put : List α → σ → σ} (yields : Yields item Q)
    (keeps : ∀ elements, (∀ element ∈ elements, Q element) →
      ∀ record, P record → P (put elements record)) :
    Yields (listField name item put).read fun change =>
      ∀ record, P record → P (change record) :=
  yields.sequence.map keeps

private theorem yields_column :
    Yields Description.column fun column => (columnToJson column).nesting ≤ maxDepth - 4 := by
  have settings : Yields Description.column fun column =>
      (Value.settingJson column.required).nesting ≤ maxDepth - 5 ∧
        (Value.settingJson column.partition).nesting ≤ maxDepth - 5 := by
    refine yields_record ?_ _ ⟨Nat.zero_le _, Nat.zero_le _⟩
    simp only [columnFields, List.forall_mem_cons]
    refine ⟨?_, ?_, ?_, ?_, ?_, ?_, fun _ member => nomatch member⟩
    iterate 4 exact yields_textField fun _ _ shallow => shallow
    · exact yields_valueField fun _ required _ shallow => ⟨required, shallow.2⟩
    · exact yields_valueField fun _ partition _ shallow => ⟨shallow.1, partition⟩
  exact settings.mono fun _ => nesting_columnToJson_le_iff.mpr

private theorem yields_relation :
    Yields Description.relation fun relation =>
      (relationToJson relation).nesting ≤ maxDepth - 2 := by
  have parts : Yields Description.relation fun relation =>
      (Value.settingJson relation.useInventory).nesting ≤ maxDepth - 3 ∧
        ∀ column ∈ relation.columns, (columnToJson column).nesting ≤ maxDepth - 4 := by
    refine yields_record ?_ _ ⟨Nat.zero_le _, fun _ member => nomatch member⟩
    simp only [relationFields, List.forall_mem_cons]
    refine ⟨?_, ?_, ?_, ?_, ?_, ?_, ?_, ?_, ?_, fun _ member => nomatch member⟩
    iterate 7 exact yields_textField fun _ _ shallow => shallow
    · exact yields_valueField fun _ inventory _ shallow => ⟨inventory, shallow.2⟩
    · exact yields_listField yields_column fun _ columns _ shallow => ⟨shallow.1, columns⟩
  exact parts.mono fun _ => nesting_relationToJson_le_iff.mpr

/-- What is read as a description is nested no deeper than a document may be. -/
theorem yields_reader : Yields reader fun description => description.toJson.nesting ≤ maxDepth := by
  have parts : Yields reader fun description =>
      ∀ relation ∈ description.relations, (relationToJson relation).nesting ≤ maxDepth - 2 := by
    refine yields_record ?_ _ fun _ member => nomatch member
    simp only [Description.fields, List.forall_mem_cons]
    refine ⟨?_, ?_, ?_, ?_, ?_, ?_, fun _ member => nomatch member⟩
    iterate 5 exact yields_textField fun _ _ shallow => shallow
    · exact yields_listField yields_relation fun _ relations _ _ => relations
  exact parts.mono fun _ => nesting_toJson_le_iff.mpr

end Yields

private theorem parse_eq_ok_iff {text : String} {description : Description} :
    parse text = .ok description ↔ run reader text = .ok description := by
  rw [parse]
  cases run reader text with
  | ok read => simp
  | error failure => simp

/-- What has been read as a description is not nested too deep. -/
theorem nesting_le_of_parse_eq_ok {text : String} {description : Description}
    (read : parse text = .ok description) : description.toJson.nesting ≤ 127 :=
  yields_reader.run (parse_eq_ok_iff.mp read)

/-- A description is read back from its document as long as this is not nested too deep. -/
theorem parse_document_eq_ok_iff {description : Description} :
    parse description.document = .ok description ↔ description.toJson.nesting ≤ 127 := by
  constructor
  · exact nesting_le_of_parse_eq_ok
  · exact fun fits => parse_eq_ok_iff.mpr (run_of_reads (reads_reader fits))

/-- **Round trip.** A description whose document nests at most 127 levels is read back from it as it
was: what is unset stays unset, relations and columns stay in order, and every attribute value keeps
its kind. In particular a description that has been read is read back. -/
theorem parse_document :
    (∀ description : Description, description.toJson.nesting ≤ 127 →
      parse description.document = .ok description) ∧
    (∀ (text : String) (description : Description), parse text = .ok description →
      parse description.document = .ok description) := by
  constructor
  · exact fun _ fits => parse_document_eq_ok_iff.mpr fits
  · exact fun _ _ read => parse_document_eq_ok_iff.mpr (nesting_le_of_parse_eq_ok read)

/-- Columns whose values are told apart by their kinds only, with a name that needs escapes. -/
def lookalikes : Description :=
  let column (required partition : Value) : ColumnDescription :=
    { ColumnDescription.unset with required := some required, partition := some partition }
  let relation : RelationDescription :=
    { RelationDescription.unset with
      relationName := some "a\"b\\c\n\x01"
      columns :=
        [ column (.text "true") (.flag true), column (.text "-1") (.integer (-1)),
          column (.list []) (.list [.list [.text "[]"], .integer Int64.minValue]) ] }
  { Description.unset with relations := [relation, .unset] }

/-- Texts that look like other values are read back as texts, and a description that is read from an
array of its fields is read back from its document. -/
theorem parse_document_lookalikes :
    (lookalikes.toJson.nesting ≤ 127 ∧ parse lookalikes.document = .ok lookalikes) ∧
      let placed : Description := { Description.unset with region := some "eu" }
      parse "[null, \"eu\", null, null, null]" = .ok placed ∧
        parse placed.document = .ok placed := by
  have fits : lookalikes.toJson.nesting ≤ 127 := by decide
  have read : parse "[null, \"eu\", null, null, null]" =
      .ok { Description.unset with region := some "eu" } := by decide
  exact ⟨⟨fits, parse_document.1 _ fits⟩, read, parse_document.2 _ _ read⟩

end DeployTree.Description
