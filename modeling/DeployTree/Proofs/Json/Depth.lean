import DeployTree.Proofs.Json.Values

/-! # How deep what is read is nested

A reader *yields* a property when every value it gives has it, whatever text it is given
(`DeployTree.Json.Reader.Yields`). A record has a property when the unset record has it and every
change that a field makes keeps it (`DeployTree.Json.Reader.yields_record`). What is read up to a
depth is nested no deeper (`DeployTree.Json.Reader.yields_value`).
-/

namespace DeployTree

namespace Json.Reader

variable {α β σ : Type} {reader first : Reader α} {next : α → Reader β} {cursor after : Cursor}
  {P : α → Prop} {Q : β → Prop}

/-- Whether all values that a reader gives have a property. -/
def Yields (reader : Reader α) (P : α → Prop) : Prop :=
  ∀ ⦃cursor value after⦄, reader cursor = .ok (value, after) → P value

private theorem exists_of_bind_eq_ok {result : β}
    (ok : (first >>= next) cursor = .ok (result, after)) :
    ∃ value between, first cursor = .ok (value, between) ∧
      next value between = .ok (result, after) := by
  change Except.bind (first cursor) (fun reached => next reached.1 reached.2) = _ at ok
  cases reached : first cursor with
  | error stop =>
      rw [reached] at ok
      cases ok
  | ok reached' =>
      rw [reached] at ok
      exact ⟨reached'.1, reached'.2, rfl, ok⟩

private theorem yields_pure {value : α} (holds : P value) : Yields (pure value) P := by
  rintro cursor _ after same
  cases same
  exact holds

private theorem yields_failHere (cause : Cause) (P : α → Prop) : Yields (failHere cause) P :=
  fun _ _ _ same => nomatch same

private theorem yields_failNext (cause : Cause) (P : α → Prop) : Yields (failNext cause) P :=
  fun _ _ _ same => nomatch same

private theorem yields_failOpen (cause : Cause) (P : α → Prop) : Yields (failOpen cause) P :=
  fun _ _ _ same => nomatch same

/-- Values that have a property have every weaker one. -/
theorem Yields.mono {P' : α → Prop} (yields : Yields reader P)
    (weaker : ∀ value, P value → P' value) : Yields reader P' :=
  fun _ _ _ ok => weaker _ (yields ok)

private theorem Yields.bind (yields : Yields first P)
    (later : ∀ value, P value → Yields (next value) Q) :
    Yields (first >>= next) Q := by
  intro cursor result after ok
  obtain ⟨value, between, read, rest⟩ := exists_of_bind_eq_ok ok
  exact later value (yields read) rest

/-- What is read first need not be looked at. -/
theorem yields_bind (first : Reader α) (later : ∀ value, Yields (next value) Q) :
    Yields (first >>= next) Q :=
  Yields.bind (P := fun _ => True) (fun _ _ _ _ => trivial) fun value _ => later value

/-- Changed values have a property that the change brings about. -/
theorem Yields.map {change : α → β} (yields : Yields reader P)
    (keeps : ∀ value, P value → Q (change value)) : Yields (change <$> reader) Q := by
  rw [map_eq_pure_bind]
  exact yields.bind fun value holds => yields_pure (keeps value holds)

/-- Changed values have a property that all values of the change have. -/
theorem yields_map {change : α → β} (reader : Reader α) (holds : ∀ value, Q (change value)) :
    Yields (change <$> reader) Q := by
  rw [map_eq_pure_bind]
  exact yields_bind reader fun value => yields_pure (holds value)

private theorem Yields.enclosed {close : Cursor → Except Stop Unit × Cursor}
    (yields : Yields reader P) :
    Yields (Reader.enclosed close reader) P := by
  intro cursor value after ok
  rw [Reader.enclosed] at ok
  split at ok
  · rename_i read
    split at ok
    · cases ok
      exact yields read
    · cases ok
  · cases ok
  · cases ok

private theorem yields_mismatch (expected : String) (P : α → Prop) :
    Yields (mismatch expected) P := by
  have stops (found : Found) : Yields (failHere (.mismatch found expected)) P :=
    yields_failHere _ P
  refine yields_bind _ fun next => ?_
  dsimp only
  -- Whatever stands next, the reader goes on only to tell what it found.
  split
  iterate 3 exact yields_bind _ fun _ => yields_bind _ fun _ => yields_bind _ stops
  iterate 2 exact yields_bind _ fun _ => yields_bind _ stops
  iterate 2 exact yields_bind _ stops
  · split <;> exact yields_bind _ stops
  · exact yields_bind _ stops

/-- An optional value has the property if there is one. -/
theorem Yields.optional (yields : Yields reader P) :
    Yields (Reader.optional reader) fun read => ∀ value ∈ read, P value := by
  refine yields_bind _ fun next => ?_
  split
  · exact yields_bind _ fun _ => yields_bind _ fun _ => yields_pure fun _ set => nomatch set
  · refine yields.map fun value holds other set => ?_
    obtain rfl := Option.some.inj set
    exact holds

private theorem Yields.itemsWithin (yields : Yields reader P) (steps : Nat) (first : Bool) :
    Yields (Reader.itemsWithin reader steps first) fun items => ∀ item ∈ items, P item := by
  induction steps generalizing first with
  | zero => exact yields_failHere _ _
  | succ steps ih =>
      refine yields_bind _ fun more => ?_
      split
      · refine yields.bind fun item holds => (ih false).bind fun rest all => yields_pure ?_
        exact List.forall_mem_cons.mpr ⟨holds, all⟩
      · exact yields_pure fun _ member => nomatch member

private theorem Yields.membersWithin (yields : Yields reader P) (steps : Nat) (first : Bool) :
    Yields (Reader.membersWithin reader steps first) fun members =>
      ∀ member ∈ members, P member.2 := by
  induction steps generalizing first with
  | zero => exact yields_failHere _ _
  | succ steps ih =>
      refine yields_bind _ fun more => ?_
      split
      · refine yields_bind _ fun _ => yields_bind _ fun name => yields_bind _ fun _ =>
          yields.bind fun value holds => (ih false).bind fun rest all => yields_pure ?_
        exact List.forall_mem_cons.mpr ⟨holds, all⟩
      · exact yields_pure fun _ member => nomatch member

/-- The items of an array have the property of the items that are read. -/
theorem Yields.sequence (yields : Yields reader P) :
    Yields (Reader.sequence reader) fun items => ∀ item ∈ items, P item := by
  refine yields_bind _ fun next => ?_
  split
  · exact yields_failHere _ _
  · exact yields_bind _ fun _ => Yields.enclosed <| yields_bind _ fun _ =>
      yields.itemsWithin _ true
  · exact yields_mismatch _ _

/-- What is neither an array nor an object is not nested. -/
theorem yields_anyOf {array object : Reader Json} {P : Json → Prop}
    (flat : ∀ json : Json, json.nesting = 0 → P json) (inArray : Yields array P)
    (inObject : Yields object P) : Yields (anyOf array object) P := by
  refine yields_bind _ fun next => ?_
  split
  · exact yields_failHere _ _
  · exact yields_bind _ fun _ => yields_bind _ fun _ => yields_pure (flat _ rfl)
  · exact yields_bind _ fun _ => yields_bind _ fun _ => yields_pure (flat _ rfl)
  · exact yields_bind _ fun _ => yields_bind _ fun _ => yields_pure (flat _ rfl)
  · exact yields_bind _ fun _ => yields_map _ fun _ => flat _ rfl
  · exact yields_bind _ fun _ => yields_map _ fun _ => flat _ rfl
  · exact inArray
  · exact inObject
  · split
    · exact yields_map _ fun _ => flat _ rfl
    · exact yields_failNext _ _

/-- A value is nested at most as deep as it may be. -/
theorem yields_value (depth : Nat) : Yields (value depth) fun json => json.nesting ≤ depth := by
  induction depth with
  | zero =>
      exact yields_anyOf (fun _ flat => Nat.le_of_eq flat) (yields_failNext _ _)
        (yields_failNext _ _)
  | succ depth ih =>
      refine yields_anyOf (fun json flat => flat ▸ Nat.zero_le _) ?_ ?_
      · exact yields_bind _ fun _ => Yields.map
          (Yields.enclosed <| yields_bind _ fun _ => ih.itemsWithin _ true)
          fun _ shallow => nesting_array_le_iff.mpr shallow
      · exact yields_bind _ fun _ => Yields.map
          (Yields.enclosed <| yields_bind _ fun _ => ih.membersWithin _ true)
          fun _ shallow => nesting_object_le_iff.mpr shallow

section Records

variable {fields : List (Field σ)} {P : σ → Prop}

private theorem yields_fieldsInOrder
    (each : ∀ field ∈ fields, Yields field.read fun put => ∀ record, P record → P (put record))
    (expected : String) (index : Nat) (first : Bool) {record : σ} (holds : P record) :
    Yields (fieldsInOrder expected fields index first record) P := by
  induction fields generalizing index first record with
  | nil => exact yields_pure holds
  | cons field rest ih =>
      obtain ⟨own, later⟩ := List.forall_mem_cons.mp each
      refine yields_bind _ fun more => ?_
      split
      · exact own.bind fun put keeps => ih later (index + 1) false (keeps record holds)
      · split
        · exact ih later (index + 1) first holds
        · exact yields_failOpen _ _

private theorem yields_fieldsByName
    (each : ∀ field ∈ fields, Yields field.read fun put => ∀ record, P record → P (put record))
    (steps : Nat) (first : Bool) (seen : List String) {record : σ} (holds : P record) :
    Yields (fieldsByName fields steps first seen record) P := by
  induction steps generalizing first seen record with
  | zero => exact yields_failHere _ _
  | succ steps ih =>
      refine yields_bind _ fun more => ?_
      split
      · refine yields_bind _ fun _ => yields_bind _ fun name => ?_
        split
        · exact yields_failOpen _ _
        · rename_i field found
          have own := each field (List.mem_of_find?_eq_some found)
          split
          · exact yields_failOpen _ _
          · exact yields_bind _ fun _ => own.bind fun put keeps =>
              ih false (name :: seen) (keeps record holds)
      · exact yields_pure holds

/-- **Records.** A record has a property when the unset record has it and every field keeps it. -/
theorem yields_record
    (each : ∀ field ∈ fields, Yields field.read fun put => ∀ record, P record → P (put record))
    (name : String) {unset : σ} (holds : P unset) : Yields (record name fields unset) P := by
  refine yields_bind _ fun next => ?_
  split
  · exact yields_failHere _ _
  · exact yields_bind _ fun _ => Yields.enclosed <| yields_fieldsInOrder each _ 0 true holds
  · exact yields_bind _ fun _ => Yields.enclosed <| yields_bind _ fun _ =>
      yields_fieldsByName each _ true [] holds
  · exact yields_mismatch _ _

end Records

private theorem Yields.toEnd (yields : Yields reader P) : Yields (Reader.toEnd reader) P := by
  refine yields.bind fun value holds => yields_bind _ fun next => ?_
  split
  · exact yields_pure holds
  · exact yields_failNext _ _

/-- What a text is read as has what its reader yields. -/
theorem Yields.run {text : String} {value : α} (yields : Yields reader P)
    (read : Reader.run reader text = .ok value) : P value := by
  rw [Reader.run] at read
  split at read
  · rename_i reached
    cases read
    exact yields.toEnd reached
  · cases read
  · cases read

end Json.Reader

open Json.Reader

/-- An attribute value is nested at most as deep as it may be. -/
theorem Value.yields_reader (depth : Nat) :
    Yields (Value.reader depth) fun value => value.toJson.nesting ≤ depth := by
  refine (yields_value depth).bind fun json shallow => ?_
  split
  · rename_i value same
    exact yields_pure (Value.ofJson?_eq_some_iff.mp same ▸ shallow)
  · exact yields_failOpen _ _

end DeployTree
