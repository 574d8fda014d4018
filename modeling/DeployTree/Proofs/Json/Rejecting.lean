import DeployTree.Proofs.Json.Reading

/-! # Rejecting what cannot be read

A reader *rejects* a text for a cause when it stops with this cause, at some place, whatever
delimited text follows (`DeployTree.Json.Reader.Rejects`). A stop ends everything that was to be
read after it, so an array is rejected when one of its items is and every other item is read or
rejected for the same cause (`DeployTree.Json.Reader.exists_enclosed_items_eq_error`).
-/

namespace DeployTree.Json.Reader

variable {α β : Type} {first reader : Reader α} {next : α → Reader β} {cursor : Cursor}
  {text : List Char} {cause : Cause} {stop : Stop}

/-- Whether a reader stops with a cause at the text, whatever delimited text comes after it. -/
def Rejects (reader : Reader α) (text : List Char) (cause : Cause) : Prop :=
  ∀ rest place, Delimited rest →
    ∃ position, reader ⟨text ++ rest, place⟩ = .error (.placed cause position)

private theorem bind_of_error (stopped : first cursor = .error stop) (next : α → Reader β) :
    (first >>= next) cursor = .error stop := by
  change Except.bind (first cursor) (fun result => next result.1 result.2) = _
  rw [stopped]
  rfl

/-- A change of the value stops as the reader does. -/
theorem map_of_error (stopped : reader cursor = .error stop) (change : α → β) :
    (change <$> reader) cursor = .error stop := by
  rw [map_eq_pure_bind]
  exact bind_of_error stopped _

/-- What stops the first of two readers stops both. -/
theorem Rejects.bind (rejects : Rejects first text cause) (next : α → Reader β) :
    Rejects (first >>= next) text cause := by
  intro rest place delimited
  obtain ⟨position, stopped⟩ := rejects rest place delimited
  exact ⟨position, bind_of_error stopped next⟩

/-- A failure at a known place passes the construct around it. -/
theorem enclosed_of_placed {close : Cursor → Except Stop Unit × Cursor} {position : Position}
    (stopped : reader cursor = .error (.placed cause position)) :
    enclosed close reader cursor = .error (.placed cause position) := by
  rw [enclosed, stopped]

section Lists

variable {γ : Type} {item : Reader α} {write : γ → List Char} {result : γ → α}
  {elements : List γ}

/-- Items are read up to the first one that is rejected. -/
theorem exists_itemsWithin_eq_error
    (each : ∀ element ∈ elements, Opens (write element) ∧
      (Reads item (write element) (result element) ∨ Rejects item (write element) cause))
    (rejected : ∃ element ∈ elements, Rejects item (write element) cause)
    {steps : Nat} (enough : elements.length < steps) (first : Bool) (rest : List Char)
    (place : Position) :
    ∃ position, itemsWithin item steps first
        ⟨separated first (elements.map write) ++ ']' :: rest, place⟩ =
      .error (.placed cause position) := by
  induction elements generalizing steps first place with
  | nil =>
      obtain ⟨_, member, -⟩ := rejected
      cases member
  | cons element others ih =>
      obtain ⟨steps, rfl⟩ := Nat.exists_eq_add_one.mpr (Nat.zero_lt_of_lt enough)
      obtain ⟨⟨opens, readOrRejected⟩, later⟩ := List.forall_mem_cons.mp each
      have delimited : Delimited (separated false (others.map write) ++ ']' :: rest) :=
        delimited_separated _ (delimited_cons (.inr (.inl rfl)) rest)
      rw [List.map_cons, separated, List.append_assoc, List.append_assoc, itemsWithin,
        bind_of_ok (nextItem_lead opens first _ place)]
      simp only [↓reduceIte]
      by_cases here : Rejects item (write element) cause
      · obtain ⟨position, stopped⟩ := here _ (place.afterChars (lead first)) delimited
        exact ⟨position, bind_of_error stopped _⟩
      · have reads := readOrRejected.resolve_right here
        have amongOthers : ∃ element ∈ others, Rejects item (write element) cause := by
          obtain ⟨other, member, rejects⟩ := rejected
          rcases List.mem_cons.mp member with rfl | inOthers
          · exact absurd rejects here
          · exact ⟨other, inOthers, rejects⟩
        obtain ⟨position, stopped⟩ :=
          ih later amongOthers (Nat.lt_of_succ_lt_succ enough) false _
        rw [bind_of_ok (reads _ _ delimited)]
        exact ⟨position, bind_of_error stopped _⟩

/-- An array is rejected when one of its items is and the others are read or rejected likewise. -/
theorem exists_enclosed_items_eq_error
    (each : ∀ element ∈ elements, Opens (write element) ∧
      (Reads item (write element) (result element) ∨ Rejects item (write element) cause))
    (rejected : ∃ element ∈ elements, Rejects item (write element) cause) (rest : List Char)
    (place : Position) :
    ∃ position, enclosed closeList (items item)
        ⟨separated true (elements.map write) ++ ']' :: rest, place⟩ =
      .error (.placed cause position) := by
  have enough := length_lt_remaining (fun element member => (each element member).1) (']' :: rest)
  obtain ⟨position, stopped⟩ := exists_itemsWithin_eq_error each rejected enough true rest place
  have inner : items item ⟨separated true (elements.map write) ++ ']' :: rest, place⟩ =
      .error (.placed cause position) := stopped
  exact ⟨position, enclosed_of_placed inner⟩

end Lists

/-- A text that is rejected cannot be read to its end, and the failure has a place. -/
theorem exists_run_eq_error_of_rejects (rejects : Rejects reader text cause) :
    ∃ position, run reader (String.ofList text) = .error ⟨cause, some position⟩ := by
  obtain ⟨position, stopped⟩ := rejects [] ⟨1, 0⟩ delimited_nil
  rw [List.append_nil] at stopped
  refine ⟨position, ?_⟩
  rw [run, toEnd, String.toList_ofList, Cursor.start, bind_of_error stopped]

end DeployTree.Json.Reader
