import DeployTree.Json.Printer
import DeployTree.Json.ValueReader

/-! # Reading what was written

A reader *reads* a text as a value when it takes exactly this text from the front of whatever
delimited text it stands in, and gives the value (`DeployTree.Json.Reader.Reads`). Strings are read
as they were written (`DeployTree.Json.Reader.stringBody_flatMap`), arrays when their items are
(`DeployTree.Json.Reader.reads_sequence`), and records when the values of their fields are
(`DeployTree.Json.Reader.reads_record`).
-/

namespace DeployTree.Json

/-- The place after some characters. -/
def Position.afterChars (place : Position) (text : List Char) : Position :=
  text.foldl Position.afterChar place

/-- No character leaves the position. -/
@[simp] theorem Position.afterChars_nil (place : Position) : place.afterChars [] = place := rfl

/-- Characters move the position one after another. -/
@[simp] theorem Position.afterChars_cons (place : Position) (c : Char) (text : List Char) :
    place.afterChars (c :: text) = (place.afterChar c).afterChars text := rfl

/-- A text and then another move the position as both in one. -/
@[simp] theorem Position.afterChars_append (place : Position) (text more : List Char) :
    place.afterChars (text ++ more) = (place.afterChars text).afterChars more :=
  List.foldl_append

/-- Whether a text may come after a value: it is empty or goes on with a comma or a closing
bracket. -/
def Delimited (rest : List Char) : Prop := ∀ c ∈ rest.head?, c = ',' ∨ c = ']' ∨ c = '\x7d'

/-- Whether a text may come where an item is due: it starts neither with a blank nor with the end of
an array. -/
def Opens (text : List Char) : Prop :=
  ∃ c rest, text = c :: rest ∧ Cursor.isBlank c = false ∧ c ≠ ']'

/-- The end of the document may come after a value. -/
theorem delimited_nil : Delimited [] := fun _ member => nomatch member

/-- A comma or a closing bracket may come after a value. -/
theorem delimited_cons {c : Char} (delimits : c = ',' ∨ c = ']' ∨ c = '\x7d')
    (rest : List Char) : Delimited (c :: rest) := by
  intro first member
  obtain rfl : c = first := Option.some.inj member
  exact delimits

/-- What stands before an item: a comma, unless the item is the first one. -/
def lead (first : Bool) : List Char := if first then [] else [',']

/-- Texts with what stands before each of them. -/
def separated : Bool → List (List Char) → List Char
  | _, [] => []
  | first, text :: rest => lead first ++ (text ++ separated false rest)

private theorem itemChars_eq_separated (items : List Json) :
    itemChars items = separated true (items.map chars) := by
  induction items with
  | nil => rfl
  | cons item rest ih =>
      cases rest with
      | nil => exact (List.append_nil _).symm
      | cons next others =>
          rw [itemChars, ih]
          rfl

/-- An array is printed as its items between brackets, with commas between them. -/
theorem chars_array (items : List Json) :
    (array items).chars = '[' :: (separated true (items.map chars) ++ [']']) := by
  rw [chars, itemChars_eq_separated]

/-- The text of a member: its name, a colon and its value. -/
def memberText (member : String × Json) : List Char := stringChars member.1 ++ ':' :: member.2.chars

private theorem memberChars_eq_separated (members : List (String × Json)) :
    memberChars members = separated true (members.map memberText) := by
  induction members with
  | nil => rfl
  | cons member rest ih =>
      cases rest with
      | nil => exact (List.append_nil _).symm
      | cons next others =>
          rw [memberChars, ih]
          exact (List.append_assoc (stringChars member.1) (':' :: member.2.chars)
            (separated false ((next :: others).map memberText))).symm

private theorem chars_object (members : List (String × Json)) :
    (object members).chars = '\x7b' :: (separated true (members.map memberText) ++ ['\x7d']) := by
  rw [chars, memberChars_eq_separated]

/-- An object may come where an item is due. -/
theorem opens_object (members : List (String × Json)) : Opens (object members).chars :=
  ⟨'\x7b', _, rfl, rfl, by decide⟩

/-- Separated texts that are not empty are as long as their number at least. -/
theorem length_le_length_separated {texts : List (List Char)} (filled : ∀ text ∈ texts, text ≠ [])
    (first : Bool) : texts.length ≤ (separated first texts).length := by
  induction texts generalizing first with
  | nil => exact Nat.zero_le _
  | cons text rest ih =>
      have own := List.length_pos_iff.mpr (filled text List.mem_cons_self)
      have later := ih (fun other member => filled other (List.mem_cons_of_mem _ member)) false
      simp only [separated, List.length_cons, List.length_append]
      omega

/-- The number of characters that are left bounds what is still to be read. -/
theorem lt_length_append_add_one {count : Nat} {text : List Char} (long : count ≤ text.length)
    (rest : List Char) : count < (text ++ rest).length + 1 := by
  rw [List.length_append]
  omega

/-- What comes after an item is the next comma or what comes after all items. -/
theorem delimited_separated (texts : List (List Char)) {rest : List Char} (after : Delimited rest) :
    Delimited (separated false texts ++ rest) := by
  cases texts with
  | nil => exact after
  | cons text others => exact delimited_cons (.inl rfl) _

namespace Reader

variable {α β : Type} {first reader : Reader α} {next : α → Reader β} {cursor after : Cursor}
  {value : α} {text rest : List Char} {place : Position} {c : Char}

/-- Whether a reader takes a text from the front of any delimited text and gives a value. -/
def Reads (reader : Reader α) (text : List Char) (value : α) : Prop :=
  ∀ rest place, Delimited rest →
    reader ⟨text ++ rest, place⟩ = .ok (value, ⟨rest, place.afterChars text⟩)

/-- Of two readers in a row the second starts where the first stops. -/
theorem bind_of_ok (ok : first cursor = .ok (value, after)) (next : α → Reader β) :
    (first >>= next) cursor = next value after := by
  change Except.bind (first cursor) (fun result => next result.1 result.2) = _
  rw [ok]
  rfl

/-- A change of the value reads what the reader reads. -/
theorem map_of_ok (ok : reader cursor = .ok (value, after)) (change : α → β) :
    (change <$> reader) cursor = .ok (change value, after) := by
  rw [map_eq_pure_bind, bind_of_ok ok]
  rfl

/-- A change of the value takes the same text. -/
theorem Reads.map (reads : Reads reader text value) (change : α → β) :
    Reads (change <$> reader) text (change value) :=
  fun rest place delimited => map_of_ok (reads rest place delimited) change

/-- Where no blank stands, the next character is the one past the blanks. -/
theorem peekPastBlanks_cons (solid : Cursor.isBlank c = false) :
    peekPastBlanks ⟨c :: rest, place⟩ = .ok (some c, ⟨c :: rest, place⟩) := by
  have stays : Cursor.skipBlanks ⟨c :: rest, place⟩ = ⟨c :: rest, place⟩ := by
    simp [Cursor.skipBlanks, Cursor.skip, solid]
  change Except.ok ((Cursor.skipBlanks ⟨c :: rest, place⟩).rest.head?,
    Cursor.skipBlanks ⟨c :: rest, place⟩) = _
  rw [stays]
  rfl

/-- A look at the next character takes nothing. -/
theorem peek_cons (c : Char) (rest : List Char) (place : Position) :
    peek ⟨c :: rest, place⟩ = .ok (some c, ⟨c :: rest, place⟩) := rfl

/-- A step takes one character. -/
theorem advance_cons (c : Char) (rest : List Char) (place : Position) :
    advance ⟨c :: rest, place⟩ = .ok ((), ⟨rest, place.afterChar c⟩) := rfl

private theorem enclosed_of_ok {close : Cursor → Except Stop Unit × Cursor} {last : Cursor}
    (ok : reader cursor = .ok (value, after)) (closes : close after = (.ok (), last)) :
    enclosed close reader cursor = .ok (value, last) := by
  rw [enclosed, ok]
  simp only [closes]

/-- A word is taken letter by letter. -/
theorem letters_append (word rest : List Char) (place : Position) :
    letters word ⟨word ++ rest, place⟩ = .ok ((), ⟨rest, place.afterChars word⟩) := by
  induction word generalizing place with
  | nil => rfl
  | cons c word ih =>
      rw [List.cons_append, letters, bind_of_ok (peek_cons c _ place)]
      simp only [↓reduceIte]
      exact ih (place.afterChar c)

section Strings

/-- The escape of a control character spells its code point. -/
theorem hexUnit_control : ∀ code < 32,
    hexUnit '0' '0' (hexDigit (code / 16)) (hexDigit (code % 16)) = some code := by
  decide

private theorem stringStep_plain (ordinary : 32 ≤ c.toNat) (notQuote : c ≠ '"')
    (notBackslash : c ≠ '\\') (rest : List Char) (place : Position) :
    stringStep ⟨c :: rest, place⟩ = .ok (some c, ⟨rest, place.afterChar c⟩) := by
  rw [stringStep, bind_of_ok (peek_cons c rest place)]
  simp only [Nat.not_lt.mpr ordinary, ↓reduceIte]
  rfl

private theorem stringStep_control (control : c.toNat < 32) (rest : List Char) (place : Position) :
    stringStep ⟨['\\', 'u', '0', '0', hexDigit (c.toNat / 16), hexDigit (c.toNat % 16)] ++ rest,
        place⟩ =
      .ok (some c, ⟨rest, place.afterChars
        ['\\', 'u', '0', '0', hexDigit (c.toNat / 16), hexDigit (c.toNat % 16)]⟩) := by
  have unit (place : Position) :
      escapedUnit ⟨'0' :: '0' :: hexDigit (c.toNat / 16) :: hexDigit (c.toNat % 16) :: rest,
          place⟩ =
        .ok (c.toNat, ⟨rest, place.afterChars
          ['0', '0', hexDigit (c.toNat / 16), hexDigit (c.toNat % 16)]⟩) := by
    simp only [escapedUnit, hexUnit_control _ control]
    rfl
  have point (place : Position) :
      escapedCodePoint ⟨'0' :: '0' :: hexDigit (c.toNat / 16) :: hexDigit (c.toNat % 16) :: rest,
          place⟩ =
        .ok (c, ⟨rest, place.afterChars
          ['0', '0', hexDigit (c.toNat / 16), hexDigit (c.toNat % 16)]⟩) := by
    have notTrailing : isTrailingSurrogate c.toNat = false := by
      simp [isTrailingSurrogate]
      omega
    have notLeading : isLeadingSurrogate c.toNat = false := by
      simp [isLeadingSurrogate]
      omega
    rw [escapedCodePoint, bind_of_ok (unit place), notTrailing, notLeading]
    simp only [Bool.false_eq_true, ↓reduceIte, Char.ofNat_toNat]
    rfl
  have letter (place : Position) :
      escaped ⟨'u' :: '0' :: '0' :: hexDigit (c.toNat / 16) :: hexDigit (c.toNat % 16) :: rest,
          place⟩ =
        .ok (c, ⟨rest, place.afterChars
          ['u', '0', '0', hexDigit (c.toNat / 16), hexDigit (c.toNat % 16)]⟩) :=
    point (place.afterChar 'u')
  exact map_of_ok (letter _) some

/-- A character of a string is read as it was written. -/
theorem stringStep_stringChar (c : Char) (rest : List Char) (place : Position) :
    stringStep ⟨stringChar c ++ rest, place⟩ =
      .ok (some c, ⟨rest, place.afterChars (stringChar c)⟩) := by
  unfold stringChar
  split
  -- Seven characters have a letter for their escape.
  iterate 7 rfl
  by_cases control : c.toNat < 32
  · rw [if_pos control]
    exact stringStep_control control rest place
  · rw [if_neg control]
    exact stringStep_plain (Nat.not_lt.mp control) ‹_› ‹_› rest place

private theorem stringWithin_flatMap {content : List Char} {steps : Nat}
    (enough : content.length < steps) (done rest : List Char) (place : Position) :
    stringWithin steps done ⟨content.flatMap stringChar ++ '"' :: rest, place⟩ =
      .ok (done.reverse ++ content,
        ⟨rest, place.afterChars (content.flatMap stringChar ++ ['"'])⟩) := by
  -- What has been read is kept last first, so each character goes to its front.
  induction content generalizing steps done place with
  | nil =>
      obtain ⟨steps, rfl⟩ := Nat.exists_eq_add_one.mpr (Nat.zero_lt_of_lt enough)
      rw [List.append_nil]
      rfl
  | cons c content ih =>
      obtain ⟨steps, rfl⟩ := Nat.exists_eq_add_one.mpr (Nat.zero_lt_of_lt enough)
      have later := ih (Nat.lt_of_succ_lt_succ enough) (c :: done)
        (place.afterChars (stringChar c))
      rw [List.flatMap_cons, List.append_assoc, stringWithin,
        bind_of_ok (stringStep_stringChar c _ place)]
      simp only [later, List.reverse_cons, List.append_assoc, List.singleton_append,
        Position.afterChars_append]

private theorem length_le_length_flatMap_stringChar (content : List Char) :
    content.length ≤ (content.flatMap stringChar).length := by
  have filled (c : Char) : 1 ≤ (stringChar c).length := by
    unfold stringChar
    split
    iterate 7 exact Nat.le_add_left _ _
    split <;> exact Nat.le_add_left _ _
  induction content with
  | nil => exact Nat.le_refl _
  | cons c content ih =>
      have own := filled c
      rw [List.flatMap_cons, List.length_append, List.length_cons]
      omega

/-- The content of a string is read as it was written. -/
theorem stringBody_flatMap (content : String) (rest : List Char) (place : Position) :
    stringBody ⟨content.toList.flatMap stringChar ++ '"' :: rest, place⟩ =
      .ok (content, ⟨rest, place.afterChars (content.toList.flatMap stringChar ++ ['"'])⟩) := by
  have count : remaining ⟨content.toList.flatMap stringChar ++ '"' :: rest, place⟩ =
      .ok ((content.toList.flatMap stringChar ++ '"' :: rest).length,
        ⟨content.toList.flatMap stringChar ++ '"' :: rest, place⟩) := rfl
  have enough := lt_length_append_add_one
    (length_le_length_flatMap_stringChar content.toList) ('"' :: rest)
  rw [stringBody, bind_of_ok count, map_of_ok (stringWithin_flatMap enough [] rest place),
    List.reverse_nil, List.nil_append, String.ofList_toList]

end Strings

section Lists

private theorem nextItem_close (first : Bool) (rest : List Char) (place : Position) :
    nextItem first ⟨']' :: rest, place⟩ = .ok (false, ⟨']' :: rest, place⟩) := by
  rw [nextItem, bind_of_ok (peekPastBlanks_cons rfl)]
  rfl

/-- An item is found after what stands before it. -/
theorem nextItem_lead (opens : Opens text) (first : Bool) (rest : List Char) (place : Position) :
    nextItem first ⟨lead first ++ (text ++ rest), place⟩ =
      .ok (true, ⟨text ++ rest, place.afterChars (lead first)⟩) := by
  obtain ⟨c, tail, rfl, solid, notClose⟩ := opens
  cases first with
  | true =>
      rw [lead, if_pos rfl, List.nil_append, List.cons_append, nextItem,
        bind_of_ok (peekPastBlanks_cons solid)]
      simp only [↓reduceIte]
      rfl
  | false =>
      rw [lead, if_neg Bool.false_ne_true, List.cons_append, nextItem,
        bind_of_ok (peekPastBlanks_cons rfl)]
      change (advance >>= _) _ = _
      rw [bind_of_ok (advance_cons ',' _ place), List.nil_append, List.cons_append,
        bind_of_ok (peekPastBlanks_cons solid)]
      simp only
      rfl

variable {γ : Type} {item : Reader α} {write : γ → List Char} {result : γ → α}
  {elements : List γ}

/-- Items are read one after another, each as it was written. -/
theorem itemsWithin_separated
    (each : ∀ element ∈ elements, Opens (write element) ∧
      Reads item (write element) (result element))
    {steps : Nat} (enough : elements.length < steps) (first : Bool) (rest : List Char)
    (place : Position) :
    itemsWithin item steps first
        ⟨separated first (elements.map write) ++ ']' :: rest, place⟩ =
      .ok (elements.map result,
        ⟨']' :: rest, place.afterChars (separated first (elements.map write))⟩) := by
  induction elements generalizing steps first place with
  | nil =>
      obtain ⟨steps, rfl⟩ := Nat.exists_eq_add_one.mpr (Nat.zero_lt_of_lt enough)
      rw [List.map_nil, separated, List.nil_append, itemsWithin,
        bind_of_ok (nextItem_close first rest place)]
      rfl
  | cons element others ih =>
      obtain ⟨steps, rfl⟩ := Nat.exists_eq_add_one.mpr (Nat.zero_lt_of_lt enough)
      obtain ⟨⟨opens, reads⟩, later⟩ := List.forall_mem_cons.mp each
      have delimited : Delimited (separated false (others.map write) ++ ']' :: rest) :=
        delimited_separated _ (delimited_cons (.inr (.inl rfl)) rest)
      rw [List.map_cons, separated, List.append_assoc, List.append_assoc, itemsWithin,
        bind_of_ok (nextItem_lead opens first _ place)]
      simp only [↓reduceIte]
      rw [bind_of_ok (reads _ _ delimited),
        bind_of_ok (ih later (Nat.lt_of_succ_lt_succ enough) false _)]
      simp only [Position.afterChars_append]
      rfl

/-- What is left of an array has room for all of its items. -/
theorem length_lt_remaining (opens : ∀ element ∈ elements, Opens (write element))
    (rest : List Char) :
    elements.length < (separated true (elements.map write) ++ rest).length + 1 := by
  have filled : ∀ text ∈ elements.map write, text ≠ [] := by
    intro text member
    obtain ⟨element, inside, rfl⟩ := List.mem_map.mp member
    obtain ⟨c, tail, same, -⟩ := opens element inside
    rw [same]
    exact List.cons_ne_nil c tail
  have long := length_le_length_separated filled true
  rw [List.length_map] at long
  exact lt_length_append_add_one long rest

/-- The items of an array are read up to its end. -/
theorem enclosed_items
    (each : ∀ element ∈ elements, Opens (write element) ∧
      Reads item (write element) (result element)) (rest : List Char) (place : Position) :
    enclosed closeList (items item)
        ⟨separated true (elements.map write) ++ ']' :: rest, place⟩ =
      .ok (elements.map result,
        ⟨rest, place.afterChars (separated true (elements.map write) ++ [']'])⟩) := by
  have enough := length_lt_remaining (fun element member => (each element member).1) (']' :: rest)
  have inner : items item ⟨separated true (elements.map write) ++ ']' :: rest, place⟩ = _ :=
    itemsWithin_separated each enough true rest place
  rw [Position.afterChars_append]
  exact enclosed_of_ok inner rfl

/-- **Arrays.** An array is read when its items are. -/
theorem reads_sequence {toJson : α → Json} {elements : List α}
    (each : ∀ element ∈ elements, Opens (toJson element).chars ∧
      Reads item (toJson element).chars element) :
    Reads (sequence item) (Json.array (elements.map toJson)).chars elements := by
  intro rest place _
  have inner := enclosed_items each rest (place.afterChar '[')
  rw [List.map_id'] at inner
  rw [chars_array, List.map_map, List.cons_append, sequence, bind_of_ok (peekPastBlanks_cons rfl),
    List.append_assoc]
  exact inner

end Lists

section Records

variable {σ : Type}

private theorem nextKey_close (first : Bool) (rest : List Char) (place : Position) :
    nextKey first ⟨'\x7d' :: rest, place⟩ = .ok (false, ⟨'\x7d' :: rest, place⟩) := by
  rw [nextKey, bind_of_ok (peekPastBlanks_cons rfl)]
  rfl

/-- A name is found after what stands before it. -/
theorem nextKey_lead (first : Bool) (rest : List Char) (place : Position) :
    nextKey first ⟨lead first ++ '"' :: rest, place⟩ =
      .ok (true, ⟨'"' :: rest, place.afterChars (lead first)⟩) := by
  cases first with
  | true =>
      rw [lead, if_pos rfl, List.nil_append, nextKey, bind_of_ok (peekPastBlanks_cons rfl)]
      rfl
  | false =>
      rw [lead, if_neg Bool.false_ne_true, List.cons_append, nextKey,
        bind_of_ok (peekPastBlanks_cons rfl)]
      change (advance >>= _) _ = _
      rw [bind_of_ok (advance_cons ',' _ place), List.nil_append,
        bind_of_ok (peekPastBlanks_cons rfl)]
      rfl

private theorem colon_cons (rest : List Char) (place : Position) :
    colon ⟨':' :: rest, place⟩ = .ok ((), ⟨rest, place.afterChar ':'⟩) := by
  rw [colon, bind_of_ok (peekPastBlanks_cons rfl)]
  rfl

/-- Whether members give the fields of a record their values, one after another. A member has the
name of its field, and its text is read as a change of the record. -/
inductive Fills : List (Field σ) → List (String × Json) → σ → σ → Prop
  | nil (record : σ) : Fills [] [] record record
  | cons {field : Field σ} {json : Json} {put : σ → σ} {fields : List (Field σ)}
      {members : List (String × Json)} {record result : σ} (reads : Reads field.read json.chars put)
      (later : Fills fields members (put record) result) :
      Fills (field :: fields) ((field.name, json) :: members) record result

variable {fields : List (Field σ)} {members : List (String × Json)}

/-- A field is found by its name where no other field has that name. -/
theorem find?_eq_some_of_mem (distinct : (fields.map Field.name).Nodup) {field : Field σ}
    (member : field ∈ fields) :
    (fields.find? fun other => other.name = field.name) = some field := by
  induction fields with
  | nil => cases member
  | cons other rest ih =>
      rw [List.map_cons, List.nodup_cons] at distinct
      rw [List.find?_cons]
      rcases List.mem_cons.mp member with rfl | later
      · simp
      · have apart : other.name ≠ field.name := fun same =>
          distinct.1 (same ▸ List.mem_map_of_mem later)
        simp only [apart, decide_false]
        exact ih distinct.2 later

/-- The fields of a record are read one after another, each as it was written. -/
theorem fieldsByName_separated (distinct : (fields.map Field.name).Nodup) {later : List (Field σ)}
    {record result : σ} (fills : Fills later members record result)
    (known : ∀ field ∈ later, field ∈ fields) (once : (later.map Field.name).Nodup)
    {seen : List String} (fresh : ∀ field ∈ later, field.name ∉ seen) {steps : Nat}
    (enough : members.length < steps) (first : Bool) (rest : List Char) (place : Position) :
    fieldsByName fields steps first seen record
        ⟨separated first (members.map memberText) ++ '\x7d' :: rest, place⟩ =
      .ok (result, ⟨'\x7d' :: rest,
        place.afterChars (separated first (members.map memberText))⟩) := by
  -- What is still to come has names of its own, so none of them is among those seen.
  induction fills generalizing seen steps first place with
  | nil record =>
      obtain ⟨steps, rfl⟩ := Nat.exists_eq_add_one.mpr (Nat.zero_lt_of_lt enough)
      rw [List.map_nil, separated, List.nil_append, fieldsByName,
        bind_of_ok (nextKey_close first rest place)]
      rfl
  | @cons field json put later members record result reads _ ih =>
      obtain ⟨steps, rfl⟩ := Nat.exists_eq_add_one.mpr (Nat.zero_lt_of_lt enough)
      obtain ⟨knownField, knownLater⟩ := List.forall_mem_cons.mp known
      obtain ⟨freshField, freshLater⟩ := List.forall_mem_cons.mp fresh
      rw [List.map_cons, List.nodup_cons] at once
      have stillFresh : ∀ other ∈ later, other.name ∉ field.name :: seen := by
        intro other member again
        rcases List.mem_cons.mp again with same | before
        · exact once.1 (same ▸ List.mem_map_of_mem member)
        · exact freshLater other member before
      let tail := separated false (members.map memberText)
      have delimited : Delimited (tail ++ '\x7d' :: rest) :=
        delimited_separated _ (delimited_cons (.inr (.inr rfl)) rest)
      have whole : separated first (((field.name, json) :: members).map memberText) =
          lead first ++ '"' :: (field.name.toList.flatMap stringChar ++
            '"' :: ':' :: (json.chars ++ tail)) := by
        simp [separated, memberText, stringChars, tail]
      rw [whole]
      simp only [List.append_assoc, List.cons_append]
      rw [fieldsByName, bind_of_ok (nextKey_lead first _ place)]
      simp only [↓reduceIte]
      rw [bind_of_ok (advance_cons '"' _ _), bind_of_ok (stringBody_flatMap _ _ _),
        find?_eq_some_of_mem distinct knownField]
      simp only [freshField, ↓reduceIte]
      rw [bind_of_ok (colon_cons _ _), bind_of_ok (reads _ _ delimited),
        ih knownLater once.2 stillFresh (Nat.lt_of_succ_lt_succ enough) false]
      simp [tail]

/-- **Records.** An object is read as a record when its members give all fields of the record their
values, in order. -/
theorem reads_record (distinct : (fields.map Field.name).Nodup) {unset result : σ}
    (fills : Fills fields members unset result) (name : String) :
    Reads (record name fields unset) (Json.object members).chars result := by
  have filled : ∀ text ∈ members.map memberText, text ≠ [] := by
    intro text member
    obtain ⟨_, -, rfl⟩ := List.mem_map.mp member
    exact List.cons_ne_nil _ _
  have long := length_le_length_separated filled true
  rw [List.length_map] at long
  intro rest place _
  have enough := lt_length_append_add_one long ('\x7d' :: rest)
  have body := fieldsByName_separated distinct fills (fun _ => id) distinct
    (fun _ _ => List.not_mem_nil) enough true rest (place.afterChar '\x7b')
  rw [chars_object, List.cons_append, record, bind_of_ok (peekPastBlanks_cons rfl),
    List.append_assoc, Position.afterChars_cons, Position.afterChars_append]
  exact enclosed_of_ok body rfl

end Records

/-- A text is read to its end. -/
theorem run_of_reads (reads : Reads reader text value) :
    run reader (String.ofList text) = .ok value := by
  have whole := reads [] ⟨1, 0⟩ delimited_nil
  rw [List.append_nil] at whole
  rw [run, toEnd, String.toList_ofList, Cursor.start, bind_of_ok whole]
  rfl

end Reader

end DeployTree.Json
