/-! # Dictionaries that keep insertion order

A dictionary binds text keys to values and lists its bindings in the order in
which the keys were first bound. Binding a key again replaces the value where it
stands; erasing a key closes the gap. Attribute tables, variable bindings and
output objects are all of this kind, because their order is visible.
-/

namespace DeployTree

/-- Values bound to text keys, in the order in which the keys were first bound. -/
structure Dictionary (α : Type) where
  entries : List (String × α)

namespace Dictionary

variable {α : Type}

/-- The dictionary without bindings. -/
def empty : Dictionary α := ⟨[]⟩

instance : EmptyCollection (Dictionary α) := ⟨empty⟩

instance : Inhabited (Dictionary α) := ⟨empty⟩

/-- The value of the first entry that carries `key`. -/
def lookup (key : String) : List (String × α) → Option α
  | [] => none
  | (name, value) :: rest => if name = key then some value else lookup key rest

/-- The entries with `key` bound to `value`: in place when bound, else at the end. -/
def bind (key : String) (value : α) : List (String × α) → List (String × α)
  | [] => [(key, value)]
  | (name, old) :: rest =>
      if name = key then (key, value) :: rest else (name, old) :: bind key value rest

/-- The value bound to `key`. -/
def find? (table : Dictionary α) (key : String) : Option α :=
  lookup key table.entries

/-- `table` with `key` bound to `value`. -/
def insert (table : Dictionary α) (key : String) (value : α) : Dictionary α :=
  ⟨bind key value table.entries⟩

/-- `table` without the binding of `key`. -/
def erase (table : Dictionary α) (key : String) : Dictionary α :=
  ⟨table.entries.filter fun entry => entry.1 ≠ key⟩

/-- The number of bindings. -/
def size (table : Dictionary α) : Nat := table.entries.length

/-- Whether nothing is bound. -/
def isEmpty (table : Dictionary α) : Bool := table.entries.isEmpty

/-- The dictionary that a list of pairs describes; a later pair of one key replaces the value. -/
def ofList (pairs : List (String × α)) : Dictionary α :=
  pairs.foldl (fun table pair => table.insert pair.1 pair.2) empty

private theorem lookup_bind (key name : String) (value : α) (entries : List (String × α)) :
    lookup name (bind key value entries) =
      if key = name then some value else lookup name entries := by
  induction entries with
  | nil => simp [bind, lookup]
  | cons entry rest ih =>
      obtain ⟨first, old⟩ := entry
      by_cases same : first = key
      · subst same
        by_cases own : first = name <;> simp [bind, lookup, own]
      · by_cases own : key = name
        · subst own
          simp [bind, lookup, same, ih]
        · simp [bind, lookup, same, own, ih]

/-- A look-up after a write sees that write and nothing else. -/
theorem find?_insert (table : Dictionary α) (key name : String) (value : α) :
    (table.insert key value).find? name = if key = name then some value else table.find? name :=
  lookup_bind key name value table.entries

private theorem lookup_filter_ne (key name : String) (entries : List (String × α)) :
    lookup name (entries.filter fun entry => entry.1 ≠ key) =
      if key = name then none else lookup name entries := by
  induction entries with
  | nil => simp [lookup]
  | cons entry rest ih =>
      obtain ⟨first, old⟩ := entry
      by_cases same : first = key
      · subst same
        by_cases own : first = name
        · simpa [lookup, own] using ih
        · simpa [lookup, own] using ih
      · by_cases own : key = name
        · subst own
          simpa [lookup, same] using ih
        · by_cases hit : first = name
          · subst hit
            simp [lookup, same, Ne.symm same]
          · simpa [lookup, same, own, hit] using ih

/-- Erasing a key unbinds it and nothing else. -/
theorem find?_erase (table : Dictionary α) (key name : String) :
    (table.erase key).find? name = if key = name then none else table.find? name :=
  lookup_filter_ne key name table.entries

end Dictionary

end DeployTree
