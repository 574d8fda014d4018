import DeployTree.Proofs.Schema.Table

/-! # Reading back what was written

Attributes are read and written by name. A write under a name shows under this name alone, and under
it nothing but the written value can be read (`DeployTree.LawfulWrites`). For the node types that
have a table of attributes this follows from the entries of the table one by one
(`DeployTree.Attribute.Lawful`); probes keep their values in a dictionary.
-/

namespace DeployTree

/-- What is read after a write: under its name the written value, if any, and under other names what
was read before. A write does not change what falls back to the parent. -/
class LawfulWrites (κ : Type) [Attributed κ] : Prop where
  read_self : ∀ {node written : κ} {name : String} {setting value : Option Value},
    Attributed.write node name setting = .ok written →
      Attributed.read written name = .ok value → value = setting
  read_other : ∀ {node written : κ} {name other : String} {setting : Option Value},
    Attributed.write node name setting = .ok written → other ≠ name →
      Attributed.read written other = Attributed.read node other
  inherits_eq : ∀ {node written : κ} {name : String} {setting : Option Value},
    Attributed.write node name setting = .ok written →
      Attributed.inherits written = Attributed.inherits node

namespace Attribute

variable {κ : Type} {table : List (Attribute κ)} {kind name other : String}
  {setting : Option Value} {node written : κ} {own : Attribute κ}

/-- Whether every entry of a table gets what it has set, and no other entry does. -/
def Lawful (table : List (Attribute κ)) : Prop :=
  ∀ own ∈ table, ∀ setting node written, own.set setting node = some written →
    own.get written = setting ∧
      ∀ other ∈ table, other.name ≠ own.name → other.get written = other.get node

/-- Whether an entry gets what it has set, and no other entry of a table does. -/
def Apart (table : List (Attribute κ)) (own : Attribute κ) : Prop :=
  ∀ setting node written, own.set setting node = some written →
    own.get written = setting ∧
      ∀ other ∈ table, other.name ≠ own.name → other.get written = other.get node

/-- An attribute that holds a text is set to a text or to nothing. -/
theorem exists_of_set_text {get : κ → Option String} {put : Option String → κ → κ}
    (sets : (text name get put).set setting node = some written) :
    ∃ content, setting = content.map .text ∧ written = put content node := by
  match setting, sets with
  | none, sets => exact ⟨none, rfl, (Option.some.inj sets).symm⟩
  | some (.text content), sets => exact ⟨some content, rfl, (Option.some.inj sets).symm⟩

private theorem eq_of_set_any {get : κ → Option Value} {put : Option Value → κ → κ}
    (sets : (any name get put).set setting node = some written) : written = put setting node :=
  (Option.some.inj sets).symm

private theorem apart_text {get : κ → Option String} {put : Option String → κ → κ}
    (gets : ∀ content node, get (put content node) = content)
    (others : ∀ other ∈ table, other.name ≠ name →
      ∀ content node, other.get (put content node) = other.get node) :
    (text name get put).Apart table := by
  intro setting node written sets
  obtain ⟨content, rfl, rfl⟩ := exists_of_set_text sets
  refine ⟨?_, fun other listed apart => others other listed apart content node⟩
  change (get (put content node)).map Value.text = content.map Value.text
  rw [gets]

private theorem apart_any {get : κ → Option Value} {put : Option Value → κ → κ}
    (gets : ∀ value node, get (put value node) = value)
    (others : ∀ other ∈ table, other.name ≠ name →
      ∀ value node, other.get (put value node) = other.get node) :
    (any name get put).Apart table := by
  intro setting node written sets
  obtain rfl := eq_of_set_any sets
  exact ⟨gets setting node, fun other listed apart => others other listed apart setting node⟩

private theorem exists_set_of_write (ok : write table kind node name setting = .ok written) :
    ∃ own, find? table name = some own ∧ own.set setting node = some written := by
  unfold write at ok
  cases found : find? table name with
  | none => simp [found] at ok
  | some own =>
      cases sets : own.set setting node with
      | none => simp [found, sets] at ok
      | some other =>
          simp only [found, sets, Except.ok.injEq] at ok
          exact ⟨own, rfl, ok ▸ sets⟩

/-- What a table has under a name is an entry of that name. -/
theorem mem_and_name_of_find? (found : find? table name = some own) :
    own ∈ table ∧ own.name = name :=
  ⟨List.mem_of_find?_eq_some found, by simpa using List.find?_some found⟩

private theorem Lawful.read_self (lawful : Lawful table)
    (ok : write table kind node name setting = .ok written) :
    read table kind written name = .ok setting := by
  obtain ⟨own, found, sets⟩ := exists_set_of_write ok
  rw [read, found]
  exact congrArg Except.ok (lawful own (mem_and_name_of_find? found).1 _ _ _ sets).1

private theorem Lawful.read_other (lawful : Lawful table)
    (ok : write table kind node name setting = .ok written) (apart : other ≠ name) :
    read table kind written other = read table kind node other := by
  obtain ⟨own, found, sets⟩ := exists_set_of_write ok
  obtain ⟨listed, named⟩ := mem_and_name_of_find? found
  unfold read
  cases looked : find? table other with
  | none => rfl
  | some also =>
      obtain ⟨alsoListed, alsoNamed⟩ := mem_and_name_of_find? looked
      refine congrArg Except.ok ((lawful own listed _ _ _ sets).2 also alsoListed ?_)
      rwa [alsoNamed, named]

end Attribute

namespace FollowsTable

variable {κ : Type} [Attributed κ] {kind name other : String} {table : List (Attribute κ)}
  {node written : κ} {setting : Option Value}

/-- What a write has set is what a read gives. -/
theorem read_self (follows : FollowsTable κ kind table) (lawful : Attribute.Lawful table)
    (ok : Attributed.write node name setting = .ok written) :
    Attributed.read written name = .ok setting := by
  rw [follows.write_eq] at ok
  rw [follows.read_eq]
  exact lawful.read_self ok

private theorem read_other (follows : FollowsTable κ kind table) (lawful : Attribute.Lawful table)
    (ok : Attributed.write node name setting = .ok written) (apart : other ≠ name) :
    Attributed.read written other = Attributed.read node other := by
  rw [follows.write_eq] at ok
  rw [follows.read_eq, follows.read_eq]
  exact lawful.read_other ok apart

end FollowsTable

/-- The attributes of a deployment are kept apart. -/
theorem Deployment.lawful : Attribute.Lawful attributes := by
  have apart : ∀ own ∈ attributes, own.Apart attributes := by
    rw [attributes]
    simp only [List.forall_mem_cons]
    refine ⟨?_, ?_, ?_, ?_, ?_, List.forall_mem_nil _⟩
    all_goals exact Attribute.apart_text (fun _ _ => rfl) (by simp [Attribute.text])
  exact apart

/-- The attributes of a relation are kept apart. -/
theorem Relation.lawful : Attribute.Lawful attributes := by
  have apart : ∀ own ∈ attributes, own.Apart attributes := by
    rw [attributes]
    simp only [List.forall_mem_cons]
    refine ⟨?_, ?_, ?_, ?_, ?_, ?_, ?_, ?_, ?_, List.forall_mem_nil _⟩
    all_goals first
    | exact Attribute.apart_text (fun _ _ => rfl) (by simp [Attribute.text, Attribute.any])
    | exact Attribute.apart_any (fun _ _ => rfl) (by simp [Attribute.text, Attribute.any])
  exact apart

/-- The attributes of a column are kept apart. -/
theorem Column.lawful : Attribute.Lawful attributes := by
  have apart : ∀ own ∈ attributes, own.Apart attributes := by
    rw [attributes]
    simp only [List.forall_mem_cons]
    refine ⟨?_, ?_, ?_, ?_, ?_, ?_, List.forall_mem_nil _⟩
    all_goals first
    | exact Attribute.apart_text (fun _ _ => rfl) (by simp [Attribute.text, Attribute.any])
    | exact Attribute.apart_any (fun _ _ => rfl) (by simp [Attribute.text, Attribute.any])
  exact apart

instance : LawfulWrites Deployment where
  read_self ok reads :=
    Except.ok.inj (reads.symm.trans (Deployment.followsTable.read_self Deployment.lawful ok))
  read_other ok apart := Deployment.followsTable.read_other Deployment.lawful ok apart
  inherits_eq _ := rfl

instance : LawfulWrites Column where
  read_self ok reads :=
    Except.ok.inj (reads.symm.trans (Column.followsTable.read_self Column.lawful ok))
  read_other ok apart := Column.followsTable.read_other Column.lawful ok apart
  inherits_eq _ := rfl

instance : LawfulWrites Relation where
  read_self ok reads :=
    Except.ok.inj (reads.symm.trans (Relation.followsTable.read_self Relation.lawful ok))
  read_other ok apart := Relation.followsTable.read_other Relation.lawful ok apart
  inherits_eq _ := rfl

private theorem Probe.find?_write (probe : Probe) (name other : String) (setting : Option Value) :
    (probe.write name setting).values.find? other =
      if name = other then setting else probe.values.find? other := by
  cases setting with
  | none => exact probe.values.find?_erase name other
  | some value => exact probe.values.find?_insert name other value

private theorem Probe.strict_write (probe : Probe) (name : String) (setting : Option Value) :
    (probe.write name setting).strict = probe.strict := by
  cases setting <;> rfl

instance : LawfulWrites Probe where
  read_self := by
    intro node written name setting value ok reads
    obtain rfl : node.write name setting = written := Except.ok.inj ok
    change Probe.read _ _ = _ at reads
    rw [Probe.read, Probe.find?_write, if_pos rfl, Probe.strict_write] at reads
    cases setting with
    | some own => exact (Except.ok.inj reads).symm
    | none =>
        simp only at reads
        split at reads
        · cases reads
        · exact (Except.ok.inj reads).symm
  read_other := by
    intro node written name other setting ok apart
    obtain rfl : node.write name setting = written := Except.ok.inj ok
    change Probe.read _ _ = Probe.read _ _
    rw [Probe.read, Probe.read, Probe.find?_write, if_neg (Ne.symm apart), Probe.strict_write]
  inherits_eq := by
    intro node written name setting ok
    obtain rfl : node.write name setting = written := Except.ok.inj ok
    cases setting <;> rfl

end DeployTree
