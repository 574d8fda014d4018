import DeployTree.Proofs.Schema.Accessors

/-! # Laws of the accessors

A node is written by calls with a name and a setting, any number of them one after another. Of every
kind of node it is listed which attributes hold texts and which hold any value, and the list decides
which calls fail and how (`DeployTree.Attribute.Describes.write_eq_error_iff`). A call that succeeds
shows under its own name alone, and a call that fails shows nowhere
(`DeployTree.WriteCall.read_after`). So after any sequence of calls an attribute has the setting of
the last call on it that succeeded, or what it had at first
(`DeployTree.WriteCall.read_afterAll`). Deployments, relations and columns obey these laws
(`DeployTree.obeyAccessorLaws`).
-/

namespace DeployTree

/-- The attributes of a kind of node, by name: those that hold texts and those that hold any
value. -/
structure Inventory where
  kind : String
  texts : List String
  values : List String

/-- A call that writes a setting under a name. -/
structure WriteCall where
  name : String
  setting : Option Value

namespace Inventory

/-- The names of all attributes. -/
def names (inventory : Inventory) : List String := inventory.texts ++ inventory.values

/-- Which calls fail, and how: those under an unknown name, and those that give an attribute for
texts something else. -/
inductive Refuses (inventory : Inventory) (call : WriteCall) : Error → Prop where
  | unknown (absent : call.name ∉ inventory.names) :
      Refuses inventory call (.unknownAttribute inventory.kind call.name)
  | mismatch {value : Value} (holdsText : call.name ∈ inventory.texts)
      (given : call.setting = some value) (noText : ∀ content, value ≠ .text content) :
      Refuses inventory call (.typeMismatch inventory.kind call.name "string")

end Inventory

namespace Attribute

variable {κ : Type} {table : List (Attribute κ)} {own : Attribute κ} {inventory : Inventory}
  {node : κ} {name : String} {setting : Option Value} {error : Error}

/-- Whether an attribute refuses a setting exactly when it is set and no text. -/
def TakesTexts (own : Attribute κ) : Prop :=
  ∀ setting node, own.set setting node = none ↔
    ∃ value, setting = some value ∧ ∀ content, value ≠ .text content

/-- Whether an attribute takes every setting. -/
def TakesAll (own : Attribute κ) : Prop := ∀ setting node, own.set setting node ≠ none

/-- Whether an attribute takes what an inventory says of its name. -/
structure Takes (inventory : Inventory) (own : Attribute κ) : Prop where
  texts : own.name ∈ inventory.texts → own.TakesTexts
  values : own.name ∈ inventory.values → own.TakesAll

private theorem takes_text {get : κ → Option String} {put : Option String → κ → κ}
    (apart : name ∉ inventory.values) : Takes inventory (text name get put) where
  texts _ setting node := by
    cases setting with
    | none => simp [text]
    | some value => cases value <;> simp [text]
  values listed := absurd listed apart

private theorem takes_any {get : κ → Option Value} {put : Option Value → κ → κ}
    (apart : name ∉ inventory.texts) : Takes inventory (any name get put) where
  texts listed := absurd listed apart
  values _ _ _ := Option.some_ne_none _

/-- Whether an inventory lists the attributes of a table, each with what it takes. -/
structure Describes (inventory : Inventory) (table : List (Attribute κ)) : Prop where
  names : table.map Attribute.name = inventory.names
  takes : ∀ own ∈ table, own.Takes inventory

private theorem Describes.find?_eq_none_iff (describes : Describes inventory table) :
    find? table name = none ↔ name ∉ inventory.names := by
  rw [← describes.names]
  exact Attribute.find?_eq_none_iff

/-- A name can be read exactly when it is listed. -/
theorem Describes.exists_read_iff (describes : Describes inventory table) :
    (∃ setting, read table inventory.kind node name = .ok setting) ↔ name ∈ inventory.names := by
  have absent : find? table name = none ↔ name ∉ inventory.names := describes.find?_eq_none_iff
  rw [read]
  cases found : find? table name with
  | none => simpa using absent.mp found
  | some own => simpa [found] using absent

/-- A write fails exactly as the inventory says. -/
theorem Describes.write_eq_error_iff (describes : Describes inventory table) :
    write table inventory.kind node name setting = .error error ↔
      inventory.Refuses ⟨name, setting⟩ error := by
  unfold write
  cases found : find? table name with
  | none =>
      have absent := describes.find?_eq_none_iff.mp found
      constructor
      · rintro ⟨⟩
        exact .unknown absent
      · rintro (⟨-⟩ | ⟨holdsText, -, -⟩)
        · rfl
        · exact absurd (List.mem_append_left _ holdsText) absent
  | some own =>
      obtain ⟨listed, named⟩ := mem_and_name_of_find? found
      have known : name ∈ inventory.names := by
        rw [← describes.names, ← named]
        exact List.mem_map_of_mem listed
      have texts : name ∈ inventory.texts → own.TakesTexts :=
        named ▸ (describes.takes own listed).texts
      have values : name ∈ inventory.values → own.TakesAll :=
        named ▸ (describes.takes own listed).values
      constructor
      · intro failed
        cases sets : own.set setting node with
        | some written => simp [sets] at failed
        | none =>
            simp only [sets, Except.error.injEq] at failed
            rcases List.mem_append.mp known with holdsText | holdsAny
            · obtain ⟨value, given, noText⟩ := (texts holdsText setting node).mp sets
              exact failed ▸ .mismatch holdsText given noText
            · exact absurd sets (values holdsAny setting node)
      · rintro (⟨absent⟩ | ⟨holdsText, given, noText⟩)
        · exact absurd known absent
        · have sets := (texts holdsText setting node).mpr ⟨_, given, noText⟩
          simp only [sets]

/-- A name can be written exactly when it is listed; every listed one can be unset. -/
theorem Describes.exists_write_iff (describes : Describes inventory table) :
    (∃ setting written, write table inventory.kind node name setting = .ok written) ↔
      name ∈ inventory.names := by
  constructor
  · rintro ⟨setting, written, writes⟩
    by_cases known : name ∈ inventory.names
    · exact known
    · rw [describes.write_eq_error_iff.mpr (.unknown known)] at writes
      cases writes
  · intro known
    cases writes : write table inventory.kind node name none with
    | ok written => exact ⟨none, written, writes⟩
    | error error =>
        rcases describes.write_eq_error_iff.mp writes with absent | ⟨-, given, -⟩
        · exact absurd known absent
        · cases given

end Attribute

/-- What is written under a name is read under it, and what cannot be written changes nothing. -/
class ExactWrites (κ : Type) [Attributed κ] : Prop extends LawfulWrites κ where
  read_written : ∀ {node written : κ} {name : String} {setting : Option Value},
    Attributed.write node name setting = .ok written →
      Attributed.read written name = .ok setting
  left_of_error : ∀ {node : κ} {name : String} {setting : Option Value} {error : Error},
    (Attributed.attempt node name setting).1 = .error error →
      (Attributed.attempt node name setting).2 = node

instance : ExactWrites Deployment where
  read_written ok := Deployment.followsTable.read_self Deployment.lawful ok
  left_of_error failed := Deployment.followsTable.left_of_error failed

instance : ExactWrites Relation where
  read_written ok := Relation.followsTable.read_self Relation.lawful ok
  left_of_error failed := Relation.followsTable.left_of_error failed

instance : ExactWrites Column where
  read_written ok := Column.followsTable.read_self Column.lawful ok
  left_of_error failed := Column.followsTable.left_of_error failed

namespace WriteCall

variable {κ : Type} [Attributed κ]

/-- How a call on a node ends. -/
def outcome (call : WriteCall) (node : κ) : Except Error Unit :=
  (Attributed.attempt node call.name call.setting).1

/-- The node that a call leaves, whether it succeeds or fails. -/
def after (call : WriteCall) (node : κ) : κ :=
  (Attributed.attempt node call.name call.setting).2

/-- The node after several calls, one after another. -/
def afterAll : List WriteCall → κ → κ
  | [], node => node
  | call :: rest, node => afterAll rest (call.after node)

/-- The calls among several that succeed, each on the node as the calls before it leave it. -/
def succeeded : List WriteCall → κ → List WriteCall
  | [], _ => []
  | call :: rest, node =>
      match call.outcome node with
      | .ok () => call :: succeeded rest (call.after node)
      | .error _ => succeeded rest (call.after node)

/-- The last call under a name. -/
def lastOn (name : String) (calls : List WriteCall) : Option WriteCall :=
  calls.reverse.find? fun call => call.name = name

variable {node : κ} {call : WriteCall} {calls rest : List WriteCall} {name : String} {error : Error}

private theorem lastOn_cons :
    lastOn name (call :: rest) =
      (lastOn name rest).or (if call.name = name then some call else none) := by
  rw [lastOn, List.reverse_cons, List.find?_append, List.find?_singleton]
  simp [lastOn]

private theorem write_of_ok (ok : call.outcome node = .ok ()) :
    Attributed.write node call.name call.setting = .ok (call.after node) :=
  Attributed.write_eq_ok_iff.mpr (Prod.ext ok rfl)

/-- A call succeeds exactly when it writes a node. -/
theorem outcome_eq_ok_iff :
    call.outcome node = .ok () ↔
      ∃ written, Attributed.write node call.name call.setting = .ok written := by
  refine ⟨fun ok => ⟨_, write_of_ok ok⟩, ?_⟩
  rintro ⟨written, writes⟩
  exact congrArg Prod.fst (Attributed.write_eq_ok_iff.mp writes)

variable [ExactWrites κ]

/-- A call that fails leaves the node as it was. -/
theorem after_of_error (failed : call.outcome node = .error error) : call.after node = node :=
  ExactWrites.left_of_error failed

/-- What is read after one call: its setting if it succeeds and is under this name, else what was
read before. -/
theorem read_after (call : WriteCall) (node : κ) (name : String) :
    Attributed.read (call.after node) name =
      if call.outcome node = .ok () ∧ call.name = name then .ok call.setting
      else Attributed.read node name := by
  cases ended : call.outcome node with
  | error error => rw [after_of_error ended, if_neg (by simp)]
  | ok _ =>
      have writes := write_of_ok ended
      by_cases same : call.name = name
      · rw [if_pos ⟨rfl, same⟩, ← same, ExactWrites.read_written writes]
      · rw [if_neg fun both => same both.2, LawfulWrites.read_other writes (Ne.symm same)]

/-- What is read after several calls: the setting of the last one under this name that succeeded, or
what was read at first. -/
theorem read_afterAll (calls : List WriteCall) (node : κ) (name : String) :
    Attributed.read (afterAll calls node) name =
      match lastOn name (succeeded calls node) with
      | some call => .ok call.setting
      | none => Attributed.read node name := by
  induction calls generalizing node with
  | nil => rfl
  | cons call rest ih =>
      rw [afterAll, ih, read_after, succeeded]
      cases ended : call.outcome node with
      | error error => simp
      | ok _ =>
          simp only [lastOn_cons, true_and]
          cases lastOn name (succeeded rest (call.after node)) with
          | some later => rfl
          | none => by_cases same : call.name = name <;> simp [same]

end WriteCall

/-- The laws of the accessors of a kind of node, given by the inventory of its attributes. Reading
and writing know exactly the listed names. A call fails exactly when its name is unknown or it gives
a text attribute something else, and then the steps that it took have left the node as it was. After
any calls an attribute has the setting of the last one on it that succeeded, if any, or what it had
at first. -/
structure ObeysAccessorLaws (κ : Type) [Attributed κ] (inventory : Inventory) : Prop where
  reads_iff : ∀ (node : κ) (name : String),
    (∃ setting, Attributed.read node name = .ok setting) ↔ name ∈ inventory.names
  writes_iff : ∀ (node : κ) (name : String),
    (∃ setting, WriteCall.outcome ⟨name, setting⟩ node = .ok ()) ↔ name ∈ inventory.names
  fails_iff : ∀ (node : κ) (call : WriteCall) (error : Error),
    call.outcome node = .error error ↔ inventory.Refuses call error
  unchanged : ∀ (node : κ) (call : WriteCall) (error : Error), call.outcome node = .error error →
    call.after node = node
  reads_last : ∀ (node : κ) (calls : List WriteCall) (name : String),
    Attributed.read (WriteCall.afterAll calls node) name =
      match WriteCall.lastOn name (WriteCall.succeeded calls node) with
      | some call => .ok call.setting
      | none => Attributed.read node name

/-- A kind of node obeys the laws when its accessors go through a table that the inventory
describes. -/
theorem obeysAccessorLaws_of_describes {κ : Type} [Attributed κ] [ExactWrites κ]
    {inventory : Inventory} {table : List (Attribute κ)}
    (follows : FollowsTable κ inventory.kind table)
    (describes : Attribute.Describes inventory table) : ObeysAccessorLaws κ inventory where
  reads_iff node name := by simpa only [follows.read_eq] using describes.exists_read_iff
  writes_iff node name := by
    simpa only [WriteCall.outcome_eq_ok_iff, follows.write_eq] using describes.exists_write_iff
  fails_iff node call error := by
    rw [WriteCall.outcome, ← Attributed.write_eq_error_iff, follows.write_eq]
    exact describes.write_eq_error_iff
  unchanged _ _ _ failed := WriteCall.after_of_error failed
  reads_last node calls name := WriteCall.read_afterAll calls node name

/-- The attributes of deployments. -/
def Deployment.inventory : Inventory where
  kind := "deployment"
  texts := ["environment", "region", "service_role", "script_bucket", "storage_format"]
  values := []

/-- The attributes of relations. -/
def Relation.inventory : Inventory where
  kind := "relation"
  texts := ["relation_name", "full_relation_name", "region", "service_role", "script_bucket",
    "storage_format", "source_relation_prefix", "etl_job_name"]
  values := ["use_inventory"]

/-- The attributes of columns. -/
def Column.inventory : Inventory where
  kind := "attribute"
  texts := ["name", "data_type", "expression", "source_field"]
  values := ["required", "partition"]

private theorem Deployment.describes : Attribute.Describes inventory attributes where
  names := rfl
  takes := by
    rw [attributes]
    simp only [List.forall_mem_cons]
    refine ⟨?_, ?_, ?_, ?_, ?_, List.forall_mem_nil _⟩
    all_goals exact Attribute.takes_text (by decide)

private theorem Relation.describes : Attribute.Describes inventory attributes where
  names := rfl
  takes := by
    rw [attributes]
    simp only [List.forall_mem_cons]
    refine ⟨?_, ?_, ?_, ?_, ?_, ?_, ?_, ?_, ?_, List.forall_mem_nil _⟩
    all_goals first
    | exact Attribute.takes_text (by decide)
    | exact Attribute.takes_any (by decide)

private theorem Column.describes : Attribute.Describes inventory attributes where
  names := rfl
  takes := by
    rw [attributes]
    simp only [List.forall_mem_cons]
    refine ⟨?_, ?_, ?_, ?_, ?_, ?_, List.forall_mem_nil _⟩
    all_goals first
    | exact Attribute.takes_text (by decide)
    | exact Attribute.takes_any (by decide)

/-- **Accessors.** Deployments, relations and columns obey the laws of accessors, each with its own
attributes: calls fail for what is listed only, and every attribute holds what was last written
under its name. -/
theorem obeyAccessorLaws :
    ObeysAccessorLaws Deployment Deployment.inventory ∧
      ObeysAccessorLaws Relation Relation.inventory ∧
      ObeysAccessorLaws Column Column.inventory :=
  ⟨obeysAccessorLaws_of_describes Deployment.followsTable Deployment.describes,
    obeysAccessorLaws_of_describes Relation.followsTable Relation.describes,
    obeysAccessorLaws_of_describes Column.followsTable Column.describes⟩

end DeployTree
