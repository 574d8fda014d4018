import DeployTree.Proofs.Environment.Filling
import DeployTree.Proofs.Schema.Accessors
import DeployTree.Proofs.Schema.Breach

/-! # Interpolating attributes up to the first failure

Attributes are interpolated in the order in which they are named, each read, filled and written
before the next is read. The work ends at the first name that the node does not know or whose text
has a placeholder without a value. What was written before that stays, and nothing else has changed
(`DeployTree.Interpolator.StopsCleanly`). This holds for every node type that is nothing but a table
of attributes (`DeployTree.Interpolator.exists_stopsCleanly`), so for deployments, relations and
columns (`DeployTree.Interpolator.stopsCleanly`).
-/

namespace DeployTree

/-- A node type that is given by its attributes: what can be read can be given a text, a name is
refused only because it is unknown, and nodes with the same attributes are the same. -/
class Tabular (κ : Type) [Attributed κ] : Prop extends LawfulWrites κ where
  exists_write : ∀ {node : κ} {name : String} {setting : Option Value},
    Attributed.read node name = .ok setting → ∀ content, ∃ written,
      Attributed.write node name (some (.text content)) = .ok written ∧
        Attributed.read written name = .ok (some (.text content))
  refuses : ∀ node : κ, Refuses node
  eq_of_read : ∀ {first second : κ},
    (∀ name, Attributed.read first name = Attributed.read second name) → first = second

/-- Every listed attribute can be given a text, which is then read. -/
theorem FollowsTable.exists_write {κ : Type} [Attributed κ] {kind name : String}
    {table : List (Attribute κ)} {node : κ} {setting : Option Value}
    (follows : FollowsTable κ kind table) (lawful : Attribute.Lawful table)
    (takes : ∀ own ∈ table, ∀ content node, (own.set (some (.text content)) node).isSome = true)
    (reads : Attributed.read node name = .ok setting) (content : String) :
    ∃ written, Attributed.write node name (some (.text content)) = .ok written ∧
      Attributed.read written name = .ok (some (.text content)) := by
  rw [follows.read_eq, Attribute.read] at reads
  cases found : Attribute.find? table name with
  | none => simp [found] at reads
  | some own =>
      obtain ⟨written, sets⟩ := Option.isSome_iff_exists.mp
        (takes own (Attribute.mem_and_name_of_find? found).1 content node)
      have writes : Attributed.write node name (some (.text content)) = .ok written := by
        rw [follows.write_eq, Attribute.write, found]
        simp only [sets]
      exact ⟨written, writes, follows.read_self lawful writes⟩

/-- An attribute that holds a text is the same in two nodes where it reads the same. -/
theorem eq_of_read_text {first second : Option String}
    (same : (.ok (first.map .text) : Except Error (Option Value)) = .ok (second.map .text)) :
    first = second :=
  Option.map_injective (fun _ _ => Value.text.inj) (Except.ok.inj same)

instance : Tabular Deployment where
  exists_write := Deployment.followsTable.exists_write Deployment.lawful
    (by simp [Deployment.attributes, Attribute.text])
  refuses _ _ _ := Deployment.followsTable.refuses
  eq_of_read {first second} same := by
    have environment : first.environment = second.environment :=
      eq_of_read_text (same "environment")
    have region : first.region = second.region := eq_of_read_text (same "region")
    have serviceRole : first.serviceRole = second.serviceRole :=
      eq_of_read_text (same "service_role")
    have scriptBucket : first.scriptBucket = second.scriptBucket :=
      eq_of_read_text (same "script_bucket")
    have storageFormat : first.storageFormat = second.storageFormat :=
      eq_of_read_text (same "storage_format")
    cases first
    simp_all

instance : Tabular Relation where
  exists_write := Relation.followsTable.exists_write Relation.lawful
    (by simp [Relation.attributes, Attribute.text, Attribute.any])
  refuses _ _ _ := Relation.followsTable.refuses
  eq_of_read {first second} same := by
    have relationName : first.relationName = second.relationName :=
      eq_of_read_text (same "relation_name")
    have fullRelationName : first.fullRelationName = second.fullRelationName :=
      eq_of_read_text (same "full_relation_name")
    have region : first.region = second.region := eq_of_read_text (same "region")
    have serviceRole : first.serviceRole = second.serviceRole :=
      eq_of_read_text (same "service_role")
    have scriptBucket : first.scriptBucket = second.scriptBucket :=
      eq_of_read_text (same "script_bucket")
    have storageFormat : first.storageFormat = second.storageFormat :=
      eq_of_read_text (same "storage_format")
    have sourceRelationPrefix : first.sourceRelationPrefix = second.sourceRelationPrefix :=
      eq_of_read_text (same "source_relation_prefix")
    have etlJobName : first.etlJobName = second.etlJobName :=
      eq_of_read_text (same "etl_job_name")
    have useInventory : first.useInventory = second.useInventory :=
      Except.ok.inj (same "use_inventory")
    cases first
    simp_all

instance : Tabular Column where
  exists_write := Column.followsTable.exists_write Column.lawful
    (by simp [Column.attributes, Attribute.text, Attribute.any])
  refuses _ _ _ := Column.followsTable.refuses
  eq_of_read {first second} same := by
    have name : first.name = second.name := eq_of_read_text (same "name")
    have dataType : first.dataType = second.dataType := eq_of_read_text (same "data_type")
    have expression : first.expression = second.expression := eq_of_read_text (same "expression")
    have sourceField : first.sourceField = second.sourceField :=
      eq_of_read_text (same "source_field")
    have required : first.required = second.required := Except.ok.inj (same "required")
    have partition : first.partition = second.partition := Except.ok.inj (same "partition")
    cases first
    simp_all

namespace Interpolator

variable {κ : Type} [Attributed κ] {interpolator : Interpolator} {node written last : κ}
  {name content filled : String} {names : List String} {setting : Option Value}
  {outcome : Except Error Unit} {position : Nat}

/-- Whether a text has a placeholder without a value, and the first of them is reported so. -/
def FirstMissing (interpolator : Interpolator) (content : String) (missing : MissingSetting) :
    Prop :=
  ∃ front placeholder back, Placeholder.inText content = front ++ placeholder :: back ∧
    (∀ earlier ∈ front, ∃ value, interpolator.value earlier.variableName = .ok value) ∧
      interpolator.value placeholder.variableName = .error (.configuration missing)

/-- Whether the work on the attributes of a node ends with an attribute, and with which outcome: the
attribute is unknown, or its text has a placeholder without a value. -/
inductive EndsWith (interpolator : Interpolator) (node : κ) (name : String) :
    Except Error Unit → Prop where
  | unknown
      (unread : Attributed.read node name =
        .error (.unknownAttribute (Attributed.kind node) name)) :
      EndsWith interpolator node name (.error (.unknownAttribute (Attributed.kind node) name))
  | missing {content : String} {missing : MissingSetting}
      (reads : Attributed.read node name = .ok (some (.text content)))
      (first : interpolator.FirstMissing content missing) :
      EndsWith interpolator node name (.error (.configuration missing))

/-- What it means that the work on named attributes of a node ends at a position among the names,
with a node that is left and an outcome. Attributes before the position are known and their texts
have been filled, while all else that can be read is as it was; the node that is left is the only
one with its attributes. The attribute at the position is unknown or cannot be filled, and the
outcome says so; after the last name there is nothing to say. -/
structure StopsCleanly (interpolator : Interpolator) (names : List String) (node last : κ)
    (outcome : Except Error Unit) (position : Nat) : Prop where
  inside : position ≤ names.length
  before : ∀ name ∈ names.take position, ∃ setting, Attributed.read node name = .ok setting ∧
    ∀ content, setting = some (.text content) →
      ∃ filled, (interpolator.interpolate content).outcome = .ok filled ∧
        Attributed.read last name = .ok (some (.text filled))
  kept : ∀ other, (other ∈ names.take position →
      ∀ content, Attributed.read node other ≠ .ok (some (.text content))) →
    Attributed.read last other = Attributed.read node other
  stop : ∀ name, names[position]? = some name → interpolator.EndsWith node name outcome
  done : position = names.length → outcome = .ok ()
  only : ∀ other : κ, (∀ name, Attributed.read other name = Attributed.read last name) →
    other = last

private theorem exists_firstMissing {error : Error}
    (failed : (interpolator.interpolate content).outcome = .error error) :
    ∃ missing, interpolator.FirstMissing content missing ∧ error = .configuration missing := by
  obtain ⟨filled, ends⟩ := interpolator.interpolate_outcome content
  rw [ends, unlessFound_ok_eq_error_iff, firstObstacle?_singleton,
    List.findSome?_eq_some_iff] at failed
  obtain ⟨front, placeholder, back, split, obstructs, free⟩ := failed
  have value : interpolator.value placeholder.variableName = .error error := by
    unfold obstacle? at obstructs
    split at obstructs
    · cases obstructs
    · rename_i other value
      rw [value, Option.some.inj obstructs]
  have earlier : ∀ earlier ∈ front,
      ∃ value, interpolator.value earlier.variableName = .ok value := by
    intro earlier member
    have own := free earlier member
    unfold obstacle? at own
    split at own
    · exact ⟨_, ‹_›⟩
    · cases own
  rcases interpolator.obstacle?_cases obstructs with ⟨-, rfl⟩ | ⟨-, -, rfl⟩
  · exact ⟨_, ⟨front, placeholder, back, split, earlier, value⟩, rfl⟩
  · exact ⟨_, ⟨front, placeholder, back, split, earlier, value⟩, rfl⟩

section Steps

variable (rest : List String)

private theorem interpolateNamed_cons_of_unknown {error : Error}
    (unknown : Attributed.read node name = .error error) :
    interpolator.interpolateNamed (name :: rest) node = (node, Run.fail error) := by
  rw [interpolateNamed, unknown]

private theorem interpolateNamed_cons_of_noText (reads : Attributed.read node name = .ok setting)
    (noText : ∀ content, setting ≠ some (.text content)) :
    interpolator.interpolateNamed (name :: rest) node =
      interpolator.interpolateNamed rest node := by
  rw [interpolateNamed, reads]
  split
  · cases ‹_›
  · rename_i same
    exact absurd (Except.ok.inj same) (noText _)
  · rfl

private theorem interpolateNamed_cons_of_error {error : Error}
    (reads : Attributed.read node name = .ok (some (.text content)))
    (failed : (interpolator.interpolate content).outcome = .error error) :
    interpolator.interpolateNamed (name :: rest) node =
      (node, ⟨(interpolator.interpolate content).trail, .error error⟩) := by
  simp only [interpolateNamed, reads, failed]

private theorem interpolateNamed_cons_of_ok
    (reads : Attributed.read node name = .ok (some (.text content)))
    (fills : (interpolator.interpolate content).outcome = .ok filled)
    (writes : Attributed.write node name (some (.text filled)) = .ok written) :
    (interpolator.interpolateNamed (name :: rest) node).1 =
        (interpolator.interpolateNamed rest written).1 ∧
      (interpolator.interpolateNamed (name :: rest) node).2.outcome =
        (interpolator.interpolateNamed rest written).2.outcome := by
  simp only [interpolateNamed, reads, fills, Attributed.write_eq_ok_iff.mp writes, and_self]

end Steps

variable [Tabular κ] {rest : List String} {value : Option Value}

/-- Work that ends with its first attribute leaves the node as it is. -/
theorem EndsWith.stopsCleanly_zero (ends : interpolator.EndsWith node name outcome) :
    interpolator.StopsCleanly (name :: rest) node node outcome 0 where
  inside := Nat.zero_le _
  before _ member := nomatch member
  kept _ _ := rfl
  stop other found := by
    obtain rfl : name = other := Option.some.inj found
    exact ends
  done none := nomatch none
  only _ same := Tabular.eq_of_read same

/-- Whether the work ends with an attribute depends on what is read there only. -/
theorem EndsWith.congr (ends : interpolator.EndsWith written name outcome)
    (same : Attributed.read written name = Attributed.read node name) :
    interpolator.EndsWith node name outcome := by
  cases ends with
  | unknown unread =>
      rw [same] at unread
      have kind := Tabular.refuses node name _ unread
      rw [kind] at unread ⊢
      exact .unknown unread
  | missing reads first => exact .missing (same ▸ reads) first

/-- An attribute that has been treated comes before what ends the work on the others. -/
theorem StopsCleanly.cons (later : interpolator.StopsCleanly rest written last outcome position)
    (fresh : name ∉ rest) (reads : Attributed.read node name = .ok setting)
    (own : Attributed.read written name = .ok value)
    (fills : ∀ content, setting = some (.text content) →
      ∃ filled, (interpolator.interpolate content).outcome = .ok filled ∧
        value = some (.text filled))
    (stays : (∀ content, setting ≠ some (.text content)) → value = setting)
    (others : ∀ other, other ≠ name → Attributed.read written other = Attributed.read node other) :
    interpolator.StopsCleanly (name :: rest) node last outcome (position + 1) := by
  have apart {other : String} (member : other ∈ rest) : other ≠ name := by
    rintro rfl
    exact fresh member
  have ownLast : Attributed.read last name = .ok value := by
    rw [later.kept name fun member => absurd (List.mem_of_mem_take member) fresh, own]
  refine
    { inside := Nat.succ_le_succ later.inside
      before := ?_
      kept := ?_
      stop := ?_
      done := fun all => later.done (Nat.succ.inj all)
      only := later.only }
  · rw [List.take_succ_cons, List.forall_mem_cons]
    refine ⟨⟨setting, reads, fun content same => ?_⟩, fun other member => ?_⟩
    · obtain ⟨filled, ok, rfl⟩ := fills content same
      exact ⟨filled, ok, ownLast⟩
    · rw [← others other (apart (List.mem_of_mem_take member))]
      exact later.before other member
  · intro other untouched
    rw [List.take_succ_cons] at untouched
    by_cases same : other = name
    · subst same
      have noText (content : String) : setting ≠ some (.text content) := by
        rintro rfl
        exact untouched (List.mem_cons_self ..) content reads
      rw [ownLast, reads, stays noText]
    · rw [later.kept other, others other same]
      intro member content
      rw [others other same]
      exact untouched (List.mem_cons_of_mem _ member) content
  · intro other found
    rw [List.getElem?_cons_succ] at found
    exact (later.stop other found).congr (others other (apart (List.mem_of_getElem? found)))

/-- The work on distinct attributes of a node ends at one of them or after all. -/
theorem exists_stopsCleanly (distinct : names.Nodup) (node : κ) :
    ∃ position, interpolator.StopsCleanly names node
      (interpolator.interpolateNamed names node).1
      (interpolator.interpolateNamed names node).2.outcome position := by
  induction names generalizing node with
  | nil =>
      exact ⟨0, Nat.le_refl _, nofun, fun _ _ => rfl, nofun, fun _ => rfl,
        fun _ same => Tabular.eq_of_read same⟩
  | cons name rest ih =>
      obtain ⟨fresh, distinct⟩ := List.nodup_cons.mp distinct
      cases reads : Attributed.read node name with
      | error error =>
          obtain rfl := Tabular.refuses node name error reads
          rw [interpolateNamed_cons_of_unknown rest reads]
          exact ⟨0, (EndsWith.unknown reads).stopsCleanly_zero⟩
      | ok setting =>
          by_cases text : ∃ content, setting = some (.text content)
          · obtain ⟨content, rfl⟩ := text
            cases ended : (interpolator.interpolate content).outcome with
            | error error =>
                obtain ⟨missing, first, rfl⟩ := exists_firstMissing ended
                rw [interpolateNamed_cons_of_error rest reads ended]
                exact ⟨0, (EndsWith.missing reads first).stopsCleanly_zero⟩
            | ok filled =>
                obtain ⟨written, writes, own⟩ := Tabular.exists_write reads filled
                obtain ⟨position, later⟩ := ih distinct written
                obtain ⟨same, ends⟩ := interpolateNamed_cons_of_ok rest reads ended writes
                rw [same, ends]
                refine ⟨position + 1, later.cons fresh reads own ?_ ?_ ?_⟩
                · intro other same
                  obtain rfl := Value.text.inj (Option.some.inj same)
                  exact ⟨filled, ended, rfl⟩
                · exact fun noText => absurd rfl (noText content)
                · exact fun other apart => LawfulWrites.read_other writes apart
          · have noText (content : String) : setting ≠ some (.text content) :=
              fun same => text ⟨content, same⟩
            obtain ⟨position, later⟩ := ih distinct node
            rw [interpolateNamed_cons_of_noText rest reads noText]
            exact ⟨position + 1, later.cons fresh reads reads
              (fun content same => absurd same (noText content)) (fun _ => rfl) fun _ _ => rfl⟩

/-- **Interpolating attributes.** Whatever a deployment, a relation or a column holds, the work on
distinct attributes ends at the first that is unknown or has a placeholder without a value, and says
so; what comes before it has been filled and all else is as it was. -/
theorem stopsCleanly (interpolator : Interpolator) {names : List String} (distinct : names.Nodup) :
    (∀ node : Deployment, ∃ position, interpolator.StopsCleanly names node
      (interpolator.interpolateNamed names node).1
      (interpolator.interpolateNamed names node).2.outcome position) ∧
    (∀ node : Relation, ∃ position, interpolator.StopsCleanly names node
      (interpolator.interpolateNamed names node).1
      (interpolator.interpolateNamed names node).2.outcome position) ∧
    ∀ node : Column, ∃ position, interpolator.StopsCleanly names node
      (interpolator.interpolateNamed names node).1
      (interpolator.interpolateNamed names node).2.outcome position :=
  ⟨exists_stopsCleanly distinct, exists_stopsCleanly distinct, exists_stopsCleanly distinct⟩

/-- One variable is bound. -/
def oneBound : Interpolator :=
  ⟨.standard, Bindings.lookup (Dictionary.ofList [("CONVERGDB_A", "sales")])⟩

/-- A relation with a text in the place of a flag and a placeholder without a value. -/
def unfilledRelation : Relation :=
  { Relation.unset with
    relationName := some "$\x7benv.CONVERGDB_A\x7d.orders.raw"
    useInventory := some (.text "$\x7benv.CONVERGDB_A\x7d")
    etlJobName := some "$\x7benv.CONVERGDB_A\x7d$\x7benv.CONVERGDB_B\x7d$\x7benv.HOME\x7d"
    region := some "$\x7benv.CONVERGDB_A\x7d" }

/-- Names of attributes, one of them unset. -/
def someNames : List String :=
  ["relation_name", "use_inventory", "service_role", "etl_job_name", "region", "nope"]

/-- A text is filled also in the place of a flag; the work ends at the name of the job, and the
region and the unknown name after it are not reached. -/
theorem stopsCleanly_unfilledRelation :
    someNames.Nodup ∧
      (∃ position, oneBound.StopsCleanly someNames unfilledRelation
        { unfilledRelation with
          relationName := some "sales.orders.raw", useInventory := some (.text "sales") }
        (.error (.configuration (.unbound "CONVERGDB_B"))) position) := by
  have distinct : someNames.Nodup := by decide
  have left : (oneBound.interpolateNamed someNames unfilledRelation).1 =
      { unfilledRelation with
        relationName := some "sales.orders.raw", useInventory := some (.text "sales") } := by
    decide +kernel
  have ends : (oneBound.interpolateNamed someNames unfilledRelation).2.outcome =
      .error (.configuration (.unbound "CONVERGDB_B")) := by
    decide +kernel
  obtain ⟨-, relations, -⟩ := oneBound.stopsCleanly distinct
  exact ⟨distinct, left ▸ ends ▸ relations unfilledRelation⟩

end Interpolator

end DeployTree
