import DeployTree.Environment.Bindings
import Mathlib.Data.List.Induction

/-! # Which binding of a variable counts

Of several pairs for one name the last one counts (`DeployTree.Dictionary.exists_last_of_find?`), of
several layers of bindings the outermost that has the name
(`DeployTree.Bindings.outermost_stacked`), and of several entries of a process the first one
(`DeployTree.EnvironmentBlock.lookup_eq_some_iff`). A value of the process counts only when its
bytes are the bytes of a text (`DeployTree.Text.decode?_eq_some_iff`).
-/

namespace DeployTree

namespace Text

variable {bytes : List UInt8} {text : String}

/-- Bytes are read as a text exactly when they are the bytes of that text. -/
theorem decode?_eq_some_iff : decode? bytes = some text ↔ bytes = encode text := by
  unfold decode? encode String.fromUTF8?
  constructor
  · intro decoded
    split at decoded
    · obtain rfl := Option.some.inj decoded
      rfl
    · cases decoded
  · rintro rfl
    have valid : text.toUTF8.IsValidUTF8 := text.isValidUTF8
    exact dif_pos valid

end Text

namespace Dictionary

variable {α : Type} {pairs : List (String × α)} {name : String} {value : α}

/-- One pair more at the end counts for its name. -/
theorem find?_ofList_concat (pairs : List (String × α)) (pair : String × α) (name : String) :
    (ofList (pairs ++ [pair])).find? name =
      if pair.1 = name then some pair.2 else (ofList pairs).find? name := by
  rw [ofList, List.foldl_append]
  exact find?_insert _ _ _ _

/-- The value that a name has is that of the last pair with the name. -/
theorem exists_last_of_find? (found : (ofList pairs).find? name = some value) :
    ∃ front back, pairs = front ++ (name, value) :: back ∧ ∀ later ∈ back, later.1 ≠ name := by
  induction pairs using List.reverseRecOn with
  | nil => cases found
  | append_singleton pairs pair ih =>
      rw [find?_ofList_concat] at found
      split at found
      · rename_i same
        obtain rfl := Option.some.inj found
        exact ⟨pairs, [], by rw [← same], nofun⟩
      · rename_i other
        obtain ⟨front, back, rfl, later⟩ := ih found
        refine ⟨front, back ++ [pair], by simp, ?_⟩
        rw [List.forall_mem_append, List.forall_mem_singleton]
        exact ⟨later, other⟩

/-- A name without a value is in no pair. -/
theorem ne_of_find?_eq_none (absent : (ofList pairs).find? name = none) :
    ∀ pair ∈ pairs, pair.1 ≠ name := by
  induction pairs using List.reverseRecOn with
  | nil => exact nofun
  | append_singleton pairs pair ih =>
      rw [find?_ofList_concat] at absent
      split at absent
      · cases absent
      · rename_i other
        rw [List.forall_mem_append, List.forall_mem_singleton]
        exact ⟨ih absent, other⟩

end Dictionary

namespace Bindings

variable {bindings : Bindings} {base : Lookup} {name value : String}

/-- A bound name has the value it is bound to. -/
theorem shadowing_of_some (bound : bindings.find? name = some value) :
    bindings.shadowing base name = some value := by
  rw [shadowing, bound]

/-- A name that is not bound has the value of the other source. -/
theorem shadowing_of_none (free : bindings.find? name = none) :
    bindings.shadowing base name = base name := by
  rw [shadowing, free]

/-- Layers of bindings, the outermost first, in front of another source. -/
def stacked (layers : List Bindings) (base : Lookup) : Lookup := layers.foldr shadowing base

/-- Where layers in front of a source find a variable: in the outermost layer that binds it, else in
the source. -/
inductive Outermost (layers : List Bindings) (base : Lookup) (name : String) :
    Option String → Prop where
  | layer (front back : List Bindings) (own : Bindings) (value : String)
      (stack : layers = front ++ own :: back) (outer : ∀ layer ∈ front, layer.find? name = none)
      (binds : own.find? name = some value) : Outermost layers base name (some value)
  | base (free : ∀ layer ∈ layers, layer.find? name = none) :
      Outermost layers base name (base name)

/-- Layers of any number answer with the outermost one that binds the variable. -/
theorem outermost_stacked (layers : List Bindings) (base : Lookup) (name : String) :
    Outermost layers base name (stacked layers base name) := by
  induction layers with
  | nil => exact .base nofun
  | cons first rest ih =>
      change Outermost (first :: rest) base name (shadowing first (stacked rest base) name)
      cases bound : first.find? name with
      | some value =>
          rw [shadowing_of_some bound]
          exact .layer [] rest first value rfl nofun bound
      | none =>
          rw [shadowing_of_none bound]
          generalize stacked rest base name = answer at ih
          cases ih with
          | layer front back own value stack outer binds =>
              exact .layer (first :: front) back own value (congrArg (first :: ·) stack)
                (List.forall_mem_cons.mpr ⟨bound, outer⟩) binds
          | base free => exact .base (List.forall_mem_cons.mpr ⟨bound, free⟩)

end Bindings

namespace EnvironmentBlock

/-- Whether the first entry of a process for a name has some bytes for its value. No variable has an
empty name. -/
structure Sets (block : EnvironmentBlock) (name : String) (bytes : List UInt8) : Prop where
  named : name ≠ ""
  first : ∃ front back,
    block.entries = front ++ (Text.encode name ++ separator :: bytes) :: back ∧
      ∀ earlier ∈ front, ¬ Text.encode name ++ [separator] <+: earlier

variable {block : EnvironmentBlock} {name value : String} {front entry bytes : List UInt8}

private theorem after?_eq_some_iff : after? front entry = some bytes ↔ entry = front ++ bytes := by
  induction front generalizing entry with
  | nil => simp [after?]
  | cons own front ih =>
      cases entry with
      | nil => simp [after?]
      | cons byte entry =>
          by_cases same : own = byte
          · simp [after?, same, ih]
          · simp [after?, same, Ne.symm same]

private theorem after?_eq_none_iff : after? front entry = none ↔ ¬ front <+: entry := by
  rw [Option.eq_none_iff_forall_ne_some]
  constructor
  · rintro none ⟨bytes, rfl⟩
    exact none bytes (after?_eq_some_iff.mpr rfl)
  · exact fun other bytes found => other ⟨bytes, (after?_eq_some_iff.mp found).symm⟩

/-- The bytes of a variable are those of its first entry. -/
theorem bytes?_eq_some_iff (plain : '\x00' ∉ name.toList) :
    block.bytes? name = some bytes ↔ block.Sets name bytes := by
  have clean : name.toList.any (· = '\x00') = false := by
    rw [List.any_eq_false]
    exact fun c member same => plain (of_decide_eq_true same ▸ member)
  have found : block.entries.findSome? (after? (Text.encode name ++ [separator])) = some bytes ↔
      ∃ front back, block.entries = front ++ (Text.encode name ++ separator :: bytes) :: back ∧
        ∀ earlier ∈ front, ¬ Text.encode name ++ [separator] <+: earlier := by
    simp only [List.findSome?_eq_some_iff, after?_eq_some_iff, after?_eq_none_iff]
    constructor
    · rintro ⟨front, _, back, split, rfl, first⟩
      exact ⟨front, back, by simpa using split, first⟩
    · rintro ⟨front, back, split, first⟩
      exact ⟨front, _, back, split, by simp, first⟩
  rw [bytes?, clean, Bool.or_false]
  by_cases empty : name = ""
  · rw [if_pos (by simp [empty])]
    exact ⟨nofun, fun sets => absurd empty sets.named⟩
  · rw [if_neg (by simpa using empty), found]
    exact ⟨fun first => ⟨empty, first⟩, fun sets => sets.first⟩

/-- A variable of the process has the text whose bytes its first entry gives. -/
theorem lookup_eq_some_iff (plain : '\x00' ∉ name.toList) :
    block.lookup name = some value ↔ block.Sets name (Text.encode value) := by
  rw [lookup, Option.bind_eq_some_iff]
  simp only [bytes?_eq_some_iff plain, Text.decode?_eq_some_iff]
  constructor
  · rintro ⟨_, sets, rfl⟩
    exact sets
  · exact fun sets => ⟨_, sets, rfl⟩

end EnvironmentBlock

end DeployTree
