import DeployTree.Proofs.Environment.Occurrence

/-! # Filling the placeholders of several texts

Whether texts can be interpolated is decided by their own placeholders alone: the first one, text by
text and by position, that has no value gives the error, whatever the values before it were
(`DeployTree.Interpolator.interpolate_outcome`). A run *fills* texts when it fails with the first
obstacle among their placeholders and has a given value where there is none. Runs that fill texts
compose (`DeployTree.Run.Fills.bind`), and interpolating attributes fills the texts that they hold
(`DeployTree.Interpolator.fills_interpolated`).
-/

namespace DeployTree

namespace Interpolator

variable (interpolator : Interpolator)

/-- The error of a placeholder that cannot be replaced. -/
def obstacle? (placeholder : Placeholder) : Option Error :=
  match interpolator.value placeholder.variableName with
  | .ok _ => none
  | .error error => some error

/-- The error of the first placeholder of some texts, in their order and by position, that cannot be
replaced. -/
def firstObstacle? (texts : List String) : Option Error :=
  (texts.flatMap fun text => Placeholder.occurrences text.toList).findSome? interpolator.obstacle?

/-- A setting with its placeholders replaced. -/
def filled (setting : Option String) : Option String :=
  setting.bind fun text => (interpolator.interpolate text).outcome.toOption

/-- A filled text is what interpolation gives. -/
theorem filled_of_ok {text filledText : String}
    (ok : (interpolator.interpolate text).outcome = .ok filledText) :
    interpolator.filled (some text) = some filledText := by
  simp [filled, ok, Except.toOption]

private theorem obstacle?_of_ok {placeholder : Placeholder} {value : String}
    (bound : interpolator.value placeholder.variableName = .ok value) :
    interpolator.obstacle? placeholder = none := by
  rw [obstacle?, bound]

private theorem obstacle?_of_error {placeholder : Placeholder} {error : Error}
    (failed : interpolator.value placeholder.variableName = .error error) :
    interpolator.obstacle? placeholder = some error := by
  rw [obstacle?, failed]

/-- A placeholder that cannot be replaced lies outside the namespace or is not bound. -/
theorem obstacle?_cases {placeholder : Placeholder} {error : Error}
    (found : interpolator.obstacle? placeholder = some error) :
    (interpolator.names.permits placeholder.variableName = false ∧
        error = .configuration
          (.outsideNamespace placeholder.variableName interpolator.names.start)) ∨
      (interpolator.names.permits placeholder.variableName = true ∧
        interpolator.source placeholder.variableName = none ∧
        error = .configuration (.unbound placeholder.variableName)) := by
  unfold obstacle? value at found
  cases permitted : interpolator.names.permits placeholder.variableName with
  | false =>
      rw [permitted] at found
      exact .inl ⟨rfl, (Option.some.inj found).symm⟩
  | true =>
      cases bound : interpolator.source placeholder.variableName with
      | some value => simp [permitted, bound] at found
      | none =>
          simp only [permitted, bound, ↓reduceIte] at found
          exact .inr ⟨rfl, rfl, (Option.some.inj found).symm⟩

private theorem firstObstacle?_append (texts more : List String) :
    interpolator.firstObstacle? (texts ++ more) =
      (interpolator.firstObstacle? texts).or (interpolator.firstObstacle? more) := by
  rw [firstObstacle?, List.flatMap_append, List.findSome?_append]
  rfl

/-- Placeholders are replaced in turn up to the first that has no value. -/
theorem replaceEach_outcome (placeholders : List Placeholder) (text : List Char) :
    ∃ reached, (interpolator.replaceEach placeholders text).outcome =
      unlessFound (placeholders.findSome? interpolator.obstacle?) (.ok reached) := by
  induction placeholders generalizing text with
  | nil => exact ⟨text, rfl⟩
  | cons placeholder rest ih =>
      cases bound : interpolator.value placeholder.variableName with
      | error error =>
          refine ⟨text, ?_⟩
          rw [List.findSome?_cons, interpolator.obstacle?_of_error bound]
          exact Run.outcome_bind_of_error bound _
      | ok value =>
          obtain ⟨reached, later⟩ := ih (replaceAll placeholder.chars value.toList 0 text)
          refine ⟨reached, ?_⟩
          rw [List.findSome?_cons, interpolator.obstacle?_of_ok bound, ← later, replaceEach,
            Run.outcome_bind_of_ok bound, Run.outcome_emit_bind]

/-- The first placeholder without a value is found among the distinct ones. -/
theorem findSome?_firsts (placeholders : List Placeholder) :
    (Placeholder.firsts placeholders).findSome? interpolator.obstacle? =
      placeholders.findSome? interpolator.obstacle? := by
  have without (placeholder : Placeholder) (free : interpolator.obstacle? placeholder = none)
      (others : List Placeholder) :
      (others.filter fun other => other ≠ placeholder).findSome? interpolator.obstacle? =
        others.findSome? interpolator.obstacle? := by
    induction others with
    | nil => rfl
    | cons other others ih =>
        by_cases same : other = placeholder
        · simpa [same, free] using ih
        · simp only [ne_eq, same, not_false_eq_true, decide_true, List.filter_cons_of_pos,
            List.findSome?_cons]
          split
          · rfl
          · exact ih
  induction placeholders with
  | nil => rfl
  | cons placeholder rest ih =>
      rw [Placeholder.firsts, List.findSome?_cons, List.findSome?_cons]
      split
      · rfl
      · rename_i free
        rw [without placeholder free, ih]

/-- The first obstacle in a text is found among its distinct placeholders. -/
theorem firstObstacle?_singleton (text : String) :
    interpolator.firstObstacle? [text] =
      (Placeholder.inText text).findSome? interpolator.obstacle? := by
  rw [Placeholder.inText_eq, findSome?_firsts, firstObstacle?, List.flatMap_cons, List.flatMap_nil,
    List.append_nil]

/-- A text is interpolated unless one of its own placeholders has no value, and the first such
placeholder gives the error. -/
theorem interpolate_outcome (text : String) :
    ∃ filled, (interpolator.interpolate text).outcome =
      unlessFound (interpolator.firstObstacle? [text]) (.ok filled) := by
  obtain ⟨reached, ends⟩ := interpolator.replaceEach_outcome (Placeholder.inText text) text.toList
  refine ⟨String.ofList reached, ?_⟩
  rw [firstObstacle?_singleton]
  exact Run.outcome_bind_of_unlessFound ends _

/-- Texts without an obstacle are interpolated one by one. -/
theorem exists_interpolate_of_firstObstacle?_eq_none {texts : List String} {text : String}
    (free : interpolator.firstObstacle? texts = none) (member : text ∈ texts) :
    ∃ filled, (interpolator.interpolate text).outcome = .ok filled := by
  have own : interpolator.firstObstacle? [text] = none := by
    rw [firstObstacle?, List.findSome?_eq_none_iff] at free ⊢
    intro placeholder occurs
    exact free placeholder (List.mem_flatMap.mpr ⟨text, member, by simpa using occurs⟩)
  obtain ⟨filled, ends⟩ := interpolator.interpolate_outcome text
  rw [own] at ends
  exact ⟨filled, ends⟩

end Interpolator

namespace Run

variable {α β : Type} {interpolator : Interpolator} {texts more : List String} {value : α}
  {result : β}

/-- A run that fails with the first obstacle of some texts and has a value where there is none. -/
def Fills (interpolator : Interpolator) (run : Run α) (texts : List String) (value : α) : Prop :=
  run.outcome = unlessFound (interpolator.firstObstacle? texts) (.ok value)

/-- A value alone fills in no text. -/
theorem Fills.pure (value : α) : Fills interpolator (Pure.pure value) [] value := rfl

/-- An event before a run leaves what it fills in. -/
theorem Fills.emit_bind {event : Event} {next : Unit → Run β}
    (fills : Fills interpolator (next ()) texts result) :
    Fills interpolator (emit event >>= next) texts result := by
  rw [Fills, outcome_emit_bind]
  exact fills

/-- What follows a run that fills texts is reached when they have no obstacle. -/
theorem Fills.outcome_bind {first : Run α} (fills : Fills interpolator first texts value)
    (next : α → Run β) :
    (first >>= next).outcome =
      unlessFound (interpolator.firstObstacle? texts) (next value).outcome :=
  outcome_bind_of_unlessFound fills next

/-- Texts are filled one run after another. -/
theorem Fills.bind {first : Run α} {next : α → Run β} (fills : Fills interpolator first texts value)
    (later : Fills interpolator (next value) more result) :
    Fills interpolator (first >>= next) (texts ++ more) result := by
  rw [Fills, fills.outcome_bind, later, Interpolator.firstObstacle?_append, unlessFound_or]

/-- A run that has its value without reading a text follows the texts before it. -/
theorem Fills.bind_pure {first : Run α} {next : α → Run β}
    (fills : Fills interpolator first texts value)
    (later : Fills interpolator (next value) [] result) :
    Fills interpolator (first >>= next) texts result := by
  have whole := fills.bind later
  rwa [List.append_nil] at whole

/-- A change of the value fills in the texts of the run. -/
theorem Fills.map {first : Run α} (change : α → β) (fills : Fills interpolator first texts value) :
    Fills interpolator (change <$> first) texts (change value) := by
  rw [map_eq_pure_bind]
  exact fills.bind_pure (.pure _)

end Run

namespace Interpolator

variable {ν : Type} [Attributed ν] {interpolator : Interpolator}

/-- Interpolated attributes are those of the node that the work on them leaves, unless it fails. -/
theorem interpolated_outcome (names : List String) (node : ν) :
    (interpolator.interpolated names node).outcome =
      (interpolator.interpolateNamed names node).2.outcome.map fun _ =>
        (interpolator.interpolateNamed names node).1 := by
  unfold interpolated
  rcases interpolator.interpolateNamed names node with ⟨last, run⟩
  cases ended : run.outcome with
  | error error =>
      simp only [Run.andThen_of_error ended]
      rfl
  | ok value =>
      simp only [Run.andThen_of_ok ended]
      rfl

/-- Interpolating keeps what every write keeps, unless it fails. -/
theorem interpolated_preserves {holds : ν → Prop} {names : List String} {node last : ν}
    (kept : ∀ {node written : ν} {name : String} {setting : Option Value},
      Attributed.write node name setting = .ok written → holds node → holds written)
    (ok : (interpolator.interpolated names node).outcome = .ok last) (before : holds node) :
    holds last := by
  rw [interpolated_outcome] at ok
  obtain ⟨_, ended, rfl⟩ := map_eq_ok_iff.mp ok
  clear ok
  induction names generalizing node with
  | nil => exact before
  | cons name rest ih =>
      revert ended
      unfold interpolateNamed
      split
      · nofun
      · dsimp only
        split
        · nofun
        · split
          · nofun
          · rename_i wrote
            exact ih (kept (Attributed.write_eq_ok_iff.mpr wrote) before)
      · exact ih before

/-- An attribute of nodes that holds a text, with the laws of reading and writing it by name. -/
structure TextField (κ : Type) [Attributed κ] where
  name : String
  get : κ → Option String
  set : Option String → κ → κ
  reads : ∀ node, Attributed.read node name = .ok ((get node).map .text) := by
    exact fun _ => rfl
  writes : ∀ node content,
    Attributed.write node name (some (.text content)) = .ok (set (some content) node) := by
    exact fun _ _ => rfl
  stays : ∀ node, set (get node) node = node := by
    exact fun _ => rfl

/-- A text is put in place without fail. -/
theorem TextField.attempts (field : TextField ν) (node : ν) (content : String) :
    Attributed.attempt node field.name (some (.text content)) =
      (.ok (), field.set (some content) node) :=
  Attributed.write_eq_ok_iff.mp (field.writes node content)

/-- Filling an attribute that is unset changes nothing. -/
theorem TextField.set_filled_none (field : TextField ν) {node : ν} (unset : field.get node = none) :
    field.set (interpolator.filled none) node = node :=
  (congrArg (field.set · node) unset.symm).trans (field.stays node)

/-- A node with the texts of some attributes filled in turn. -/
def filledNode (interpolator : Interpolator) : List (TextField ν) → ν → ν
  | [], node => node
  | field :: rest, node =>
      filledNode interpolator rest (field.set (interpolator.filled (field.get node)) node)

/-- The texts of some attributes, each as it is when its turn comes. -/
def fieldTexts (interpolator : Interpolator) : List (TextField ν) → ν → List String
  | [], _ => []
  | field :: rest, node =>
      (field.get node).toList ++
        fieldTexts interpolator rest (field.set (interpolator.filled (field.get node)) node)

/-- **Filling attributes.** Interpolating attributes fills their texts in turn. -/
theorem fills_interpolated (fields : List (TextField ν)) (node : ν) :
    Run.Fills interpolator (interpolator.interpolated (fields.map TextField.name) node)
      (fieldTexts interpolator fields node) (filledNode interpolator fields node) := by
  induction fields generalizing node with
  | nil => rfl
  | cons field rest ih =>
      have reads := field.reads node
      rw [List.map_cons, fieldTexts, filledNode]
      cases setting : field.get node with
      | none =>
          rw [setting] at reads
          have skip : interpolator.interpolated (field.name :: rest.map TextField.name) node =
              interpolator.interpolated (rest.map TextField.name) node := by
            simp [interpolated, interpolateNamed, reads]
          rw [skip, field.set_filled_none setting]
          exact ih node
      | some content =>
          rw [setting] at reads
          unfold Run.Fills at *
          obtain ⟨filledText, ends⟩ := interpolator.interpolate_outcome content
          rw [Option.toList_some, firstObstacle?_append]
          cases found : interpolator.firstObstacle? [content] with
          | some error =>
              rw [found] at ends
              rw [Option.some_or, interpolated_outcome, interpolateNamed, reads]
              simp only [Option.map_some, ends, unlessFound_some]
              rfl
          | none =>
              rw [found] at ends
              rw [Option.none_or, interpolator.filled_of_ok ends, ← ih, interpolated_outcome,
                interpolated_outcome]
              simp only [interpolateNamed, reads, Option.map_some, ends, unlessFound_none,
                field.attempts]

end Interpolator

end DeployTree
