import DeployTree.Proofs.Environment.Filling

/-! # The events of filling in variables

A run *tells* certain events when it leaves exactly these, provided that it has a value
(`DeployTree.Run.Tells`). Runs that tell events compose (`DeployTree.Run.Tells.bind`). The events of
filling in a text name the variables of its placeholders in turn, and nothing that a variable is
bound to; so two runs on the same texts that both succeed tell the same
(`DeployTree.Interpolator.tells_interpolated`).
-/

namespace DeployTree

namespace Run

variable {α β : Type} {first : Run α} {next : α → Run β} {events more : List Event}

/-- Whether a run leaves given events if it has a value. -/
def Tells (run : Run α) (events : List Event) : Prop :=
  ∀ value, run.outcome = .ok value → run.trail = events

/-- A value alone leaves no events. -/
theorem Tells.pure (value : α) : Tells (Pure.pure value) [] := fun _ _ => rfl

/-- An outcome alone leaves no events. -/
theorem Tells.ofExcept (outcome : Except Error α) : Tells (ofExcept outcome) [] := fun _ _ => rfl

private theorem Tells.emit (event : Event) : Tells (emit event) [event] := fun _ _ => rfl

/-- Runs one after another leave the events of the first before those of the second. -/
theorem Tells.bind (tells : Tells first events)
    (later : ∀ value, first.outcome = .ok value → Tells (next value) more) :
    Tells (first >>= next) (events ++ more) := by
  intro result ok
  obtain ⟨value, ended, ok⟩ := outcome_bind_eq_ok_iff.mp ok
  rw [bind_eq, andThen_of_ok ended, tells value ended, later value ended result ok]

/-- A run that tells nothing leaves the events before it as they are. -/
theorem Tells.bind_nil (tells : Tells first events)
    (later : ∀ value, first.outcome = .ok value → Tells (next value) []) :
    Tells (first >>= next) events := by
  have whole := tells.bind later
  rwa [List.append_nil] at whole

/-- An event before a run comes before its events. -/
theorem Tells.emit_bind {event : Event} {next : Unit → Run β} (later : Tells (next ()) more) :
    Tells (Run.emit event >>= next) (event :: more) :=
  (Tells.emit event).bind fun _ _ => later

/-- A change of the value leaves the events of the run. -/
theorem Tells.map (change : α → β) (tells : Tells first events) :
    Tells (change <$> first) events := by
  rw [map_eq_pure_bind]
  exact tells.bind_nil fun _ _ => .pure _

/-- A run that fills in texts has no value but the one that they give. -/
theorem Fills.eq_of_ok {interpolator : Interpolator} {texts : List String} {value other : α}
    (fills : Fills interpolator first texts value) (ok : first.outcome = .ok other) :
    value = other := by
  rw [fills] at ok
  exact Except.ok.inj (unlessFound_eq_ok_iff.mp ok).2

end Run

namespace Interpolator

variable {ν : Type} [Attributed ν] (interpolator : Interpolator)

/-- The events of filling in the placeholders of some texts: one for each distinct placeholder, text
by text. -/
def substitutions (texts : List String) : List Event :=
  texts.flatMap fun text =>
    (Placeholder.inText text).map fun placeholder => .substituting placeholder.variableName

private theorem tells_replaceEach (placeholders : List Placeholder) (reached : List Char) :
    (interpolator.replaceEach placeholders reached).Tells
      (placeholders.map fun placeholder => .substituting placeholder.variableName) := by
  induction placeholders generalizing reached with
  | nil => exact .pure _
  | cons placeholder rest ih =>
      rw [replaceEach, List.map_cons]
      refine (Run.Tells.ofExcept _).bind fun value _ => ?_
      exact .emit_bind (ih _)

private theorem tells_interpolate (text : String) :
    (interpolator.interpolate text).Tells (substitutions [text]) := by
  rw [substitutions, List.flatMap_singleton]
  exact (interpolator.tells_replaceEach _ _).bind_nil fun _ _ => .pure _

private theorem tells_interpolateNamed (fields : List (TextField ν)) (node : ν) :
    (interpolator.interpolateNamed (fields.map TextField.name) node).2.Tells
      (substitutions (interpolator.fieldTexts fields node)) := by
  induction fields generalizing node with
  | nil => exact .pure _
  | cons field rest ih =>
      have reads := field.reads node
      rw [List.map_cons, fieldTexts]
      cases setting : field.get node with
      | none =>
          rw [setting] at reads
          rw [interpolateNamed, reads, field.set_filled_none setting]
          exact ih node
      | some content =>
          rw [setting] at reads
          cases ended : (interpolator.interpolate content).outcome with
          | error error =>
              intro value ok
              simp [interpolateNamed, reads, ended] at ok
          | ok filledText =>
              intro value ok
              simp only [interpolateNamed, reads, Option.map_some, ended, field.attempts] at ok ⊢
              rw [interpolator.tells_interpolate content filledText ended, ih _ value ok,
                interpolator.filled_of_ok ended, substitutions, substitutions, Option.toList_some,
                substitutions, List.flatMap_append]

/-- **The events of filling attributes.** Interpolating attributes tells the variables that their
texts mention. -/
theorem tells_interpolated (fields : List (TextField ν)) (node : ν) :
    (interpolator.interpolated (fields.map TextField.name) node).Tells
      (substitutions (interpolator.fieldTexts fields node)) := by
  have named := interpolator.tells_interpolateNamed fields node
  exact named.bind_nil fun _ _ => .pure _

end Interpolator

end DeployTree
