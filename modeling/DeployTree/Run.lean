import DeployTree.Error
import DeployTree.Event

/-! # Runs

A run is the trail of events that a computation left and its outcome, a value or an
error. The trail is kept also when the outcome is an error: it ends with the last
event before the failure. Runs compose as their outcomes do, trail after trail.
-/

namespace DeployTree

/-- Outcomes are equal when they have the same value or the same error. -/
instance outcomeDecidableEq {ε α : Type} [DecidableEq ε] [DecidableEq α] :
    DecidableEq (Except ε α)
  | .ok first, .ok second => decidable_of_iff (first = second) (by simp)
  | .error first, .error second => decidable_of_iff (first = second) (by simp)
  | .ok _, .error _ => isFalse (by simp)
  | .error _, .ok _ => isFalse (by simp)

/-- Two steps succeed when both do, the second on the value of the first. -/
theorem bind_eq_ok_iff {α β : Type} {first : Except Error α} {second : α → Except Error β}
    {result : β} :
    (first >>= second) = .ok result ↔ ∃ value, first = .ok value ∧ second value = .ok result := by
  cases first with
  | error error => simp [bind, Except.bind]
  | ok value => simp [bind, Except.bind]

/-- A changed outcome is a value when the outcome was one. -/
theorem map_eq_ok_iff {α β : Type} {change : α → β} {outcome : Except Error α} {result : β} :
    outcome.map change = .ok result ↔ ∃ value, outcome = .ok value ∧ change value = result := by
  cases outcome with
  | error error => simp [Except.map]
  | ok value => simp [Except.map]

/-- An outcome, unless an error was found before it. -/
def unlessFound {α : Type} (found : Option Error) (outcome : Except Error α) : Except Error α :=
  match found with
  | some error => .error error
  | none => outcome

/-- An error found before an outcome stands in its place. -/
@[simp] theorem unlessFound_some {α : Type} (error : Error) (outcome : Except Error α) :
    unlessFound (some error) outcome = .error error := rfl

/-- With no error found the outcome stands. -/
@[simp] theorem unlessFound_none {α : Type} (outcome : Except Error α) :
    unlessFound none outcome = outcome := rfl

/-- The earlier of two errors found stands. -/
theorem unlessFound_or {α : Type} (first second : Option Error) (outcome : Except Error α) :
    unlessFound (first.or second) outcome = unlessFound first (unlessFound second outcome) := by
  cases first <;> rfl

/-- A value is left when no error was found. -/
theorem unlessFound_eq_ok_iff {α : Type} {found : Option Error} {outcome : Except Error α}
    {value : α} : unlessFound found outcome = .ok value ↔ found = none ∧ outcome = .ok value := by
  cases found <;> simp

/-- A value gives way to the error found and to no other one. -/
theorem unlessFound_ok_eq_error_iff {α : Type} {found : Option Error} {value : α} {error : Error} :
    unlessFound found (.ok value) = .error error ↔ found = some error := by
  cases found <;> simp

/-- The events of a computation in order, and its outcome. -/
structure Run (α : Type) where
  trail : List Event
  outcome : Except Error α

namespace Run

variable {α β : Type}

/-- The run that only has a value. -/
def ofValue (value : α) : Run α := ⟨[], .ok value⟩

/-- The run that only fails. -/
def fail (error : Error) : Run α := ⟨[], .error error⟩

/-- The run of one event. -/
def emit (event : Event) : Run Unit := ⟨[event], .ok ()⟩

/-- The run without events that has a given outcome. -/
def ofExcept (outcome : Except Error α) : Run α := ⟨[], outcome⟩

/-- One run after another, unless the first fails. -/
def andThen (first : Run α) (second : α → Run β) : Run β :=
  match first.outcome with
  | .ok value => ⟨first.trail ++ (second value).trail, (second value).outcome⟩
  | .error error => ⟨first.trail, .error error⟩

instance : Monad Run where
  pure := ofValue
  bind := andThen

instance : MonadLift (Except Error) Run := ⟨ofExcept⟩

/-- A value alone is a run without events. -/
@[simp] theorem pure_eq (value : α) : (pure value : Run α) = ⟨[], .ok value⟩ := rfl

/-- The bind of runs is one run after the other. -/
theorem bind_eq (first : Run α) (second : α → Run β) :
    first >>= second = first.andThen second := rfl

/-- After a run with a value, the next run starts with that value. -/
theorem andThen_of_ok {first : Run α} {value : α} (ok : first.outcome = .ok value)
    (second : α → Run β) :
    first.andThen second = ⟨first.trail ++ (second value).trail, (second value).outcome⟩ := by
  simp [andThen, ok]

/-- After a failure nothing more happens. -/
theorem andThen_of_error {first : Run α} {error : Error} (failed : first.outcome = .error error)
    (second : α → Run β) : first.andThen second = ⟨first.trail, .error error⟩ := by
  simp [andThen, failed]

instance : LawfulMonad Run := LawfulMonad.mk' Run
  (fun run => by
    obtain ⟨trail, outcome⟩ := run
    cases outcome <;> simp [Functor.map, andThen, ofValue])
  (fun value second => by simp [bind_eq, andThen, pure, ofValue])
  (fun run second third => by
    obtain ⟨trail, outcome⟩ := run
    cases outcome with
    | error error => simp [bind_eq, andThen]
    | ok value =>
        cases same : (second value).outcome <;>
          simp [bind_eq, andThen, same, List.append_assoc])

/-- A value alone is its outcome. -/
@[simp] theorem outcome_pure (value : α) : (pure value : Run α).outcome = .ok value := rfl

/-- A run made of an outcome has it. -/
@[simp] theorem outcome_ofExcept (outcome : Except Error α) :
    (ofExcept outcome).outcome = outcome := rfl

/-- A failing run has its error for its outcome. -/
@[simp] theorem outcome_fail (error : Error) : (fail error : Run α).outcome = .error error := rfl

/-- An event has no outcome of its own. -/
@[simp] theorem outcome_emit (event : Event) : (emit event).outcome = .ok () := rfl

/-- After a run with a value the outcome is that of the second run. -/
theorem outcome_bind_of_ok {first : Run α} {value : α} (ok : first.outcome = .ok value)
    (second : α → Run β) : (first >>= second).outcome = (second value).outcome := by
  rw [bind_eq, andThen_of_ok ok]

/-- After a run that fails its error is the outcome. -/
theorem outcome_bind_of_error {first : Run α} {error : Error}
    (failed : first.outcome = .error error) (second : α → Run β) :
    (first >>= second).outcome = .error error := by
  rw [bind_eq, andThen_of_error failed]

/-- What follows an event does not depend on it. -/
@[simp] theorem outcome_emit_bind (event : Event) (second : Unit → Run β) :
    (emit event >>= second).outcome = (second ()).outcome :=
  outcome_bind_of_ok (outcome_emit event) second

/-- The outcome of two runs in a row follows from their outcomes. -/
theorem outcome_bind (first : Run α) (second : α → Run β) :
    (first >>= second).outcome = first.outcome.bind fun value => (second value).outcome := by
  cases same : first.outcome with
  | error error => rw [outcome_bind_of_error same, Except.bind]
  | ok value => rw [outcome_bind_of_ok same, Except.bind]

/-- Two runs in a row have a value exactly when both have one. -/
theorem outcome_bind_eq_ok_iff {first : Run α} {second : α → Run β} {result : β} :
    (first >>= second).outcome = .ok result ↔
      ∃ value, first.outcome = .ok value ∧ (second value).outcome = .ok result := by
  cases same : first.outcome with
  | error error => simp [outcome_bind_of_error same]
  | ok value => simp [outcome_bind_of_ok same]

/-- A changed run has a value when the run has one. -/
theorem outcome_map_eq_ok_iff {change : α → β} {run : Run α} {result : β} :
    (change <$> run).outcome = .ok result ↔
      ∃ value, run.outcome = .ok value ∧ change value = result := by
  rw [map_eq_pure_bind, outcome_bind_eq_ok_iff]
  simp

/-- What follows a run that has a value unless an error was found. -/
theorem outcome_bind_of_unlessFound {first : Run α} {found : Option Error} {value : α}
    (ends : first.outcome = unlessFound found (.ok value)) (second : α → Run β) :
    (first >>= second).outcome = unlessFound found (second value).outcome := by
  cases found with
  | some error => exact outcome_bind_of_error ends second
  | none => exact outcome_bind_of_ok ends second

/-- Runs that agree after every value of the first are equal. -/
theorem bind_congr_of_ok {first : Run α} {second third : α → Run β}
    (agree : ∀ value, first.outcome = .ok value → second value = third value) :
    first >>= second = first >>= third := by
  cases same : first.outcome with
  | error error => rw [bind_eq, bind_eq, andThen_of_error same, andThen_of_error same]
  | ok value => rw [bind_eq, bind_eq, andThen_of_ok same, andThen_of_ok same, agree value same]

/-- The outcome of two runs in a row only depends on their outcomes. -/
theorem outcome_bind_congr {first other : Run α} {second third : α → Run β}
    (same : first.outcome = other.outcome)
    (agree : ∀ value, first.outcome = .ok value →
      (second value).outcome = (third value).outcome) :
    (first >>= second).outcome = (other >>= third).outcome := by
  cases ended : first.outcome with
  | error error =>
      rw [outcome_bind_of_error ended, outcome_bind_of_error (same.symm.trans ended)]
  | ok value =>
      rw [outcome_bind_of_ok ended, outcome_bind_of_ok (same.symm.trans ended), agree value ended]

/-- The log records of a run, in order. -/
def records (run : Run α) : List Record := run.trail.filterMap Event.record?

/-- The notes that instruments took during a run, in order. -/
def notes (run : Run α) : List String := run.trail.filterMap Event.note?

end Run

end DeployTree
