/-!
# Procedures

A procedure works on a state and may fail.  The state it has reached survives a failure, so that a
caller may go on from there.
-/

namespace SetupScript

/-- A computation that turns a state into a result or an error, and the state reached. -/
structure Procedure (State Error Result : Type) where
  run : State → Except Error Result × State

namespace Procedure

variable {State Outer Error Result Next : Type}

/-! ## Building blocks -/

/-- Leave the state alone. -/
def succeed (result : Result) : Procedure State Error Result :=
  ⟨fun state => (.ok result, state)⟩

/-- Fail, and leave the state alone. -/
def fail (error : Error) : Procedure State Error Result :=
  ⟨fun state => (.error error, state)⟩

/-- One procedure, and another that depends on its result; a failure ends both. -/
def andThen (first : Procedure State Error Result)
    (second : Result → Procedure State Error Next) : Procedure State Error Next :=
  ⟨fun state =>
    match first.run state with
    | (.ok result, reached) => (second result).run reached
    | (.error error, reached) => (.error error, reached)⟩

instance : Monad (Procedure State Error) where
  pure := succeed
  bind := andThen

/-- Look at the state. -/
def look : Procedure State Error State :=
  ⟨fun state => (.ok state, state)⟩

/-- Change the state. -/
def change (update : State → State) : Procedure State Error Unit :=
  ⟨fun state => (.ok (), update state)⟩

/-- Work on a part of a larger state. -/
def within (part : Outer → State) (replace : Outer → State → Outer)
    (procedure : Procedure State Error Result) : Procedure Outer Error Result :=
  ⟨fun outer =>
    let outcome := procedure.run (part outer)
    (outcome.1, replace outer outcome.2)⟩

/-- Go on behind a failure with what is done about it, in the state that was reached. -/
def orElse (procedure : Procedure State Error Result)
    (remedy : Error → Procedure State Error Result) : Procedure State Error Result :=
  ⟨fun state =>
    match procedure.run state with
    | (.ok result, reached) => (.ok result, reached)
    | (.error error, reached) => (remedy error).run reached⟩

instance : MonadExceptOf Error (Procedure State Error) where
  throw := fail
  tryCatch := orElse

/-- Take a result that is known as it is. -/
def ofExcept : Except Error Result → Procedure State Error Result
  | .ok result => succeed result
  | .error error => fail error

instance : MonadLift (Except Error) (Procedure State Error) where
  monadLift := ofExcept

/-! ## Equations -/

/-- A procedure succeeds or fails. -/
theorem run_cases (procedure : Procedure State Error Result) (state : State) :
    (∃ result reached, procedure.run state = (.ok result, reached)) ∨
      ∃ error reached, procedure.run state = (.error error, reached) := by
  cases ran : procedure.run state with
  | mk outcome reached =>
    cases outcome with
    | ok result => exact Or.inl ⟨result, reached, rfl⟩
    | error error => exact Or.inr ⟨error, reached, rfl⟩

theorem run_bind (first : Procedure State Error Result)
    (second : Result → Procedure State Error Next) (state : State) :
    (first >>= second).run state =
      match first.run state with
      | (.ok result, reached) => (second result).run reached
      | (.error error, reached) => (.error error, reached) := rfl

theorem run_bind_of_ok {first : Procedure State Error Result}
    {second : Result → Procedure State Error Next} {state reached : State} {result : Result}
    (step : first.run state = (.ok result, reached)) :
    (first >>= second).run state = (second result).run reached := by
  rw [run_bind, step]

theorem run_bind_of_error {first : Procedure State Error Result}
    {second : Result → Procedure State Error Next} {state reached : State} {error : Error}
    (step : first.run state = (.error error, reached)) :
    (first >>= second).run state = (.error error, reached) := by
  rw [run_bind, step]

/-- Two procedures succeed together if the first one does and then the second. -/
theorem run_bind_eq_ok_iff {first : Procedure State Error Result}
    {second : Result → Procedure State Error Next} {state reached : State} {result : Next} :
    (first >>= second).run state = (.ok result, reached) ↔
      ∃ value middle, first.run state = (.ok value, middle) ∧
        (second value).run middle = (.ok result, reached) := by
  rw [run_bind]
  constructor
  · intro step
    split at step
    · exact ⟨_, _, ‹_›, step⟩
    · cases step
  · rintro ⟨value, middle, firstStep, secondStep⟩
    rw [firstStep]
    exact secondStep

/-- Two procedures fail together if the first one does, or the second one behind it. -/
theorem run_bind_eq_error_iff {first : Procedure State Error Result}
    {second : Result → Procedure State Error Next} {state reached : State} {error : Error} :
    (first >>= second).run state = (.error error, reached) ↔
      first.run state = (.error error, reached) ∨
        ∃ value middle, first.run state = (.ok value, middle) ∧
          (second value).run middle = (.error error, reached) := by
  rw [run_bind]
  constructor
  · intro step
    split at step
    · exact Or.inr ⟨_, _, ‹_›, step⟩
    · cases step
      exact Or.inl ‹_›
  · rintro (firstStep | ⟨value, middle, firstStep, secondStep⟩)
    · rw [firstStep]
    · rw [firstStep]
      exact secondStep

/-- Of three procedures in a row, it makes no difference which two are put together first. -/
theorem run_bind_assoc {Last : Type} (first : Procedure State Error Result)
    (second : Result → Procedure State Error Next) (third : Next → Procedure State Error Last)
    (state : State) :
    (first >>= second >>= third).run state =
      (first >>= fun result => second result >>= third).run state := by
  rw [run_bind, run_bind, run_bind]
  rcases first.run state with ⟨error | result, reached⟩
  · rfl
  · rfl

/-! ## Measures -/

/-- A procedure never raises a measure of the state. -/
def Lowers (measure : State → Nat) (procedure : Procedure State Error Result) : Prop :=
  ∀ state, measure (procedure.run state).2 ≤ measure state

theorem lowers_pure (measure : State → Nat) (result : Result) :
    Lowers measure (pure result : Procedure State Error Result) :=
  fun _ => Nat.le_refl _

theorem lowers_fail (measure : State → Nat) (error : Error) :
    Lowers measure (fail error : Procedure State Error Result) :=
  fun _ => Nat.le_refl _

theorem lowers_look (measure : State → Nat) :
    Lowers measure (look : Procedure State Error State) :=
  fun _ => Nat.le_refl _

theorem lowers_change {measure : State → Nat} {update : State → State}
    (kept : ∀ state, measure (update state) = measure state) :
    Lowers measure (change update : Procedure State Error Unit) :=
  fun state => Nat.le_of_eq (kept state)

theorem lowers_bind {measure : State → Nat} {first : Procedure State Error Result}
    {second : Result → Procedure State Error Next} (low : Lowers measure first)
    (lows : ∀ result, Lowers measure (second result)) : Lowers measure (first >>= second) := by
  intro state
  have bound := low state
  rw [run_bind]
  split
  · rename_i result reached step
    rw [step] at bound
    exact Nat.le_trans (lows result reached) bound
  · rename_i error reached step
    rw [step] at bound
    exact bound

theorem lowers_within {part : Outer → State} {replace : Outer → State → Outer}
    {measure : State → Nat} {procedure : Procedure State Error Result}
    (replaced : ∀ outer state, part (replace outer state) = state)
    (low : Lowers measure procedure) :
    Lowers (fun outer => measure (part outer)) (within part replace procedure) := by
  intro outer
  simpa only [within, replaced] using low (part outer)

/-- If the first of two procedures lowers a measure strictly when it succeeds, so do both. -/
theorem lt_of_run_bind {measure : State → Nat} {first : Procedure State Error Result}
    {second : Result → Procedure State Error Next} {state reached : State} {result : Next}
    (lower : ∀ value after, first.run state = (.ok value, after) → measure after < measure state)
    (lows : ∀ value, Lowers measure (second value))
    (step : (first >>= second).run state = (.ok result, reached)) :
    measure reached < measure state := by
  rw [run_bind] at step
  split at step
  · rename_i value after first_step
    have bound := lows value after
    rw [step] at bound
    exact Nat.lt_of_le_of_lt bound (lower value after first_step)
  · cases step

end Procedure

end SetupScript
