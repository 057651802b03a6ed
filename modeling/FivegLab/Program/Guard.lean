import FivegLab.Program.Routine

/-!
# Guards

What a routine may do, as one judgment with a rule for each combinator: it stays
in states that are kept, makes calls that are permitted after the events so far,
and only raises exceptions that those events account for.
-/

namespace FivegLab

open Routine

structure Guard (I : Interface) (σ ε : Type) where
  kept : σ → Prop
  permitted : List (Event I) → I.Op → Prop
  accounted : List (Event I) → ε → Prop

namespace Guard

variable {I : Interface} {σ ε α β : Type} {guard : Guard I σ ε}

/-- The routine is guarded when it starts in the state `before` after the events in `earlier`. -/
def At (guard : Guard I σ ε) (routine : Routine I σ ε α) (before : σ)
    (earlier : List (Event I)) : Prop :=
  routine.Ensures recording (fun earlier op _ => guard.permitted earlier op)
    (fun ended after later => guard.kept after ∧
      ∀ error, ended = .error error → guard.accounted later error) before earlier

/-- The routine is guarded wherever it starts. -/
def Holds (guard : Guard I σ ε) (routine : Routine I σ ε α) : Prop :=
  ∀ before earlier, guard.kept before → guard.At routine before earlier

theorem holds_pure (value : α) : guard.Holds (pure value) :=
  fun _ _ kept => ensures_pure.mpr ⟨kept, by simp⟩

theorem at_raise {error : ε} {before : σ} {earlier : List (Event I)} (kept : guard.kept before)
    (accounted : guard.accounted earlier error) :
    guard.At (raise error : Routine I σ ε α) before earlier := by
  refine ensures_raise.mpr ⟨kept, fun raised same => ?_⟩
  rw [Except.error.injEq] at same
  exact same ▸ accounted

theorem holds_raise {error : ε} (accounted : ∀ earlier, guard.accounted earlier error) :
    guard.Holds (raise error : Routine I σ ε α) :=
  fun _ earlier kept => at_raise kept (accounted earlier)

theorem holds_update {change : σ → σ} (keeps : ∀ before, guard.kept before →
    guard.kept (change before)) :
    guard.Holds (update change) :=
  fun before _ kept => ensures_update.mpr ⟨keeps before kept, by simp⟩

theorem at_bind {routine : Routine I σ ε α} {next : α → Routine I σ ε β} {before : σ}
    {earlier : List (Event I)} (first : guard.At routine before earlier)
    (rest : ∀ value, guard.Holds (next value)) : guard.At (routine >>= next) before earlier := by
  rw [At, ensures_bind]
  refine first.mono ?_
  intro ended after later reached
  cases ended with
  | error error => exact ⟨reached.1, by simpa using reached.2⟩
  | ok value => exact rest value after later reached.1

theorem holds_bind {routine : Routine I σ ε α} {next : α → Routine I σ ε β}
    (first : guard.Holds routine) (rest : ∀ value, guard.Holds (next value)) :
    guard.Holds (routine >>= next) :=
  fun before earlier kept => at_bind (first before earlier kept) rest

/-- What is read of the state is a kept state. -/
theorem holds_state {next : σ → Routine I σ ε β}
    (rest : ∀ before, guard.kept before → guard.Holds (next before)) :
    guard.Holds (state >>= next) :=
  fun before earlier kept => rest before kept before earlier kept

/-- A value that may be an error. -/
theorem holds_ofExcept {built : Except ε α} {next : α → Routine I σ ε β}
    (raises : ∀ error, built = .error error → ∀ earlier, guard.accounted earlier error)
    (rest : ∀ value, built = .ok value → guard.Holds (next value)) :
    guard.Holds (ofExcept built >>= next) := by
  cases built with
  | error error => exact holds_raise (raises error rfl)
  | ok value => exact rest value rfl

/-- A handler takes over with the exceptions that are accounted for. -/
theorem holds_attempt {routine : Routine I σ ε α} {next : Except ε α → Routine I σ ε β}
    (body : guard.Holds routine) (returned : ∀ value, guard.Holds (next (.ok value)))
    (raised : ∀ error before earlier, guard.kept before → guard.accounted earlier error →
      guard.At (next (.error error)) before earlier) :
    guard.Holds (attempt routine >>= next) := by
  intro before earlier kept
  rw [At, ensures_bind, ensures_attempt]
  refine (body before earlier kept).mono ?_
  intro ended after later reached
  cases ended with
  | error error => exact raised error after later reached.1 (reached.2 error rfl)
  | ok value => exact returned value after later reached.1

theorem holds_ite {condition : Prop} [Decidable condition] {yes no : Routine I σ ε α}
    (first : condition → guard.Holds yes) (second : ¬condition → guard.Holds no) :
    guard.Holds (if condition then yes else no) := by
  split
  case isTrue holds => exact first holds
  case isFalse fails => exact second fails

/-- Every call of a guarded routine is permitted. -/
theorem Holds.of_emits {routine : Routine I σ ε α} {before : σ} {earlier : List (Event I)}
    {event : Event I} (holds : guard.Holds routine) (kept : guard.kept before)
    (emits : routine.Emits before (earlier ++ [event])) : guard.permitted earlier event.op := by
  have admits := admits_recording [] earlier
  rw [List.nil_append] at admits
  exact (holds before [] kept).of_emits emits admits rfl

/-- An exception that escapes a guarded routine is accounted for. -/
theorem Holds.of_runs {routine : Routine I σ ε α} {before after : σ} {trace : List (Event I)}
    {error : ε} (holds : guard.Holds routine) (kept : guard.kept before)
    (runs : routine.Runs before trace (.error error) after) : guard.accounted trace error := by
  have admits := admits_recording [] trace
  rw [List.nil_append] at admits
  exact ((holds before [] kept).of_runs runs admits).2 error rfl

end Guard

end FivegLab
