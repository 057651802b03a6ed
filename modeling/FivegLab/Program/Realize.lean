import FivegLab.Program.Routine

/-!
# Realizing an interface

Each operation of an interface may itself be a program over another interface.
Realizing a program replaces every call by the program of its operation; a run
of the result is a run of the original with every event served by a run of its
operation.  `Program.Calls` confines the operations that a program may call.
-/

namespace FivegLab

variable {I J : Interface} {α β σ ε : Type}

/-- A program over `J` for every operation of `I`. -/
abbrev Realization (I J : Interface) := (op : I.Op) → Program J (I.Reply op)

namespace Program

/-- Replace every call by the program of its operation. -/
def realize (realization : Realization I J) : Program I α → Program J α
  | .done value => .done value
  | .call op next => (realization op).bind fun reply => (next reply).realize realization
  | .unfinished => .unfinished

/-- Every operation that the program may call is allowed. -/
def Calls (allowed : I.Op → Prop) : Program I α → Prop
  | .done _ => True
  | .call op next => allowed op ∧ ∀ reply, (next reply).Calls allowed
  | .unfinished => True

end Program

/-- The events of a trace, each served by a run of its operation. -/
inductive Served (realization : Realization I J) : List (Event I) → List (Event J) → Prop
  | nil : Served realization [] []
  | cons {event : Event I} {trace : List (Event I)} {first rest : List (Event J)}
      (serves : (realization event.op).Runs first event.reply)
      (served : Served realization trace rest) :
      Served realization (event :: trace) (first ++ rest)

namespace Program

variable {realization : Realization I J} {allowed wider : I.Op → Prop}

theorem runs_realize_iff {program : Program I α} {trace : List (Event J)} {value : α} :
    (program.realize realization).Runs trace value ↔
      ∃ abstract, program.Runs abstract value ∧ Served realization abstract trace := by
  induction program generalizing trace with
  | done result =>
      simp only [realize, runs_done_iff]
      constructor
      · rintro ⟨rfl, rfl⟩
        exact ⟨[], ⟨rfl, rfl⟩, .nil⟩
      · rintro ⟨_, ⟨rfl, rfl⟩, ⟨⟩⟩
        exact ⟨rfl, rfl⟩
  | call op next ih =>
      simp only [realize, runs_bind_iff, runs_call_iff, ih]
      constructor
      · rintro ⟨first, reply, rest, rfl, serves, abstract, runs, served⟩
        exact ⟨⟨op, reply⟩ :: abstract, ⟨reply, abstract, rfl, runs⟩, .cons serves served⟩
      · rintro ⟨_, ⟨reply, abstract, rfl, runs⟩, _ | ⟨serves, served⟩⟩
        exact ⟨_, reply, _, rfl, serves, abstract, runs, served⟩
  | unfinished => simp [realize]

theorem calls_bind {program : Program I α} {next : α → Program I β}
    (first : program.Calls allowed) (rest : ∀ value, (next value).Calls allowed) :
    (program.bind next).Calls allowed := by
  induction program with
  | done value => exact rest value
  | call op continuation ih => exact ⟨first.1, fun reply => ih reply (first.2 reply)⟩
  | unfinished => trivial

theorem Calls.mono {program : Program I α} (calls : program.Calls allowed)
    (implies : ∀ op, allowed op → wider op) : program.Calls wider := by
  induction program with
  | done value => trivial
  | call op continuation ih =>
      exact ⟨implies op calls.1, fun reply => ih reply (calls.2 reply)⟩
  | unfinished => trivial

theorem calls_of_forall (permitted : ∀ op, allowed op) (program : Program I α) :
    program.Calls allowed := by
  induction program with
  | done value => trivial
  | call op continuation ih => exact ⟨permitted op, ih⟩
  | unfinished => trivial

/-- What a confined program emits are allowed calls. -/
theorem Calls.of_emits {program : Program I α} {trace : List (Event I)}
    (calls : program.Calls allowed) (emits : program.Emits trace) :
    ∀ event ∈ trace, allowed event.op := by
  induction emits with
  | stop => simp
  | call reply _ ih =>
      simp only [List.mem_cons, forall_eq_or_imp]
      exact ⟨calls.1, ih (calls.2 reply)⟩

theorem calls_realize {program : Program I α} {permitted : J.Op → Prop}
    (calls : program.Calls allowed)
    (realized : ∀ op, allowed op → (realization op).Calls permitted) :
    (program.realize realization).Calls permitted := by
  induction program with
  | done value => trivial
  | call op next ih =>
      exact calls_bind (realized op calls.1) fun reply => ih reply (calls.2 reply)
  | unfinished => trivial

end Program

namespace Routine

/-- Realize the operations of a routine. -/
def realize (realization : Realization I J) (routine : Routine I σ ε α) : Routine J σ ε α :=
  fun state => (routine state).realize realization

/-- Run a routine with a state of its own, and forget that state. -/
def within {τ : Type} (start : τ) (routine : Routine I τ ε α) : Routine I σ ε α := fun state =>
  (routine start).bind fun ended => .done (ended.1, state)

@[simp]
theorem runs_within_iff {τ : Type} {start : τ} {routine : Routine I τ ε α} {before after : σ}
    {trace : List (Event I)} {outcome : Except ε α} :
    (within start routine : Routine I σ ε α).Runs before trace outcome after ↔
      after = before ∧ ∃ final, routine.Runs start trace outcome final := by
  simp only [Runs, within, Program.runs_bind_iff, Program.runs_done_iff, Prod.mk.injEq]
  constructor
  · rintro ⟨first, ⟨ended, final⟩, _, rfl, runs, rfl, rfl, rfl⟩
    exact ⟨rfl, final, by simpa using runs⟩
  · rintro ⟨rfl, final, runs⟩
    exact ⟨trace, (outcome, final), [], by simp, runs, rfl, rfl, rfl⟩

/-- How a routine without a state ends. -/
def ending (routine : Routine I Unit ε α) : Program I (Except ε α) :=
  (routine ()).bind fun ended => .done ended.1

@[simp]
theorem runs_ending_iff {routine : Routine I Unit ε α} {trace : List (Event I)}
    {outcome : Except ε α} :
    routine.ending.Runs trace outcome ↔ routine.Runs () trace outcome () := by
  simp only [Runs, ending, Program.runs_bind_iff, Program.runs_done_iff]
  constructor
  · rintro ⟨first, ⟨ended, _⟩, _, rfl, runs, rfl, rfl⟩
    simpa using runs
  · intro runs
    exact ⟨trace, (outcome, ()), [], by simp, runs, rfl, rfl⟩

/-- Every operation that the routine may call is allowed. -/
def Calls (allowed : I.Op → Prop) (routine : Routine I σ ε α) : Prop :=
  ∀ state, (routine state).Calls allowed

variable {allowed : I.Op → Prop}

theorem calls_pure (value : α) : (pure value : Routine I σ ε α).Calls allowed :=
  fun _ => trivial

theorem calls_raise (error : ε) : (raise error : Routine I σ ε α).Calls allowed :=
  fun _ => trivial

theorem calls_state : (state : Routine I σ ε σ).Calls allowed :=
  fun _ => trivial

theorem calls_update (change : σ → σ) : (update change : Routine I σ ε Unit).Calls allowed :=
  fun _ => trivial

theorem calls_unfinished : (unfinished : Routine I σ ε α).Calls allowed :=
  fun _ => trivial

theorem calls_ofExcept (value : Except ε α) : (ofExcept value : Routine I σ ε α).Calls allowed := by
  cases value <;> exact fun _ => trivial

theorem calls_call {op : I.Op} (permitted : allowed op) :
    (call op : Routine I σ ε (I.Reply op)).Calls allowed :=
  fun _ => ⟨permitted, fun _ => trivial⟩

theorem calls_attempt {routine : Routine I σ ε α} (calls : routine.Calls allowed) :
    (attempt routine).Calls allowed :=
  fun state => Program.calls_bind (calls state) fun _ => trivial

theorem calls_bind {routine : Routine I σ ε α} {next : α → Routine I σ ε β}
    (first : routine.Calls allowed) (rest : ∀ value, (next value).Calls allowed) :
    (routine >>= next).Calls allowed := by
  intro state
  refine Program.calls_bind (first state) ?_
  rintro ⟨error | value, after⟩
  · trivial
  · exact rest value after

theorem calls_within {τ : Type} {start : τ} {routine : Routine I τ ε α}
    (calls : routine.Calls allowed) :
    (within start routine : Routine I σ ε α).Calls allowed :=
  fun _ => Program.calls_bind (calls start) fun _ => trivial

theorem calls_ending {routine : Routine I Unit ε α} (calls : routine.Calls allowed) :
    routine.ending.Calls allowed :=
  Program.calls_bind (calls ()) fun _ => trivial

theorem Calls.of_emits {routine : Routine I σ ε α} {before : σ} {trace : List (Event I)}
    (calls : routine.Calls allowed) (emits : routine.Emits before trace) :
    ∀ event ∈ trace, allowed event.op :=
  Program.Calls.of_emits (calls before) emits

/-- When a sequence makes a call that its first part is not allowed to make, the
first part has run before. -/
theorem emits_bind_of_calls {routine : Routine I σ ε α} {next : α → Routine I σ ε β} {before : σ}
    {start rest : List (Event I)} {event : Event I} (calls : routine.Calls allowed)
    (emits : (routine >>= next).Emits before (start ++ event :: rest))
    (forbidden : ¬allowed event.op) :
    ∃ first value middle more, start = first ++ more ∧
      routine.Runs before first (.ok value) middle ∧
      (next value).Emits middle (more ++ event :: rest) := by
  rcases emits_bind_iff.mp emits with
    emitsFirst | ⟨first, value, middle, last, split, runs, emitsRest⟩
  · exact absurd (calls.of_emits emitsFirst event (by simp)) forbidden
  · have absent : event ∉ first := fun member => forbidden (calls.of_emits runs.emits event member)
    rcases List.append_eq_append_iff.mp split with ⟨more, rfl, last_eq⟩ | ⟨more, rfl, last_eq⟩
    · cases more with
      | nil =>
          rw [List.append_nil] at runs
          exact ⟨start, value, middle, [], by simp, runs, by simpa [last_eq] using emitsRest⟩
      | cons head more =>
          rw [List.cons_append, List.cons.injEq] at last_eq
          exact absurd (by simp [last_eq.1]) absent
    · exact ⟨first, value, middle, more, rfl, runs, last_eq ▸ emitsRest⟩

/-- The routine only calls allowed operations, and leaves what `view` sees of the
state as it was, however it ends. -/
structure Confined {τ : Type} (allowed : I.Op → Prop) (view : σ → τ) (routine : Routine I σ ε α) :
    Prop where
  calls : routine.Calls allowed
  keeps : ∀ {before trace outcome after}, routine.Runs before trace outcome after →
    view after = view before

variable {τ : Type} {view : σ → τ}

theorem confined_pure (value : α) : (pure value : Routine I σ ε α).Confined allowed view where
  calls := calls_pure value
  keeps runs := by rw [(runs_pure_iff.mp runs).2.2]

theorem confined_raise (error : ε) : (raise error : Routine I σ ε α).Confined allowed view where
  calls := calls_raise error
  keeps runs := by rw [(runs_raise_iff.mp runs).2.2]

theorem confined_state : (state : Routine I σ ε σ).Confined allowed view where
  calls := calls_state
  keeps runs := by rw [(runs_state_iff.mp runs).2.2]

theorem confined_update {change : σ → σ} (same : ∀ state, view (change state) = view state) :
    (update change : Routine I σ ε Unit).Confined allowed view where
  calls := calls_update change
  keeps runs := by rw [(runs_update_iff.mp runs).2.2, same]

theorem confined_ofExcept (value : Except ε α) :
    (ofExcept value : Routine I σ ε α).Confined allowed view where
  calls := calls_ofExcept value
  keeps runs := by rw [(runs_ofExcept_iff.mp runs).2.2]

theorem confined_call {op : I.Op} (permitted : allowed op) :
    (call op : Routine I σ ε (I.Reply op)).Confined allowed view where
  calls := calls_call permitted
  keeps runs := by
    rcases runs_call_iff.mp runs with ⟨_, _, _, same⟩
    rw [same]

theorem confined_bind {routine : Routine I σ ε α} {next : α → Routine I σ ε β}
    (first : routine.Confined allowed view) (rest : ∀ value, (next value).Confined allowed view) :
    (routine >>= next).Confined allowed view where
  calls := calls_bind first.calls fun value => (rest value).calls
  keeps runs := by
    rcases runs_bind_iff.mp runs with ⟨_, _, raised⟩ | ⟨_, value, _, _, _, returned, runs⟩
    · exact first.keeps raised
    · exact ((rest value).keeps runs).trans (first.keeps returned)

end Routine

end FivegLab
