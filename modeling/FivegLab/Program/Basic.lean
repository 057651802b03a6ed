import Mathlib.Data.List.Basic

/-!
# Programs over an interface

A program calls operations of an interface and continues with the replies.  It
is the tree of everything it may do, one branch for each reply, so a statement
about all runs of a program is a statement about all replies of its
environment.  A run is recorded as the trace of its calls.

A loop without a bound of its own is unrolled a given number of times, and
`unfinished` marks the cut.  A cut program has no run, but it still emits the
calls made so far.
-/

namespace FivegLab

/-- The operations that a program may call, and the replies to each of them. -/
structure Interface where
  Op : Type
  Reply : Op → Type

/-- A call together with the reply it received. -/
structure Event (I : Interface) where
  op : I.Op
  reply : I.Reply op

/-- A program that calls operations of `I` and finally returns a value. -/
inductive Program (I : Interface) (α : Type) : Type
  | done (value : α)
  | call (op : I.Op) (next : I.Reply op → Program I α)
  | unfinished

namespace Program

variable {I : Interface} {α β : Type}

/-- Sequential composition. -/
protected def bind : Program I α → (α → Program I β) → Program I β
  | .done value, next => next value
  | .call op rest, next => .call op fun reply => (rest reply).bind next
  | .unfinished, _ => .unfinished

/-- `program.Runs trace value`: with the replies in `trace`, the program makes
exactly the calls in `trace` and returns `value`. -/
inductive Runs : Program I α → List (Event I) → α → Prop
  | done (value : α) : Runs (.done value) [] value
  | call {op : I.Op} {next : I.Reply op → Program I α} (reply : I.Reply op)
      {trace : List (Event I)} {value : α} (rest : Runs (next reply) trace value) :
      Runs (.call op next) (⟨op, reply⟩ :: trace) value

/-- `program.Emits trace`: the program can make the calls in `trace`, in this
order, whether or not it returns afterwards. -/
inductive Emits : Program I α → List (Event I) → Prop
  | stop (program : Program I α) : Emits program []
  | call {op : I.Op} {next : I.Reply op → Program I α} (reply : I.Reply op)
      {trace : List (Event I)} (rest : Emits (next reply) trace) :
      Emits (.call op next) (⟨op, reply⟩ :: trace)

@[simp]
theorem runs_done_iff {value result : α} {trace : List (Event I)} :
    (Program.done value).Runs trace result ↔ trace = [] ∧ result = value := by
  constructor
  · rintro ⟨⟩
    exact ⟨rfl, rfl⟩
  · rintro ⟨rfl, rfl⟩
    exact .done _

@[simp]
theorem runs_call_iff {op : I.Op} {next : I.Reply op → Program I α}
    {trace : List (Event I)} {result : α} :
    (Program.call op next).Runs trace result ↔
      ∃ reply rest, trace = ⟨op, reply⟩ :: rest ∧ (next reply).Runs rest result := by
  constructor
  · rintro (_ | ⟨reply, rest⟩)
    exact ⟨reply, _, rfl, rest⟩
  · rintro ⟨reply, rest, rfl, runs⟩
    exact .call reply runs

@[simp]
theorem not_runs_unfinished {trace : List (Event I)} {result : α} :
    ¬(Program.unfinished : Program I α).Runs trace result := by
  rintro ⟨⟩

/-- A run of a composition is a run of the first program followed by a run of
its continuation. -/
theorem runs_bind_iff {program : Program I α} {next : α → Program I β}
    {trace : List (Event I)} {result : β} :
    (program.bind next).Runs trace result ↔
      ∃ first value rest, trace = first ++ rest ∧
        program.Runs first value ∧ (next value).Runs rest result := by
  induction program generalizing trace with
  | done value =>
      constructor
      · intro runs
        exact ⟨[], value, trace, rfl, .done value, runs⟩
      · rintro ⟨first, value', rest, rfl, runsFirst, runsRest⟩
        rw [runs_done_iff] at runsFirst
        rcases runsFirst with ⟨rfl, rfl⟩
        exact runsRest
  | call op continuation ih =>
      simp only [Program.bind, runs_call_iff, ih]
      constructor
      · rintro ⟨reply, _, rfl, first, value, rest, rfl, runsFirst, runsRest⟩
        exact ⟨⟨op, reply⟩ :: first, value, rest, rfl, ⟨reply, first, rfl, runsFirst⟩, runsRest⟩
      · rintro ⟨_, value, rest, rfl, ⟨reply, first, rfl, runsFirst⟩, runsRest⟩
        exact ⟨reply, first ++ rest, rfl, first, value, rest, rfl, runsFirst, runsRest⟩
  | unfinished => simp [Program.bind]

/-- A trace has at most one run at its beginning. -/
theorem Runs.unique {program : Program I α} {first first' rest rest' : List (Event I)}
    {value value' : α} (runs : program.Runs first value) (runs' : program.Runs first' value')
    (same : first ++ rest = first' ++ rest') : first = first' ∧ value = value' ∧ rest = rest' := by
  induction runs generalizing first' with
  | done value =>
      rw [runs_done_iff] at runs'
      rcases runs' with ⟨rfl, rfl⟩
      exact ⟨rfl, rfl, by simpa using same⟩
  | call reply _ ih =>
      rcases runs_call_iff.mp runs' with ⟨reply', tail, rfl, more⟩
      simp only [List.cons_append, List.cons.injEq, Event.mk.injEq, heq_eq_eq, true_and] at same
      rcases same with ⟨rfl, same⟩
      rcases ih more same with ⟨rfl, rfl, rfl⟩
      exact ⟨rfl, rfl, rfl⟩

theorem Runs.emits {program : Program I α} {trace : List (Event I)} {value : α}
    (runs : program.Runs trace value) : program.Emits trace := by
  induction runs with
  | done value => exact .stop _
  | call reply _ ih => exact .call reply ih

theorem emits_done_iff {value : α} {trace : List (Event I)} :
    (Program.done value).Emits trace ↔ trace = [] := by
  constructor
  · rintro ⟨⟩
    rfl
  · rintro rfl
    exact .stop _

theorem emits_call_iff {op : I.Op} {next : I.Reply op → Program I α} {trace : List (Event I)} :
    (Program.call op next).Emits trace ↔
      trace = [] ∨ ∃ reply rest, trace = ⟨op, reply⟩ :: rest ∧ (next reply).Emits rest := by
  constructor
  · rintro (_ | ⟨reply, rest⟩)
    · exact .inl rfl
    · exact .inr ⟨reply, _, rfl, rest⟩
  · rintro (rfl | ⟨reply, rest, rfl, emits⟩)
    · exact .stop _
    · exact .call reply emits

/-- What a composition emits comes from the first program alone, or from a full
run of it followed by calls of its continuation. -/
theorem emits_bind_iff {program : Program I α} {next : α → Program I β}
    {trace : List (Event I)} :
    (program.bind next).Emits trace ↔
      program.Emits trace ∨ ∃ first value rest, trace = first ++ rest ∧
        program.Runs first value ∧ (next value).Emits rest := by
  induction program generalizing trace with
  | done value =>
      simp only [Program.bind, emits_done_iff, runs_done_iff]
      constructor
      · intro emits
        exact .inr ⟨[], value, trace, rfl, ⟨rfl, rfl⟩, emits⟩
      · rintro (rfl | ⟨_, _, rest, rfl, ⟨rfl, rfl⟩, emits⟩)
        · exact .stop _
        · exact emits
  | call op continuation ih =>
      simp only [Program.bind, emits_call_iff, runs_call_iff, ih]
      constructor
      · rintro (rfl | ⟨reply, rest, rfl, emits | ⟨first, value, last, rfl, runs, emits⟩⟩)
        · exact .inl (.inl rfl)
        · exact .inl (.inr ⟨reply, rest, rfl, emits⟩)
        · exact .inr ⟨⟨op, reply⟩ :: first, value, last, rfl, ⟨reply, first, rfl, runs⟩, emits⟩
      · rintro ((rfl | ⟨reply, rest, rfl, emits⟩) |
          ⟨_, value, last, rfl, ⟨reply, first, rfl, runs⟩, emits⟩)
        · exact .inl rfl
        · exact .inr ⟨reply, rest, rfl, .inl emits⟩
        · exact .inr ⟨reply, first ++ last, rfl, .inr ⟨first, value, last, rfl, runs, emits⟩⟩
  | unfinished =>
      constructor
      · rintro ⟨⟩
        exact .inl (.stop _)
      · rintro (⟨⟨⟩⟩ | ⟨_, _, _, _, runs, _⟩)
        · exact .stop _
        · exact absurd runs not_runs_unfinished

end Program

end FivegLab
