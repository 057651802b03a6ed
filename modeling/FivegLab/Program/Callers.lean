import FivegLab.Program.Realize

/-!
# Calls and the operations they serve

A program that is realized makes calls on behalf of the operations it replaces.
Here every call is labelled with such an operation; without the labels the
program is the realized one.  The contract rule verifies a realized program:
each operation is verified once, against a contract, and the program against the
contracts.
-/

namespace FivegLab

variable {I J : Interface} {W τ α β σ ε : Type}

/-- A labelled event without its label. -/
def Event.unlabelled (event : Event (I.observing τ)) : Event I := ⟨event.op.2, event.reply⟩

/-- A world that does not see the labels. -/
def Answers.labelled (answers : Answers I W) : Answers (I.observing τ) W :=
  fun before op reply after => answers before op.2 reply after

theorem admits_labelled_iff {answers : Answers I W} {trace : List (Event (I.observing τ))}
    {world final : W} :
    Admits answers.labelled world trace final ↔
      Admits answers world (trace.map Event.unlabelled) final := by
  induction trace generalizing world with
  | nil => simp
  | cons event trace ih =>
      simp only [List.map_cons, admits_cons_iff, ih]
      rfl

namespace Program

/-- Label every call. -/
def labelled (label : τ) : Program I α → Program (I.observing τ) α
  | .done value => .done value
  | .call op next => .call (I := I.observing τ) (label, op) fun reply => (next reply).labelled label
  | .unfinished => .unfinished

/-- Forget the labels. -/
def unlabelled : Program (I.observing τ) α → Program I α
  | .done value => .done value
  | .call op next => .call op.2 fun reply => (next reply).unlabelled
  | .unfinished => .unfinished

theorem unlabelled_labelled (label : τ) (program : Program I α) :
    (program.labelled label).unlabelled = program := by
  induction program with
  | done value => rfl
  | call op next ih => simp only [labelled, unlabelled, ih]
  | unfinished => rfl

theorem unlabelled_bind (program : Program (I.observing τ) α)
    (next : α → Program (I.observing τ) β) :
    (program.bind next).unlabelled = program.unlabelled.bind fun value =>
      (next value).unlabelled := by
  induction program with
  | done value => rfl
  | call op continuation ih => simp only [Program.bind, unlabelled, ih]
  | unfinished => rfl

/-- The calls without labels are those of a labelled trace. -/
theorem emits_unlabelled_iff {program : Program (I.observing τ) α} {trace : List (Event I)} :
    program.unlabelled.Emits trace ↔
      ∃ seen, program.Emits seen ∧ seen.map Event.unlabelled = trace := by
  induction program generalizing trace with
  | done value => simp [unlabelled, emits_done_iff, eq_comm]
  | call op next ih =>
      rw [unlabelled, emits_call_iff]
      constructor
      · rintro (rfl | ⟨reply, rest, rfl, more⟩)
        · exact ⟨[], .stop _, rfl⟩
        · rcases (ih reply).mp more with ⟨seen, emits, rfl⟩
          exact ⟨⟨op, reply⟩ :: seen, emits_call_iff.mpr (.inr ⟨reply, seen, rfl, emits⟩), rfl⟩
      · rintro ⟨seen, emits, rfl⟩
        rcases emits_call_iff.mp emits with rfl | ⟨reply, rest, rfl, more⟩
        · exact .inl rfl
        · exact .inr ⟨reply, _, rfl, (ih reply).mpr ⟨rest, more, rfl⟩⟩
  | unfinished =>
      constructor
      · rintro ⟨⟩
        exact ⟨[], .stop _, rfl⟩
      · rintro ⟨seen, ⟨⟩, rfl⟩
        exact .stop _

/-- A labelled run is a run without the labels. -/
theorem Runs.unlabelled {program : Program (I.observing τ) α}
    {trace : List (Event (I.observing τ))} {value : α} (runs : program.Runs trace value) :
    program.unlabelled.Runs (trace.map Event.unlabelled) value := by
  induction runs with
  | done value => exact .done value
  | @call op next reply trace value rest ih => exact Runs.call (I := I) reply ih

/-- What is emitted up to some point is emitted. -/
theorem Emits.of_append {program : Program I α} {first rest : List (Event I)}
    (emits : program.Emits (first ++ rest)) : program.Emits first := by
  induction first generalizing program with
  | nil => exact .stop _
  | cons event first ih =>
      rcases emits with _ | ⟨reply, emits⟩
      exact .call reply (ih emits)

end Program

/-- Every call is labelled with the operation that it serves. -/
def Realization.labelled (realization : Realization I J) :
    Realization I (J.observing I.Op) := fun op => (realization op).labelled op

namespace Program

theorem unlabelled_realize (realization : Realization I J) (program : Program I α) :
    (program.realize realization.labelled).unlabelled = program.realize realization := by
  induction program with
  | done value => rfl
  | call op next ih =>
      simp only [realize, unlabelled_bind, Realization.labelled, unlabelled_labelled, ih]
  | unfinished => rfl

theorem satisfies_labelled {answers : Answers I W} {label : τ} {program : Program I α}
    {obligation : W → (I.observing τ).Op → W → Prop} {post : α → W → Prop} {world : W} :
    (program.labelled label).Satisfies answers.labelled obligation post world ↔
      program.Satisfies answers (fun before op after => obligation before (label, op) after)
        post world := by
  induction program generalizing world with
  | done value => rfl
  | call op next ih =>
      simp only [labelled, Satisfies, ih]
      rfl
  | unfinished => rfl

/-- The contract rule: a program that is verified against contracts may be
realized by programs that meet them. -/
theorem satisfies_realize {realization : Realization I J} {contract : Answers I W}
    {answers : Answers J W} {obligation : W → J.Op → W → Prop} {required : W → I.Op → Prop}
    {program : Program I α} {post : α → W → Prop} {world : W}
    (total : ∀ world op, ∃ reply after, contract world op reply after)
    (serves : ∀ world op, required world op →
      (realization op).Satisfies answers obligation (contract world op) world)
    (satisfied : program.Satisfies contract (fun before op _ => required before op) post world) :
    (program.realize realization).Satisfies answers obligation post world := by
  induction program generalizing world with
  | done value => exact satisfied
  | call op next ih =>
      rcases total world op with ⟨reply, after, possible⟩
      rw [realize, satisfies_bind]
      refine (serves world op (satisfied reply after possible).1).mono ?_
      intro reply after met
      exact ih reply (satisfied reply after met).2
  | unfinished => trivial

/-- The rest is only reached with a value that the first part returns. -/
theorem calls_bind_of_runs {allowed : I.Op → Prop} {program : Program I α}
    {next : α → Program I β} (first : program.Calls allowed)
    (rest : ∀ trace value, program.Runs trace value → (next value).Calls allowed) :
    (program.bind next).Calls allowed := by
  induction program with
  | done value => exact rest [] value (.done value)
  | call op continuation ih =>
      refine ⟨first.1, fun reply => ih reply (first.2 reply) fun trace value runs => ?_⟩
      exact rest _ value (.call reply runs)
  | unfinished => trivial

end Program

namespace Routine

variable {allowed : I.Op → Prop}

theorem calls_bind_of_runs {routine : Routine I σ ε α} {next : α → Routine I σ ε β}
    (first : routine.Calls allowed)
    (rest : ∀ before trace value after, routine.Runs before trace (.ok value) after →
      (next value).Calls allowed) :
    (routine >>= next).Calls allowed := by
  intro before
  refine Program.calls_bind_of_runs (first before) ?_
  rintro trace ⟨error | value, after⟩ runs
  · trivial
  · exact rest before trace value after runs after

/-- The rest is only reached with a value that there is. -/
theorem calls_ofExcept_bind {result : Except ε α} {next : α → Routine I σ ε β}
    (rest : ∀ value, result = .ok value → (next value).Calls allowed) :
    (ofExcept result >>= next).Calls allowed :=
  calls_bind_of_runs (calls_ofExcept result) fun _ _ value _ runs =>
    rest value (runs_ofExcept_iff.mp runs).2.1.symm

end Routine

end FivegLab
