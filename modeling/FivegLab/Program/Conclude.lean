import FivegLab.Program.Logic
import FivegLab.Program.Realize

/-!
# Programs that conclude in a world

`Program.Concludes` is total: in the world, the program is never cut, so the
bound on the unrolling of its loops is large enough, and every run meets the
postcondition, which sees the trace besides the value and the final state.  An
operation that is itself a program answers as its runs do.
-/

namespace FivegLab

variable {I J : Interface} {W : Type} {α β σ τ ε : Type}

namespace Program

/-- `program.Cut trace`: after the calls in `trace`, the program is cut. -/
inductive Cut : Program I α → List (Event I) → Prop
  | unfinished : Cut .unfinished []
  | call {op : I.Op} {next : I.Reply op → Program I α} (reply : I.Reply op)
      {trace : List (Event I)} (rest : Cut (next reply) trace) :
      Cut (.call op next) (⟨op, reply⟩ :: trace)

/-- In the world, the program is never cut, and every run meets the postcondition. -/
structure Concludes (answers : Answers I W) (world : W) (post : α → List (Event I) → W → Prop)
    (program : Program I α) : Prop where
  uncut : ∀ {trace final}, program.Cut trace → ¬Admits answers world trace final
  ends : ∀ {trace value final}, program.Runs trace value → Admits answers world trace final →
    post value trace final

variable {answers : Answers I W} {world : W}

theorem concludes_done {value : α} {post : α → List (Event I) → W → Prop}
    (holds : post value [] world) : (Program.done value).Concludes answers world post where
  uncut := by rintro trace final ⟨⟩
  ends := by
    intro trace result final runs admits
    rcases runs_done_iff.mp runs with ⟨rfl, rfl⟩
    rw [admits_nil_iff] at admits
    subst final
    exact holds

theorem concludes_call {op : I.Op} {next : I.Reply op → Program I α}
    {post : α → List (Event I) → W → Prop}
    (continues : ∀ reply after, answers world op reply after →
      (next reply).Concludes answers after fun value trace final =>
        post value (⟨op, reply⟩ :: trace) final) :
    (Program.call op next).Concludes answers world post where
  uncut := by
    rintro trace final (_ | ⟨reply, rest⟩) admits
    rcases admits_cons_iff.mp admits with ⟨after, answer, admits⟩
    exact (continues reply after answer).uncut rest admits
  ends := by
    intro trace value final runs admits
    rcases runs_call_iff.mp runs with ⟨reply, rest, rfl, more⟩
    rcases admits_cons_iff.mp admits with ⟨after, answer, admits⟩
    exact (continues reply after answer).ends more admits

theorem Concludes.mono {program : Program I α} {post weaker : α → List (Event I) → W → Prop}
    (concludes : program.Concludes answers world post)
    (implies : ∀ value trace final, post value trace final → weaker value trace final) :
    program.Concludes answers world weaker where
  uncut := concludes.uncut
  ends runs admits := implies _ _ _ (concludes.ends runs admits)

/-- A cut composition is cut in its first part, or after a run of it. -/
theorem cut_bind_iff {program : Program I α} {next : α → Program I β} {trace : List (Event I)} :
    (program.bind next).Cut trace ↔ program.Cut trace ∨ ∃ first value rest,
      trace = first ++ rest ∧ program.Runs first value ∧ (next value).Cut rest := by
  induction program generalizing trace with
  | done value =>
      constructor
      · intro cut
        exact .inr ⟨[], value, trace, rfl, .done value, cut⟩
      · rintro (cut | ⟨first, result, rest, rfl, runs, cut⟩)
        · cases cut
        · rcases runs_done_iff.mp runs with ⟨rfl, rfl⟩
          exact cut
  | call op continuation ih =>
      constructor
      · rintro (_ | ⟨reply, cut⟩)
        rcases ih reply |>.mp cut with cut | ⟨first, value, rest, rfl, runs, cut⟩
        · exact .inl (.call reply cut)
        · exact .inr ⟨⟨op, reply⟩ :: first, value, rest, rfl, .call reply runs, cut⟩
      · rintro ((_ | ⟨reply, cut⟩) | ⟨_, value, rest, rfl, runs, cut⟩)
        · exact .call reply ((ih reply).mpr (.inl cut))
        · rcases runs_call_iff.mp runs with ⟨reply, first, rfl, more⟩
          exact .call reply ((ih reply).mpr (.inr ⟨first, value, rest, rfl, more, cut⟩))
  | unfinished =>
      constructor
      · rintro ⟨⟩
        exact .inl .unfinished
      · rintro (cut | ⟨_, _, _, _, runs, _⟩)
        · cases cut
          exact .unfinished
        · exact absurd runs not_runs_unfinished

theorem concludes_bind {program : Program I α} {next : α → Program I β}
    {post : β → List (Event I) → W → Prop}
    (concludes : program.Concludes answers world fun value first middle =>
      (next value).Concludes answers middle fun result rest final =>
        post result (first ++ rest) final) :
    (program.bind next).Concludes answers world post where
  uncut := by
    intro trace final cut admits
    rcases cut_bind_iff.mp cut with cut | ⟨first, value, rest, rfl, runs, cut⟩
    · exact concludes.uncut cut admits
    · rcases admits_append_iff.mp admits with ⟨middle, admitsFirst, admitsRest⟩
      exact (concludes.ends runs admitsFirst).uncut cut admitsRest
  ends := by
    intro trace result final runs admits
    rcases runs_bind_iff.mp runs with ⟨first, value, rest, rfl, runsFirst, runsRest⟩
    rcases admits_append_iff.mp admits with ⟨middle, admitsFirst, admitsRest⟩
    exact (concludes.ends runsFirst admitsFirst).ends runsRest admitsRest

end Program

/-- The answers of an interface whose operations are programs in a world. -/
def Realization.serving (realization : Realization I J) (answers : Answers J W) : Answers I W :=
  fun world op reply after =>
    ∃ trace, (realization op).Runs trace reply ∧ Admits answers world trace after

namespace Program

variable {realization : Realization I J} {answers : Answers J W} {world : W}

/-- A realized program concludes as the original does with the answers of the
programs, if these conclude. -/
theorem concludes_realize {program : Program I α} {post : α → List (Event I) → W → Prop}
    (whole : ∀ op world, (realization op).Concludes answers world fun _ _ _ => True)
    (concludes : program.Concludes (realization.serving answers) world post) :
    (program.realize realization).Concludes answers world fun value trace final =>
      ∃ abstract, program.Runs abstract value ∧ Served realization abstract trace ∧
        post value abstract final := by
  induction program generalizing world post with
  | done value =>
      exact concludes_done ⟨[], .done value, .nil, concludes.ends (.done value) (.nil _)⟩
  | call op next ih =>
      refine concludes_bind ⟨(whole op world).uncut, ?_⟩
      intro first reply middle serves admits
      have answer : realization.serving answers world op reply middle := ⟨first, serves, admits⟩
      have continues : (next reply).Concludes (realization.serving answers) middle
          fun value trace final => post value (⟨op, reply⟩ :: trace) final :=
        ⟨fun cut rest => concludes.uncut (.call reply cut) (.cons answer rest),
          fun runs rest => concludes.ends (.call reply runs) (.cons answer rest)⟩
      refine (ih reply continues).mono ?_
      rintro value rest final ⟨abstract, runs, served, holds⟩
      exact ⟨⟨op, reply⟩ :: abstract, .call reply runs, .cons serves served, holds⟩
  | unfinished => exact absurd (.nil world) (concludes.uncut .unfinished)

end Program

namespace Routine

/-- From every state, the routine concludes in the world. -/
def Concludes (answers : Answers I W) (world : W)
    (post : Except ε α → List (Event I) → W → Prop) (routine : Routine I σ ε α) : Prop :=
  ∀ before, (routine before).Concludes answers world fun ended trace final =>
    post ended.1 trace final

variable {answers : Answers I W} {world : W}

theorem concludes_pure {value : α} {post : Except ε α → List (Event I) → W → Prop}
    (holds : post (.ok value) [] world) :
    (pure value : Routine I σ ε α).Concludes answers world post :=
  fun _ => Program.concludes_done holds

theorem concludes_raise {error : ε} {post : Except ε α → List (Event I) → W → Prop}
    (holds : post (.error error) [] world) :
    (raise error : Routine I σ ε α).Concludes answers world post :=
  fun _ => Program.concludes_done holds

theorem concludes_state {post : Except ε σ → List (Event I) → W → Prop}
    (holds : ∀ state, post (.ok state) [] world) :
    (state : Routine I σ ε σ).Concludes answers world post :=
  fun before => Program.concludes_done (holds before)

theorem concludes_update {change : σ → σ} {post : Except ε Unit → List (Event I) → W → Prop}
    (holds : post (.ok ()) [] world) :
    (update change : Routine I σ ε Unit).Concludes answers world post :=
  fun _ => Program.concludes_done holds

theorem concludes_ofExcept {value : Except ε α} {post : Except ε α → List (Event I) → W → Prop}
    (holds : post value [] world) :
    (ofExcept value : Routine I σ ε α).Concludes answers world post := by
  cases value with
  | error => exact concludes_raise holds
  | ok => exact concludes_pure holds

theorem concludes_call (op : I.Op) {post : Except ε (I.Reply op) → List (Event I) → W → Prop}
    (holds : ∀ reply after, answers world op reply after → post (.ok reply) [⟨op, reply⟩] after) :
    (call op : Routine I σ ε (I.Reply op)).Concludes answers world post :=
  fun _ => Program.concludes_call fun reply after answer =>
    Program.concludes_done (holds reply after answer)

theorem Concludes.mono {routine : Routine I σ ε α}
    {post weaker : Except ε α → List (Event I) → W → Prop}
    (concludes : routine.Concludes answers world post)
    (implies : ∀ ended trace final, post ended trace final → weaker ended trace final) :
    routine.Concludes answers world weaker :=
  fun before => (concludes before).mono fun _ _ _ => implies _ _ _

theorem concludes_bind {routine : Routine I σ ε α} {next : α → Routine I σ ε β}
    {post : Except ε β → List (Event I) → W → Prop}
    (concludes : routine.Concludes answers world fun ended first middle =>
      match ended with
      | .ok value => (next value).Concludes answers middle fun result rest final =>
          post result (first ++ rest) final
      | .error error => post (.error error) first middle) :
    (routine >>= next).Concludes answers world post := by
  intro before
  refine Program.concludes_bind ((concludes before).mono ?_)
  rintro ⟨error | value, after⟩ first middle continues
  · exact Program.concludes_done (by simpa using continues)
  · exact continues after

theorem concludes_attempt {routine : Routine I σ ε α}
    {post : Except ε (Except ε α) → List (Event I) → W → Prop}
    (concludes : routine.Concludes answers world fun ended => post (.ok ended)) :
    (attempt routine).Concludes answers world post := by
  intro before
  refine Program.concludes_bind ((concludes before).mono ?_)
  intro ended first middle holds
  exact Program.concludes_done (by simpa using holds)

theorem concludes_within_realize {realization : Realization J I} {start : τ}
    {routine : Routine J τ ε α} {post : Except ε α → List (Event J) → W → Prop}
    (whole : ∀ op world, (realization op).Concludes answers world fun _ _ _ => True)
    (concludes : routine.Concludes (realization.serving answers) world post) :
    (within start (routine.realize realization) : Routine I σ ε α).Concludes answers world
      fun ended trace final => ∃ abstract after, routine.Runs start abstract ended after ∧
        Served realization abstract trace ∧ post ended abstract final := by
  intro before
  refine Program.concludes_bind ((Program.concludes_realize whole (concludes start)).mono ?_)
  rintro ended first middle ⟨abstract, runs, served, holds⟩
  exact Program.concludes_done ⟨abstract, ended.2, runs, by simpa using served, holds⟩

theorem concludes_ending {routine : Routine I Unit ε α}
    {post : Except ε α → List (Event I) → W → Prop}
    (concludes : routine.Concludes answers world post) :
    routine.ending.Concludes answers world post := by
  refine Program.concludes_bind ((concludes ()).mono ?_)
  intro ended first middle holds
  exact Program.concludes_done (by simpa using holds)

end Routine

end FivegLab
