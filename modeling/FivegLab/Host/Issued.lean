import FivegLab.Host.Execute

/-!
# Issued commands

The commands that a trace of the host issues, in order, and which commands a
routine may issue at all.  Statements on the order of commands are statements on
this projection of the trace.
-/

namespace FivegLab

open Routine Host

/-- A command that was issued, and how it ended. -/
structure HostCommand where
  args : List String
  environment : List (String × String)
  ended : ProcessEnd
  deriving DecidableEq, Repr

/-- The command exited with zero. -/
def HostCommand.Succeeded (command : HostCommand) : Prop :=
  ∃ stdout stderr, command.ended = .exited 0 stdout stderr

@[simp]
def Event.issued : Event Host → Option HostCommand
  | ⟨.spawn args environment _, ended⟩ => some ⟨args, environment, ended⟩
  | _ => none

/-- The commands that a trace issues, in order. -/
def issued (trace : List (Event Host)) : List HostCommand := trace.filterMap Event.issued

@[simp]
theorem issued_nil : issued [] = [] := rfl

@[simp]
theorem issued_append (first rest : List (Event Host)) :
    issued (first ++ rest) = issued first ++ issued rest :=
  List.filterMap_append

@[simp]
theorem issued_cons (event : Event Host) (rest : List (Event Host)) :
    issued (event :: rest) = event.issued.toList ++ issued rest := by
  rw [issued, List.filterMap_cons]
  cases event.issued <;> rfl

/-- What comes before a command that a first part does not have includes that part. -/
theorem prefix_of_split {α : Type} {first rest before after : List α} {element : α}
    (split : first ++ rest = before ++ element :: after) (absent : element ∉ first) :
    first <+: before := by
  rcases List.append_eq_append_iff.mp split with ⟨middle, rfl, _⟩ | ⟨middle, rfl, rest_eq⟩
  · exact List.prefix_append _ _
  · cases middle with
    | nil => simp
    | cons head middle =>
        rw [List.cons_append, List.cons.injEq] at rest_eq
        exact absurd (by simp [rest_eq.1]) absent

/-- The operation is no command, or one with allowed arguments. -/
def HostOp.Issues (allowed : List String → Prop) : HostOp → Prop
  | .spawn args _ _ => allowed args
  | .subprocess args _ => allowed args
  | _ => True

/-- Every command that the routine issues is allowed. -/
def Issues {σ α : Type} (allowed : List String → Prop) (routine : Routine Host σ Raised α) : Prop :=
  routine.Calls (HostOp.Issues allowed)

section

variable {σ α β : Type} {allowed wider : List String → Prop}

theorem Issues.mono {routine : Routine Host σ Raised α} (issues : Issues allowed routine)
    (implies : ∀ args, allowed args → wider args) : Issues wider routine := by
  intro state
  refine (issues state).mono ?_
  intro op permitted
  cases op with
  | spawn args environment timeout => exact implies args permitted
  | subprocess args timeout => exact implies args permitted
  | _ => trivial

theorem Issues.bind {routine : Routine Host σ Raised α} {next : α → Routine Host σ Raised β}
    (first : Issues allowed routine) (rest : ∀ value, Issues allowed (next value)) :
    Issues allowed (routine >>= next) :=
  calls_bind first rest

/-- The rest only matters for a value that there is. -/
theorem Issues.ofExcept_bind {value : Except Raised α} {next : α → Routine Host σ Raised β}
    (rest : ∀ result, value = .ok result → Issues allowed (next result)) :
    Issues allowed (Routine.ofExcept value >>= next) := by
  cases value with
  | error error => exact fun _ => trivial
  | ok result => exact rest result rfl

theorem Issues.pure (value : α) : Issues allowed (Pure.pure value : Routine Host σ Raised α) :=
  calls_pure value

theorem Issues.ite {condition : Prop} [Decidable condition] {yes no : Routine Host σ Raised α}
    (first : Issues allowed yes) (second : Issues allowed no) :
    Issues allowed (if condition then yes else no) := by
  split
  · exact first
  · exact second

/-- A routine issues no command but those allowed. -/
theorem Issues.of_runs {routine : Routine Host σ Raised α} {before after : σ}
    {trace : List (Event Host)} {outcome : Except Raised α} (issues : Issues allowed routine)
    (runs : routine.Runs before trace outcome after) :
    ∀ command ∈ issued trace, allowed command.args := by
  intro command member
  rw [issued, List.mem_filterMap] at member
  rcases member with ⟨⟨op, reply⟩, member, found⟩
  have permitted := Calls.of_emits issues runs.emits _ member
  cases op with
  | spawn args environment timeout =>
      simp only [Event.issued, Option.some.injEq] at found
      subst found
      exact permitted
  | _ => simp [Event.issued] at found

/-- A routine that may issue no command issues none. -/
theorem Issues.silent {routine : Routine Host σ Raised α} {before after : σ}
    {trace : List (Event Host)} {outcome : Except Raised α}
    (issues : Issues (fun _ => False) routine)
    (runs : routine.Runs before trace outcome after) : issued trace = [] :=
  List.eq_nil_iff_forall_not_mem.mpr (issues.of_runs runs)

theorem issues_spawn {args : List String} {environment : List (String × String)} {timeout : ℕ}
    (permitted : allowed args) : Issues allowed (spawn args environment timeout) :=
  calls_call permitted

theorem issues_subprocess {args : List String} {timeout : ℕ} (permitted : allowed args) :
    Issues allowed (subprocess args timeout) :=
  calls_bind (calls_call permitted) fun _ => calls_ofExcept _

theorem issues_call {op : HostOp} (free : op.Issues allowed) :
    Issues allowed (Routine.call (I := Host) op : HostM op.Reply) :=
  calls_call free

/-- A call that may raise, and is no command. -/
theorem issues_fallible {op : HostOp} {next : op.Reply → Except Raised α}
    (free : op.Issues allowed) :
    Issues allowed (Routine.call (I := Host) op >>= fun reply => ofExcept (next reply) : HostM α) :=
  calls_bind (calls_call free) fun reply => calls_ofExcept (next reply)

theorem issues_pause (seconds : ℚ) : Issues allowed (pause seconds) := issues_fallible trivial

theorem issues_sleep (seconds : ℚ) : Issues allowed (sleep seconds) := by
  refine Issues.ite (calls_raise _) (Issues.ite (calls_raise _) ?_)
  exact issues_pause seconds

theorem issues_writeText (path : Path) (text : String) : Issues allowed (writeText path text) :=
  issues_fallible trivial

theorem issues_readText (path : Path) : Issues allowed (readText path) := issues_fallible trivial

theorem issues_parseFile (path : Path) : Issues allowed (parseFile path) := issues_fallible trivial

theorem issues_makeDirectory (path : Path) (existOk : Bool) :
    Issues allowed (makeDirectory path existOk) :=
  issues_fallible trivial

theorem issues_runCommand {args : List String} {timeout : ℕ}
    {environment : List (String × String)} (permitted : allowed args) :
    Issues allowed (runCommand args timeout environment) := by
  refine Issues.bind (issues_call trivial) fun previousTerm => ?_
  refine Issues.bind (Issues.ite ?_ (Issues.pure ())) fun _ => ?_
  · exact Issues.bind (issues_call trivial) fun _ => Issues.pure ()
  · exact Issues.bind (issues_spawn permitted) fun ended =>
      Issues.bind (issues_call trivial) fun _ => calls_ofExcept _

theorem issues_execute {args : List String} {timeout : ℕ} (permitted : allowed args) :
    Issues allowed (execute args timeout) :=
  Issues.bind (issues_spawn permitted) fun _ => calls_ofExcept _

theorem issues_existing (paths : List Path) : Issues allowed (existing paths) := by
  induction paths with
  | nil => exact Issues.pure _
  | cons path paths ih =>
      exact Issues.bind (issues_call trivial) fun _ => Issues.bind ih fun _ => Issues.pure _

theorem issues_parseFiles (paths : List Path) : Issues allowed (parseFiles paths) := by
  induction paths with
  | nil => exact Issues.pure _
  | cons path paths ih =>
      exact Issues.bind (issues_parseFile path) fun _ => Issues.bind ih fun _ => Issues.pure _

theorem issues_parseRuntimeEvents (logDir : Path) (extraLogs : List Path) :
    Issues allowed (parseRuntimeEvents logDir extraLogs) :=
  Issues.bind (issues_call trivial) fun _ =>
    Issues.bind (issues_existing extraLogs) fun _ => issues_parseFiles _

theorem issues_runtimeEvidence (outputDir : Path) (paths : List Path) :
    Issues allowed (runtimeEvidence outputDir paths) :=
  Issues.bind (issues_existing paths) fun _ => Issues.pure _

end

variable {before after : Unit} {trace : List (Event Host)}

theorem interruptOnTerm_issued {previousTerm : Disposition} {outcome : Except Raised Unit}
    (runs : (interruptOnTerm previousTerm).Runs before trace outcome after) :
    issued trace = [] ∧ outcome = .ok () := by
  unfold interruptOnTerm at runs
  split at runs
  · simp only [runs_bind_iff, runs_setSignal_iff, runs_pure_iff, reduceCtorEq, and_false,
      exists_false,
      false_or] at runs
    rcases runs with ⟨_, _, _, _, rfl, ⟨_, rfl, _⟩, rfl, rfl, _⟩
    exact ⟨rfl, rfl⟩
  · rw [runs_pure_iff] at runs
    exact ⟨by simp [runs.1], runs.2.1⟩

/-- Running a command issues it, and nothing else. -/
theorem runCommand_issued {args : List String} {timeout : ℕ}
    {environment : List (String × String)} {outcome : Except Raised CommandOutcome}
    (runs : (runCommand args timeout environment).Runs before trace outcome after) :
    ∃ ended, issued trace = [⟨args, environment, ended⟩] ∧
      outcome = CommandOutcome.ofEnd args timeout ended := by
  rw [runCommand, runs_bind_iff] at runs
  rcases runs with ⟨_, _, asked⟩ | ⟨_, previousTerm, _, _, rfl, asked, runs⟩
  · simp at asked
  · rcases runs_getSignal_iff.mp asked with ⟨_, rfl, _⟩
    rw [runs_bind_iff] at runs
    rcases runs with ⟨_, _, handled⟩ | ⟨_, _, _, _, rfl, handled, runs⟩
    · exact absurd (interruptOnTerm_issued handled).2 (by simp)
    · simp only [runs_bind_iff, runs_spawn_iff, runs_setSignal_iff, runs_ofExcept_iff, reduceCtorEq,
        and_false, exists_false, false_or] at runs
      rcases runs with ⟨_, ended, _, _, rfl, ⟨_, rfl, same⟩, _, _, _, _, rfl, ⟨_, rfl, _⟩, rfl, rfl,
        _⟩
      rw [Except.ok.injEq] at same
      subst same
      exact ⟨ended, by simp [(interruptOnTerm_issued handled).1], rfl⟩

end FivegLab
