import FivegLab.Host.Command
import FivegLab.Host.Execute
import Mathlib.Logic.Function.Basic

/-!
# The handlers of the signals

A world that keeps the handlers of both signals, in which a command or a pause is
only interrupted while a signal is not ignored.  A restoring routine leaves the
handlers as they were, and runs without interruption when both are ignored.
-/

namespace FivegLab

open Routine Host

/-- What is installed for each signal. -/
abbrev Signals := Signal → Disposition

/-- The handlers that Python starts with. -/
def startHandlers : Signals
  | .int => .other 1
  | .term => .other 0

/-- Both signals are ignored. -/
def Signals.ignored : Signals := fun _ => .ignored

/-- The exception is an interrupt. -/
def Raised.IsInterrupt (error : Raised) : Prop := error.kind = .keyboardInterrupt

/-- The process was interrupted. -/
def ProcessEnd.Interrupted : ProcessEnd → Prop
  | .raised error => error.IsInterrupt
  | _ => False

/-- The call was interrupted. -/
def Event.Interrupted : Event Host → Prop
  | ⟨.spawn _ _ _, ended⟩ => ended.Interrupted
  | ⟨.sleep _, .error error⟩ => error.IsInterrupt
  | _ => False

/-- The handlers after an operation. -/
def HostOp.handlers (op : HostOp) (before : Signals) : Signals :=
  match op with
  | .setSignal signal disposition => Function.update before signal disposition
  | _ => before

/-- The handler that an operation returns. -/
def HostOp.Tells (before : Signals) : (op : HostOp) → op.Reply → Prop
  | .getSignal signal, disposition => disposition = before signal
  | .setSignal signal _, previous => previous = before signal
  | _, _ => True

def signalAnswers : Answers Host Signals := fun before op reply after =>
  op.Tells before reply ∧ after = op.handlers before ∧
    (Event.Interrupted ⟨op, reply⟩ → before ≠ .ignored)

theorem signalAnswers_total (world : Signals) (op : HostOp) :
    ∃ reply after, signalAnswers world op reply after := by
  cases op with
  | spawn => exact ⟨.exited 0 "" "", world, trivial, rfl, False.elim⟩
  | subprocess => exact ⟨.ok ⟨0, "", ""⟩, world, trivial, rfl, False.elim⟩
  | getSignal signal => exact ⟨world signal, world, rfl, rfl, False.elim⟩
  | setSignal signal disposition => exact ⟨world signal, _, rfl, rfl, False.elim⟩
  | sleep => exact ⟨.ok (), world, trivial, rfl, False.elim⟩
  | monotonic | freeDisk => exact ⟨(0 : ℚ), world, trivial, rfl, False.elim⟩
  | utcNow | fact => exact ⟨"", world, trivial, rfl, False.elim⟩
  | which | connects | pathExists | isFile | isCharDevice =>
      exact ⟨true, world, trivial, rfl, False.elim⟩
  | resolve path => exact ⟨path, world, trivial, rfl, False.elim⟩
  | readText => exact ⟨.ok "", world, trivial, rfl, False.elim⟩
  | writeText | makeDirectory => exact ⟨.ok (), world, trivial, rfl, False.elim⟩
  | readBytes => exact ⟨.ok ([] : Bytes), world, trivial, rfl, False.elim⟩
  | glob => exact ⟨([] : List Path), world, trivial, rfl, False.elim⟩
  | validateRepo => exact ⟨.ok ([] : List Check), world, trivial, rfl, False.elim⟩
  | parseFile => exact ⟨.ok ([] : List String), world, trivial, rfl, False.elim⟩

/-- However the program ends, the handlers are as they were; and if both signals were
ignored then they are at every call. -/
def Program.Restoring {α : Type} (program : Program Host α) : Prop :=
  ∀ world, program.Satisfies signalAnswers (fun now _ _ => world = .ignored → now = .ignored)
    (fun _ after => after = world) world

def Restoring {σ α : Type} (routine : Routine Host σ Raised α) : Prop :=
  ∀ before, (routine before).Restoring

section

variable {σ α β : Type}

theorem restoring_pure (value : α) : Restoring (pure value : Routine Host σ Raised α) :=
  fun _ _ => rfl

theorem restoring_raise (error : Raised) : Restoring (raise error : Routine Host σ Raised α) :=
  fun _ _ => rfl

theorem restoring_ofExcept (value : Except Raised α) :
    Restoring (ofExcept value : Routine Host σ Raised α) := by
  cases value with
  | error error => exact restoring_raise error
  | ok value => exact restoring_pure value

theorem Restoring.bind {routine : Routine Host σ Raised α} {next : α → Routine Host σ Raised β}
    (first : Restoring routine) (rest : ∀ value, Restoring (next value)) :
    Restoring (routine >>= next) := by
  intro before world
  refine Program.satisfies_bind.mpr ((first before world).mono ?_)
  rintro ⟨error | value, middle⟩ after same
  · exact same
  · rw [same]
    exact rest value middle world

theorem Restoring.ite {condition : Prop} [Decidable condition] {yes no : Routine Host σ Raised α}
    (first : Restoring yes) (second : Restoring no) :
    Restoring (if condition then yes else no) := by
  split
  · exact first
  · exact second

/-- The operation does not install a handler. -/
def HostOp.Plain : HostOp → Prop
  | .setSignal _ _ => False
  | _ => True

theorem HostOp.handlers_of_plain {op : HostOp} (plain : op.Plain) (before : Signals) :
    op.handlers before = before := by
  cases op with
  | setSignal => exact absurd plain id
  | _ => rfl

theorem restoring_call {op : HostOp} (plain : op.Plain) :
    Restoring (call (I := Host) op : Routine Host σ Raised op.Reply) := by
  rintro before world reply after ⟨_, same, _⟩
  exact ⟨id, same.trans (op.handlers_of_plain plain world)⟩

theorem restoring_fallible {op : HostOp} {next : op.Reply → Except Raised α} (plain : op.Plain) :
    Restoring (call (I := Host) op >>= fun reply => ofExcept (next reply) :
      Routine Host σ Raised α) :=
  (restoring_call plain).bind fun reply => restoring_ofExcept (next reply)

theorem Restoring.within {τ : Type} {start : τ} {routine : Routine Host τ Raised α}
    (restoring : Restoring routine) :
    Restoring (Routine.within start routine : Routine Host σ Raised α) :=
  fun _ world => Program.satisfies_bind.mpr (restoring start world)

theorem Restoring.ending {routine : HostM α} (restoring : Restoring routine) :
    routine.ending.Restoring :=
  fun world => Program.satisfies_bind.mpr (restoring () world)

/-- A program is restoring if the programs of its operations are. -/
theorem restoring_realize {I : Interface} {realization : Realization I Host}
    (restoring : ∀ op, (realization op).Restoring) (routine : Routine I σ Raised α) :
    Restoring (routine.realize realization) := by
  intro before world
  rw [Routine.realize]
  generalize routine before = program
  induction program with
  | done value => exact rfl
  | call op next ih =>
      refine Program.satisfies_bind.mpr ((restoring op world).mono ?_)
      intro reply after same
      rw [same]
      exact ih reply
  | unfinished => trivial

end

theorem restoring_sleep (seconds : ℚ) : Restoring (sleep seconds) :=
  (restoring_raise _).ite ((restoring_raise _).ite (restoring_fallible trivial))

theorem restoring_writeText (path : Path) (text : String) : Restoring (writeText path text) :=
  restoring_fallible trivial

/-- A command installs its handler unless the signal is ignored, and the previous one
again behind it. -/
theorem restoring_runCommand (args : List String) (timeout : ℕ)
    (environment : List (String × String)) : Restoring (runCommand args timeout environment) := by
  intro before world
  have back {now : Signals} (others : ∀ signal, signal ≠ .term → now signal = world signal) :
      Function.update now .term (world .term) = world := by
    funext signal
    by_cases term : signal = .term
    · subst term
      simp
    · simp [term, others signal term]
  have restored (now : Signals) (others : ∀ signal, signal ≠ .term → now signal = world signal)
      (shielded : world = .ignored → now = .ignored) :
      (do
        let ended ← spawn args environment timeout
        let _ ← setSignal .term (world .term)
        ofExcept (CommandOutcome.ofEnd args timeout ended) : HostM CommandOutcome).Ensures
          signalAnswers (fun now _ _ => world = .ignored → now = .ignored)
          (fun _ _ after => after = world) before now := by
    rintro ended _ ⟨_, rfl, _⟩
    refine ⟨shielded, ?_⟩
    rintro previous _ ⟨_, rfl, _⟩
    refine ⟨shielded, ?_⟩
    cases CommandOutcome.ofEnd args timeout ended with
    | error error => exact back others
    | ok outcome => exact back others
  have handled : (do
      interruptOnTerm (world .term)
      let ended ← spawn args environment timeout
      let _ ← setSignal .term (world .term)
      ofExcept (CommandOutcome.ofEnd args timeout ended) : HostM CommandOutcome).Ensures
        signalAnswers (fun now _ _ => world = .ignored → now = .ignored)
        (fun _ _ after => after = world) before world := by
    unfold interruptOnTerm
    split
    · rename_i unignored
      rintro previous _ ⟨_, rfl, _⟩
      have unshielded : world ≠ .ignored := fun same => unignored (by rw [same]; rfl)
      refine ⟨id, restored _ ?_ fun same => absurd same unshielded⟩
      intro signal other
      exact Function.update_of_ne other _ _
    · exact restored world (fun _ _ => rfl) id
  rintro previous after ⟨told, same, _⟩
  have known : previous = world .term := told
  have unchanged : after = world := same
  rw [known, unchanged]
  exact ⟨id, handled⟩

theorem restoring_execute (args : List String) (timeout : ℕ) :
    Restoring (execute args timeout) := by
  have started : Restoring (spawn args [] timeout) := restoring_call trivial
  exact started.bind fun _ => restoring_ofExcept _

end FivegLab
