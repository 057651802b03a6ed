import FivegLab.Program.Play
import Mathlib.Logic.Function.Basic

/-!
# Interleaved programs

Several programs call their operations on one shared world, in any order.  Each
is verified alone, in a world that may be changed between its calls within the
limits of a relation it relies on; the parallel rule then holds for all
interleavings.  A thread that has reached a milestone may be resumed with
another program.
-/

namespace FivegLab

variable {I : Interface} {W ι α : Type}

/-- The answers of a world that others may change before every call. -/
def interfered (rely : W → W → Prop) (answers : Answers I W) : Answers I W :=
  fun world op reply after => ∃ met, rely world met ∧ answers met op reply after

namespace Program

/-- The program only calls allowed operations and meets the postcondition, with
others interfering before its calls. -/
abbrev Withstands (rely : W → W → Prop) (answers : Answers I W) (allowed : I.Op → Prop)
    (post : α → W → Prop) (program : Program I α) (world : W) : Prop :=
  program.Satisfies (interfered rely answers) (fun _ op _ => allowed op) post world

variable {rely : W → W → Prop} {answers : Answers I W} {allowed : I.Op → Prop}
  {post : α → W → Prop} {program : Program I α} {world after : W}

/-- Interference from others is withstood when the postcondition is. -/
theorem Withstands.interfere (withstands : program.Withstands rely answers allowed post world)
    (trans : ∀ first second third, rely first second → rely second third → rely first third)
    (stable : ∀ value before after, post value before → rely before after → post value after)
    (interference : rely world after) :
    program.Withstands rely answers allowed post after := by
  cases program with
  | done value => exact stable value world after withstands interference
  | call op next =>
      rintro reply later ⟨met, more, answer⟩
      exact withstands reply later ⟨met, trans _ _ _ interference more, answer⟩
  | unfinished => trivial

end Program

/-- Threads over a shared world, each with the rest of its program. -/
structure Configuration (ι : Type) (I : Interface) (α W : Type) where
  threads : ι → Program I α
  world : W

variable [DecidableEq ι]

/-- The configurations that an interleaving of the threads can reach. -/
inductive Interleaves (answers : ι → Answers I W) (resume : α → Option (Program I α))
    (start : Configuration ι I α W) : Configuration ι I α W → Prop
  | start : Interleaves answers resume start start
  | call {configuration : Configuration ι I α W} {thread : ι} {op : I.Op}
      {next : I.Reply op → Program I α} {reply : I.Reply op} {after : W}
      (reached : Interleaves answers resume start configuration)
      (calls : configuration.threads thread = .call op next)
      (answer : answers thread configuration.world op reply after) :
      Interleaves answers resume start
        ⟨Function.update configuration.threads thread (next reply), after⟩
  | resume {configuration : Configuration ι I α W} {thread : ι} {value : α}
      {program : Program I α}
      (reached : Interleaves answers resume start configuration)
      (stands : configuration.threads thread = .done value)
      (resumes : resume value = some program) :
      Interleaves answers resume start
        ⟨Function.update configuration.threads thread program, configuration.world⟩

namespace Configuration

/-- Let one thread run to its next milestone. -/
def advance (responder : ι → Responder I W) (thread : ι)
    (configuration : Configuration ι I α W) : Option (Configuration ι I α W) := do
  let (value, after) ←
    (configuration.threads thread).play (responder thread) configuration.world
  return ⟨Function.update configuration.threads thread (.done value), after⟩

/-- Resume a thread that stands at a milestone. -/
def resumed (resume : α → Option (Program I α)) (thread : ι)
    (configuration : Configuration ι I α W) : Option (Configuration ι I α W) :=
  match configuration.threads thread with
  | .done value => do
      let program ← resume value
      return ⟨Function.update configuration.threads thread program, configuration.world⟩
  | _ => none

end Configuration

section

variable {answers : ι → Answers I W} {resume : α → Option (Program I α)}
  {start configuration : Configuration ι I α W} {invariant : W → Prop}
  {rely : ι → W → W → Prop} {allowed : ι → I.Op → Prop} {post : ι → α → W → Prop}

/-- A thread runs through the rest of its program while the others stand still. -/
theorem Interleaves.run {thread : ι} {trace : List (Event I)} {value : α} {after : W}
    (reached : Interleaves answers resume start configuration)
    (runs : (configuration.threads thread).Runs trace value)
    (admits : Admits (answers thread) configuration.world trace after) :
    Interleaves answers resume start
      ⟨Function.update configuration.threads thread (.done value), after⟩ := by
  generalize rest_eq : configuration.threads thread = rest at runs
  induction runs generalizing configuration with
  | done value =>
      rw [admits_nil_iff] at admits
      subst after
      rw [← rest_eq, Function.update_eq_self]
      exact reached
  | call reply _ ih =>
      rw [admits_cons_iff] at admits
      rcases admits with ⟨middle, answer, rest⟩
      have ran := ih (reached.call rest_eq answer) rest (by simp)
      simpa using ran

theorem Interleaves.advance {responder : ι → Responder I W} {thread : ι}
    {next : Configuration ι I α W} (reached : Interleaves answers resume start configuration)
    (responds : ∀ before op reply after,
      (responder thread).answers before op reply after → answers thread before op reply after)
    (advanced : configuration.advance responder thread = some next) :
    Interleaves answers resume start next := by
  simp only [Configuration.advance, Option.bind_eq_bind, Option.bind_eq_some_iff, Option.pure_def,
    Option.some.injEq, Prod.exists] at advanced
  rcases advanced with ⟨value, after, played, rfl⟩
  rcases Program.runs_of_play played with ⟨runs, admits⟩
  exact reached.run runs (admits.mono responds)

theorem Interleaves.resumed {thread : ι} {next : Configuration ι I α W}
    (reached : Interleaves answers resume start configuration)
    (again : configuration.resumed resume thread = some next) :
    Interleaves answers resume start next := by
  unfold Configuration.resumed at again
  split at again
  · rename_i value stands
    simp only [Option.bind_eq_bind, Option.bind_eq_some_iff, Option.pure_def,
      Option.some.injEq] at again
    rcases again with ⟨program, resumes, rfl⟩
    exact reached.resume stands resumes
  · cases again

/-- The parallel rule: threads that each withstand the interference they rely on
do so in every configuration reached, when the allowed calls of every thread
stay within what the others rely on. -/
theorem Interleaves.withstands (reached : Interleaves answers resume start configuration)
    (refl : ∀ thread world, invariant world → rely thread world world)
    (trans : ∀ thread first second third,
      rely thread first second → rely thread second third → rely thread first third)
    (stable : ∀ thread value before after,
      post thread value before → rely thread before after → post thread value after)
    (guarantee : ∀ thread before op reply after, invariant before → allowed thread op →
      answers thread before op reply after →
      invariant after ∧ ∀ other, other ≠ thread → rely other before after)
    (resumed : ∀ thread value program world, post thread value world →
      resume value = some program →
      program.Withstands (rely thread) (answers thread) (allowed thread) (post thread) world)
    (initially : invariant start.world)
    (starts : ∀ thread, (start.threads thread).Withstands (rely thread) (answers thread)
      (allowed thread) (post thread) start.world) :
    invariant configuration.world ∧ ∀ thread, (configuration.threads thread).Withstands
      (rely thread) (answers thread) (allowed thread) (post thread) configuration.world := by
  induction reached with
  | start => exact ⟨initially, starts⟩
  | @call configuration thread op next reply after _ calls answer ih =>
      rcases ih with ⟨holds, withstand⟩
      have own := withstand thread
      rw [calls] at own
      rcases own reply after ⟨_, refl thread _ holds, answer⟩ with ⟨permitted, rest⟩
      rcases guarantee thread _ op reply after holds permitted answer with ⟨holdsAfter, relied⟩
      refine ⟨holdsAfter, fun other => ?_⟩
      by_cases same : other = thread
      · subst other
        simpa using rest
      · simp only [ne_eq, same, not_false_eq_true, Function.update_of_ne]
        exact (withstand other).interfere (trans other) (stable other) (relied other same)
  | @resume configuration thread value program _ stands resumes ih =>
      rcases ih with ⟨holds, withstand⟩
      refine ⟨holds, fun other => ?_⟩
      by_cases same : other = thread
      · subst other
        have own := withstand thread
        rw [stands] at own
        simpa using resumed thread value program _ own resumes
      · simpa only [ne_eq, same, not_false_eq_true, Function.update_of_ne] using withstand other

end

end FivegLab
