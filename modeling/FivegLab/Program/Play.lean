import FivegLab.Program.Realize

/-!
# Playing a program

In a world that answers every operation in one way, a program has at most one
run, and the run can be computed.
-/

namespace FivegLab

variable {I : Interface} {W σ ε α β : Type}

/-- A world that has one answer to every operation. -/
abbrev Responder (I : Interface) (W : Type) := W → (op : I.Op) → I.Reply op × W

/-- The answers of a responder. -/
def Responder.answers (responder : Responder I W) : Answers I W :=
  fun before op reply after => responder before op = (reply, after)

theorem Admits.mono {answers wider : Answers I W} {trace : List (Event I)} {world final : W}
    (admits : Admits answers world trace final)
    (implies : ∀ before op reply after, answers before op reply after →
      wider before op reply after) : Admits wider world trace final := by
  induction admits with
  | nil => exact .nil _
  | cons answer _ ih => exact .cons (implies _ _ _ _ answer) ih

/-- Every event of an admitted trace was answered. -/
theorem Admits.answered {answers : Answers I W} {trace : List (Event I)} {world final : W}
    (admits : Admits answers world trace final) {event : Event I} (member : event ∈ trace) :
    ∃ before after, answers before event.op event.reply after := by
  induction admits with
  | nil => simp at member
  | cons answer _ ih =>
      rcases List.mem_cons.mp member with rfl | member
      · exact ⟨_, _, answer⟩
      · exact ih member

namespace Program

/-- Run a program against a responder. -/
def play (responder : Responder I W) : Program I α → W → Option (α × W)
  | .done value, world => some (value, world)
  | .call op next, world =>
      (next (responder world op).1).play responder (responder world op).2
  | .unfinished, _ => none

/-- The calls of a program that is played against a responder. -/
def transcript (responder : Responder I W) : Program I α → W → List (Event I)
  | .done _, _ => []
  | .call op next, world =>
      ⟨op, (responder world op).1⟩ ::
        (next (responder world op).1).transcript responder (responder world op).2
  | .unfinished, _ => []

/-- What is played is a run in the responder's world. -/
theorem runs_of_play {responder : Responder I W} {program : Program I α} {world final : W}
    {value : α} (played : program.play responder world = some (value, final)) :
    program.Runs (program.transcript responder world) value ∧
      Admits responder.answers world (program.transcript responder world) final := by
  induction program generalizing world with
  | done result =>
      simp only [play, Option.some.injEq, Prod.mk.injEq] at played
      rcases played with ⟨rfl, rfl⟩
      exact ⟨.done _, .nil _⟩
  | call op next ih =>
      rcases ih _ played with ⟨runs, admits⟩
      exact ⟨.call _ runs, .cons rfl admits⟩
  | unfinished => simp [play] at played

theorem play_bind {responder : Responder I W} {program : Program I α} {next : α → Program I β}
    {world : W} :
    (program.bind next).play responder world =
      (program.play responder world).bind fun ended => (next ended.1).play responder ended.2 := by
  induction program generalizing world with
  | done value => rfl
  | call op continuation ih => exact ih _
  | unfinished => rfl

theorem emits_transcript {responder : Responder I W} (program : Program I α) (world : W) :
    program.Emits (program.transcript responder world) := by
  induction program generalizing world with
  | done value => exact .stop _
  | call op next ih => exact .call _ (ih _ _)
  | unfinished => exact .stop _

/-- The rest only matters for what the first part returns. -/
theorem transcript_bind_congr {responder : Responder I W} {program : Program I α}
    {next next' : α → Program I β} {world : W}
    (rest : ∀ value after, program.play responder world = some (value, after) →
      (next value).transcript responder after = (next' value).transcript responder after) :
    (program.bind next).transcript responder world =
      (program.bind next').transcript responder world := by
  induction program generalizing world with
  | done value => exact rest value world rfl
  | call op continuation ih => exact congrArg _ (ih _ rest)
  | unfinished => rfl

/-- Against the responder, both programs do the same. -/
def PlaysAs (responder : Responder I W) (program other : Program I α) : Prop :=
  ∀ world, program.play responder world = other.play responder world

/-- It is enough that the rests do the same on what the first parts return. -/
theorem PlaysAs.bind {responder : Responder I W} {program other : Program I α}
    {next next' : α → Program I β} (first : PlaysAs responder program other)
    (rest : ∀ world value after, other.play responder world = some (value, after) →
      (next value).play responder after = (next' value).play responder after) :
    PlaysAs responder (program.bind next) (other.bind next') := by
  intro world
  rw [play_bind, play_bind, first world]
  cases played : other.play responder world with
  | none => rfl
  | some ended => exact rest world ended.1 ended.2 played

theorem PlaysAs.realize {J : Interface} {responder : Responder J W}
    {realization other : Realization I J}
    (same : ∀ op, PlaysAs responder (realization op) (other op)) (program : Program I α) :
    PlaysAs responder (program.realize realization) (program.realize other) := by
  induction program with
  | done value => exact fun _ => rfl
  | call op next ih => exact (same op).bind fun _ reply after _ => ih reply after
  | unfinished => exact fun _ => rfl

end Program

namespace Routine

/-- Played against a responder, the routine returns a value that passes a check. -/
def returns (responder : Responder I W) (routine : Routine I σ ε α) (before : σ) (world : W)
    (check : α → Bool) : Bool :=
  match (routine before).play responder world with
  | some ((.ok value, _), _) => check value
  | _ => false

theorem played_of_returns {responder : Responder I W} {routine : Routine I σ ε α} {before : σ}
    {world : W} {check : α → Bool} (returned : routine.returns responder before world check) :
    ∃ value after final, (routine before).play responder world = some ((.ok value, after), final) ∧
      check value := by
  rw [returns] at returned
  split at returned
  case h_1 value after final played => exact ⟨value, after, final, played, returned⟩
  case h_2 => exact absurd returned (by simp)

theorem runs_of_returns {responder : Responder I W} {routine : Routine I σ ε α} {before : σ}
    {world : W} {check : α → Bool} (returned : routine.returns responder before world check) :
    ∃ value after, routine.Runs before ((routine before).transcript responder world)
      (.ok value) after ∧ check value := by
  rcases played_of_returns returned with ⟨value, after, _, played, passes⟩
  exact ⟨value, after, (Program.runs_of_play played).1, passes⟩

theorem transcript_bind_congr {responder : Responder I W} {routine : Routine I σ ε α}
    {next next' : α → Routine I σ ε β} {before : σ} {world : W}
    (rest : ∀ value middle after,
      (routine before).play responder world = some ((.ok value, middle), after) →
      (next value middle).transcript responder after =
        (next' value middle).transcript responder after) :
    ((routine >>= next) before).transcript responder world =
      ((routine >>= next') before).transcript responder world := by
  refine Program.transcript_bind_congr ?_
  rintro ⟨error | value, middle⟩ after played
  · rfl
  · exact rest value middle after played

/-- Against the responder, both routines do the same. -/
def PlaysAs (responder : Responder I W) (routine other : Routine I σ ε α) : Prop :=
  ∀ before, Program.PlaysAs responder (routine before) (other before)

theorem PlaysAs.refl {responder : Responder I W} (routine : Routine I σ ε α) :
    PlaysAs responder routine routine :=
  fun _ _ => rfl

theorem PlaysAs.bind {responder : Responder I W} {routine other : Routine I σ ε α}
    {next next' : α → Routine I σ ε β} (first : PlaysAs responder routine other)
    (rest : ∀ value, PlaysAs responder (next value) (next' value)) :
    PlaysAs responder (routine >>= next) (other >>= next') := by
  intro before
  refine (first before).bind ?_
  rintro _ ⟨error | value, middle⟩ after _
  · rfl
  · exact rest value middle after

/-- The rests only have to agree on a value that the first part returns. -/
theorem PlaysAs.bind_of_played {responder : Responder I W} {routine : Routine I σ ε α}
    {next next' : α → Routine I σ ε β}
    (rest : ∀ before world value middle after,
      (routine before).play responder world = some ((.ok value, middle), after) →
      PlaysAs responder (next value) (next' value)) :
    PlaysAs responder (routine >>= next) (routine >>= next') := by
  intro before
  refine Program.PlaysAs.bind (fun _ => rfl) ?_
  rintro world ⟨error | value, middle⟩ after played
  · rfl
  · exact rest before world value middle after played middle after

theorem PlaysAs.ite {responder : Responder I W} {condition : Prop} [Decidable condition]
    {yes yes' no no' : Routine I σ ε α} (first : PlaysAs responder yes yes')
    (second : PlaysAs responder no no') :
    PlaysAs responder (if condition then yes else no) (if condition then yes' else no') := by
  split
  · exact first
  · exact second

theorem PlaysAs.returns_eq {responder : Responder I W} {routine other : Routine I σ ε α}
    (same : PlaysAs responder routine other) (before : σ) (world : W) (check : α → Bool) :
    routine.returns responder before world check = other.returns responder before world check := by
  rw [returns, returns, same before world]

end Routine

end FivegLab
