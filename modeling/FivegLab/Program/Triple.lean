import FivegLab.Program.Routine

/-!
# Triples

`Triple pre routine post fails`: from the states of a precondition, in a world that
answers the calls, every call meets its obligation, and the routine ends in the
postcondition when it returns and in `fails` when it raises.
-/

namespace FivegLab

variable {I : Interface} {W σ ε α β : Type}

/-- A world together with the events so far. -/
def Answers.recorded (answers : Answers I W) : Answers I (W × List (Event I)) :=
  fun before op reply after => answers before.1 op reply after.1 ∧
    after.2 = before.2 ++ [⟨op, reply⟩]

theorem Admits.recorded {answers : Answers I W} {world final : W} {trace : List (Event I)}
    (admits : Admits answers world trace final) (earlier : List (Event I)) :
    Admits answers.recorded (world, earlier) trace (final, earlier ++ trace) := by
  induction admits generalizing earlier with
  | nil world =>
      rw [List.append_nil]
      exact .nil _
  | @cons event trace world middle final answer _ ih =>
      have rest := ih (earlier ++ [event])
      rw [List.append_assoc] at rest
      have recorded : answers.recorded (world, earlier) event.op event.reply
        (middle, earlier ++ [event]) := ⟨answer, rfl⟩
      exact .cons recorded rest

namespace Routine

/-- One condition on the ends of a routine, from one for either way to end. -/
def EndsIn (post : α → σ → W → Prop) (fails : ε → σ → W → Prop) : Except ε α → σ → W → Prop
  | .ok value => post value
  | .error error => fails error

/-- From every state and world of the precondition, the routine ends as told. -/
structure Triple (answers : Answers I W) (obligation : W → I.Op → W → Prop) (pre : σ → W → Prop)
    (routine : Routine I σ ε α) (post : α → σ → W → Prop) (fails : ε → σ → W → Prop) : Prop where
  ensures : ∀ before world, pre before world →
    routine.Ensures answers obligation (EndsIn post fails) before world

variable {answers : Answers I W} {obligation : W → I.Op → W → Prop} {pre stronger : σ → W → Prop}
  {post weaker : α → σ → W → Prop} {fails worse : ε → σ → W → Prop} {routine : Routine I σ ε α}

theorem Triple.mono (triple : Triple answers obligation pre routine post fails)
    (before : ∀ state world, stronger state world → pre state world)
    (returns : ∀ value state world, post value state world → weaker value state world)
    (raises : ∀ error state world, fails error state world → worse error state world) :
    Triple answers obligation stronger routine weaker worse := by
  refine ⟨fun state world holds => ?_⟩
  refine Ensures.mono (triple.ensures state world (before state world holds)) ?_
  rintro (error | value) after final ended
  · exact raises error after final ended
  · exact returns value after final ended

theorem triple_pure {value : α} (holds : ∀ state world, pre state world → post value state world) :
    Triple answers obligation pre (pure value : Routine I σ ε α) post fails :=
  ⟨holds⟩

theorem triple_raise {error : ε}
    (holds : ∀ state world, pre state world → fails error state world) :
    Triple answers obligation pre (raise error : Routine I σ ε α) post fails :=
  ⟨holds⟩

theorem triple_update {change : σ → σ} {post : Unit → σ → W → Prop}
    (holds : ∀ state world, pre state world → post () (change state) world) :
    Triple answers obligation pre (update change : Routine I σ ε Unit) post fails :=
  ⟨holds⟩

theorem triple_call {op : I.Op} {post : I.Reply op → σ → W → Prop}
    (holds : ∀ state world, pre state world → ∀ reply after, answers world op reply after →
      obligation world op after ∧ post reply state after) :
    Triple answers obligation pre (call op : Routine I σ ε (I.Reply op)) post fails :=
  ⟨holds⟩

/-- The second part starts in what the first part ensures of its value. -/
theorem Triple.bind {next : α → Routine I σ ε β} {last : β → σ → W → Prop}
    (first : Triple answers obligation pre routine post fails)
    (rest : ∀ value, Triple answers obligation (post value) (next value) last fails) :
    Triple answers obligation pre (routine >>= next) last fails := by
  refine ⟨fun before world holds => ?_⟩
  rw [ensures_bind]
  refine Ensures.mono (first.ensures before world holds) ?_
  rintro (error | value) after final ended
  · exact ended
  · exact (rest value).ensures after final ended

/-- The state is that of the precondition. -/
theorem triple_state_bind {next : σ → Routine I σ ε β} {last : β → σ → W → Prop}
    (rest : ∀ state, Triple answers obligation
      (fun before world => before = state ∧ pre before world) (next state) last fails) :
    Triple answers obligation pre (Routine.state >>= next) last fails :=
  ⟨fun before world holds => (rest before).ensures before world ⟨rfl, holds⟩⟩

/-- A fact that the precondition gives. -/
theorem Triple.of_fact {fact : Prop}
    (triple : fact → Triple answers obligation pre routine post fails) :
    Triple answers obligation (fun state world => pre state world ∧ fact) routine post fails :=
  ⟨fun before world holds => (triple holds.2).ensures before world holds.1⟩

theorem Triple.ite {condition : Prop} [Decidable condition] {other : Routine I σ ε α}
    (first : condition → Triple answers obligation pre routine post fails)
    (second : ¬condition → Triple answers obligation pre other post fails) :
    Triple answers obligation pre (if condition then routine else other) post fails := by
  split
  case isTrue holds => exact first holds
  case isFalse holds => exact second holds

/-- However the routine ends, the next part starts there. -/
theorem Triple.attempt_bind {next : Except ε α → Routine I σ ε β} {last : β → σ → W → Prop}
    (first : Triple answers obligation pre routine post worse)
    (returned : ∀ value, Triple answers obligation (post value) (next (.ok value)) last fails)
    (raised : ∀ error, Triple answers obligation (worse error) (next (.error error)) last fails) :
    Triple answers obligation pre (attempt routine >>= next) last fails := by
  refine ⟨fun before world holds => ?_⟩
  rw [ensures_bind, ensures_attempt]
  refine Ensures.mono (first.ensures before world holds) ?_
  rintro (error | value) after final ended
  · exact (raised error).ensures after final ended
  · exact (returned value).ensures after final ended

/-- The end of a run. -/
theorem Triple.of_runs {before after : σ} {world final : W} {trace : List (Event I)}
    {outcome : Except ε α} (triple : Triple answers obligation pre routine post fails)
    (holds : pre before world) (runs : routine.Runs before trace outcome after)
    (admits : Admits answers world trace final) :
    EndsIn post fails outcome after final :=
  Ensures.of_runs (triple.ensures before world holds) runs admits

/-- A call of a run that may stop anywhere. -/
theorem Triple.of_emits {before : σ} {world now later : W} {trace : List (Event I)}
    {event : Event I} (triple : Triple answers obligation pre routine post fails)
    (holds : pre before world) (emits : routine.Emits before (trace ++ [event]))
    (admits : Admits answers world trace now) (answer : answers now event.op event.reply later) :
    obligation now event.op later :=
  Ensures.of_emits (triple.ensures before world holds) emits admits answer

end Routine

end FivegLab
