import FivegLab.Program.Logic

/-!
# Routines: programs with a state and exceptions

A routine is a program over a mutable state that may end by raising an
exception.  What it wrote to the state before raising stays written, as it does
in the source language.  Over an interface that observes the state, every call
shows the state in which it is made, so a trace also tells what the state was at
each call.
-/

namespace FivegLab

/-- The operations of `I`, each seen together with the state of its caller. -/
abbrev Interface.observing (I : Interface) (σ : Type) : Interface where
  Op := σ × I.Op
  Reply op := I.Reply op.2

/-- A program over `I` with a state `σ` and exceptions `ε`. -/
def Routine (I : Interface) (σ ε α : Type) : Type :=
  σ → Program I (Except ε α × σ)

namespace Routine

variable {I : Interface} {σ ε α β W : Type}

/-- Go on with a value, or pass an exception through. -/
def resume (next : α → Routine I σ ε β) :
    Except ε α × σ → Program I (Except ε β × σ)
  | (.ok value, state) => next value state
  | (.error error, state) => .done (.error error, state)

instance : Monad (Routine I σ ε) where
  pure value := fun state => .done (.ok value, state)
  bind routine next := fun state => (routine state).bind (resume next)

/-- The current state. -/
def state : Routine I σ ε σ := fun state => .done (.ok state, state)

/-- Change the state. -/
def update (change : σ → σ) : Routine I σ ε Unit := fun state => .done (.ok (), change state)

/-- Raise an exception. -/
def raise (error : ε) : Routine I σ ε α := fun state => .done (.error error, state)

/-- Call an operation. -/
def call (op : I.Op) : Routine I σ ε (I.Reply op) := fun state =>
  .call op fun reply => .done (.ok reply, state)

/-- Call an operation and show it the state. -/
def observe (op : I.Op) : Routine (I.observing σ) σ ε (I.Reply op) := fun state =>
  .call (I := I.observing σ) (state, op) fun reply => .done (.ok reply, state)

/-- Run a routine and return how it ended, exception or value. -/
def attempt (routine : Routine I σ ε α) : Routine I σ ε (Except ε α) := fun state =>
  (routine state).bind fun ended => .done (.ok ended.1, ended.2)

/-- Return a value or raise an exception that was kept as a value. -/
def ofExcept : Except ε α → Routine I σ ε α
  | .ok value => pure value
  | .error error => raise error

/-- A routine that is still running when observation stops. -/
def unfinished : Routine I σ ε α := fun _ => .unfinished

/-- `routine.Runs before trace outcome after`: started in the state `before`, the
routine makes the calls in `trace` and ends with `outcome` in the state `after`. -/
def Runs (routine : Routine I σ ε α) (before : σ) (trace : List (Event I))
    (outcome : Except ε α) (after : σ) : Prop :=
  (routine before).Runs trace (outcome, after)

/-- The calls in `trace` can be made by the routine started in the state `before`. -/
def Emits (routine : Routine I σ ε α) (before : σ) (trace : List (Event I)) : Prop :=
  (routine before).Emits trace

variable {before after : σ} {trace : List (Event I)}

theorem Runs.emits {routine : Routine I σ ε α} {outcome : Except ε α}
    (runs : routine.Runs before trace outcome after) : routine.Emits before trace :=
  Program.Runs.emits runs

theorem Runs.unique {routine : Routine I σ ε α} {first first' rest rest' : List (Event I)}
    {outcome outcome' : Except ε α} {after after' : σ}
    (runs : routine.Runs before first outcome after)
    (runs' : routine.Runs before first' outcome' after') (same : first ++ rest = first' ++ rest') :
    first = first' ∧ outcome = outcome' ∧ after = after' ∧ rest = rest' := by
  rcases Program.Runs.unique runs runs' same with ⟨rfl, ended, rfl⟩
  rw [Prod.mk.injEq] at ended
  exact ⟨rfl, ended.1, ended.2, rfl⟩

@[simp]
theorem runs_pure_iff {value : α} {outcome : Except ε α} :
    (pure value : Routine I σ ε α).Runs before trace outcome after ↔
      trace = [] ∧ outcome = .ok value ∧ after = before := by
  simp [Runs, pure]

@[simp]
theorem runs_raise_iff {error : ε} {outcome : Except ε α} :
    (raise error : Routine I σ ε α).Runs before trace outcome after ↔
      trace = [] ∧ outcome = .error error ∧ after = before := by
  simp [Runs, raise]

@[simp]
theorem runs_state_iff {outcome : Except ε σ} :
    (state : Routine I σ ε σ).Runs before trace outcome after ↔
      trace = [] ∧ outcome = .ok before ∧ after = before := by
  simp [Runs, state]

@[simp]
theorem runs_update_iff {change : σ → σ} {outcome : Except ε Unit} :
    (update change : Routine I σ ε Unit).Runs before trace outcome after ↔
      trace = [] ∧ outcome = .ok () ∧ after = change before := by
  simp [Runs, update]

theorem runs_call_iff {op : I.Op} {outcome : Except ε (I.Reply op)} :
    (call op : Routine I σ ε (I.Reply op)).Runs before trace outcome after ↔
      ∃ reply, trace = [⟨op, reply⟩] ∧ outcome = .ok reply ∧ after = before := by
  constructor
  · rintro (_ | ⟨reply, _ | _⟩)
    exact ⟨reply, rfl, rfl, rfl⟩
  · rintro ⟨reply, rfl, rfl, rfl⟩
    exact .call reply (.done _)

@[simp]
theorem not_runs_unfinished {outcome : Except ε α} :
    ¬(unfinished : Routine I σ ε α).Runs before trace outcome after :=
  Program.not_runs_unfinished

@[simp]
theorem runs_ofExcept_iff {value outcome : Except ε α} :
    (ofExcept value : Routine I σ ε α).Runs before trace outcome after ↔
      trace = [] ∧ outcome = value ∧ after = before := by
  cases value <;> simp [ofExcept]

@[simp]
theorem runs_attempt_iff {routine : Routine I σ ε α} {outcome : Except ε (Except ε α)} :
    (attempt routine).Runs before trace outcome after ↔
      ∃ ended, outcome = .ok ended ∧ routine.Runs before trace ended after := by
  simp only [Runs, attempt, Program.runs_bind_iff, Program.runs_done_iff, Prod.mk.injEq]
  constructor
  · rintro ⟨first, ⟨ended, middle⟩, _, rfl, runs, rfl, rfl, rfl⟩
    exact ⟨ended, rfl, by simpa using runs⟩
  · rintro ⟨ended, rfl, runs⟩
    exact ⟨trace, (ended, after), [], by simp, runs, rfl, rfl, rfl⟩

/-- A sequence ends with an exception of its first part, or runs the second part
on the value of the first. -/
theorem runs_bind_iff {routine : Routine I σ ε α} {next : α → Routine I σ ε β}
    {outcome : Except ε β} :
    (routine >>= next).Runs before trace outcome after ↔
      (∃ error, outcome = .error error ∧ routine.Runs before trace (.error error) after) ∨
      ∃ first value middle rest, trace = first ++ rest ∧
        routine.Runs before first (.ok value) middle ∧
        (next value).Runs middle rest outcome after := by
  simp only [Runs, bind, Program.runs_bind_iff]
  constructor
  · rintro ⟨first, ⟨value | value, middle⟩, rest, rfl, runsFirst, runsRest⟩
    · simp only [resume, Program.runs_done_iff, Prod.mk.injEq] at runsRest
      rcases runsRest with ⟨rfl, rfl, rfl⟩
      exact .inl ⟨value, rfl, by simpa using runsFirst⟩
    · exact .inr ⟨first, value, middle, rest, rfl, runsFirst, runsRest⟩
  · rintro (⟨error, rfl, runs⟩ | ⟨first, value, middle, rest, rfl, runsFirst, runsRest⟩)
    · exact ⟨trace, (.error error, after), [], by simp, runs, by simp [resume]⟩
    · exact ⟨first, (.ok value, middle), rest, rfl, runsFirst, runsRest⟩

/-- A sequence that returns runs both parts. -/
theorem runs_bind_ok_iff {routine : Routine I σ ε α} {next : α → Routine I σ ε β} {result : β} :
    (routine >>= next).Runs before trace (.ok result) after ↔
      ∃ first value middle rest, trace = first ++ rest ∧
        routine.Runs before first (.ok value) middle ∧
        (next value).Runs middle rest (.ok result) after := by
  simp [runs_bind_iff]

theorem Runs.bind {routine : Routine I σ ε α} {next : α → Routine I σ ε β} {outcome : Except ε β}
    {middle : σ} {rest : List (Event I)} {value : α}
    (first : routine.Runs before trace (.ok value) middle)
    (second : (next value).Runs middle rest outcome after) :
    (routine >>= next).Runs before (trace ++ rest) outcome after :=
  runs_bind_iff.mpr (.inr ⟨trace, value, middle, rest, rfl, first, second⟩)

theorem runs_state_bind_iff {next : σ → Routine I σ ε β} {outcome : Except ε β} :
    (state >>= next).Runs before trace outcome after ↔
      (next before).Runs before trace outcome after :=
  Iff.rfl

theorem runs_update_bind_iff {change : σ → σ} {next : Unit → Routine I σ ε β}
    {outcome : Except ε β} :
    (update change >>= next).Runs before trace outcome after ↔
      (next ()).Runs (change before) trace outcome after :=
  Iff.rfl

theorem runs_pure_bind_iff {value : α} {next : α → Routine I σ ε β} {outcome : Except ε β} :
    ((pure value : Routine I σ ε α) >>= next).Runs before trace outcome after ↔
      (next value).Runs before trace outcome after :=
  Iff.rfl

/-- What a sequence emits comes from its first part, or from a full run of the
first part followed by calls of the second. -/
theorem emits_bind_iff {routine : Routine I σ ε α} {next : α → Routine I σ ε β} :
    (routine >>= next).Emits before trace ↔
      routine.Emits before trace ∨
      ∃ first value middle rest, trace = first ++ rest ∧
        routine.Runs before first (.ok value) middle ∧ (next value).Emits middle rest := by
  simp only [Emits, Runs, bind, Program.emits_bind_iff]
  apply or_congr_right'
  intro notFirst
  constructor
  · rintro ⟨first, ⟨value | value, middle⟩, rest, rfl, runs, emits⟩
    · simp only [resume, Program.emits_done_iff] at emits
      subst rest
      exact absurd (by simpa using runs.emits) notFirst
    · exact ⟨first, value, middle, rest, rfl, runs, emits⟩
  · rintro ⟨first, value, middle, rest, rfl, runs, emits⟩
    exact ⟨first, (.ok value, middle), rest, rfl, runs, emits⟩

/-- A call that only returns its reply, in a routine without a state. -/
theorem runs_reply_iff {op : I.Op} {trace : List (Event I)} {outcome : Except ε (I.Reply op)} :
    (call op : Routine I Unit ε (I.Reply op)).Runs () trace outcome () ↔
      ∃ reply, trace = [⟨op, reply⟩] ∧ outcome = .ok reply := by
  simp [runs_call_iff]

/-- A call whose reply is a value or an exception to raise. -/
theorem runs_raising_iff {op : I.Op} {next : I.Reply op → Except ε α} {outcome : Except ε α} :
    (call op >>= fun reply => ofExcept (next reply) : Routine I σ ε α).Runs before
        trace outcome after ↔
      ∃ reply, trace = [⟨op, reply⟩] ∧ outcome = next reply ∧ after = before := by
  rw [runs_bind_iff]
  constructor
  · rintro (⟨error, _, called⟩ | ⟨first, reply, middle, rest, rfl, called, ended⟩)
    · simp [runs_call_iff] at called
    · rw [runs_call_iff] at called
      rw [runs_ofExcept_iff] at ended
      rcases called with ⟨_, rfl, ⟨⟩, rfl⟩
      rcases ended with ⟨rfl, rfl, rfl⟩
      exact ⟨reply, rfl, rfl, rfl⟩
  · rintro ⟨reply, rfl, rfl, rfl⟩
    exact .inr ⟨[⟨op, reply⟩], reply, after, [], rfl, runs_call_iff.mpr ⟨reply, rfl, rfl, rfl⟩,
      runs_ofExcept_iff.mpr ⟨rfl, rfl, rfl⟩⟩

/-- Such a call in a routine without a state. -/
theorem runs_fallible_iff {op : I.Op} {next : I.Reply op → Except ε α}
    {trace : List (Event I)} {outcome : Except ε α} :
    (call op >>= fun reply => ofExcept (next reply) : Routine I Unit ε α).Runs ()
        trace outcome () ↔
      ∃ reply, trace = [⟨op, reply⟩] ∧ outcome = next reply := by
  simp [runs_raising_iff]

/-- The weakest precondition of a routine in a world that answers its calls. -/
def Ensures (answers : Answers I W) (obligation : W → I.Op → W → Prop)
    (post : Except ε α → σ → W → Prop) (routine : Routine I σ ε α) (before : σ) (world : W) :
    Prop :=
  (routine before).Satisfies answers obligation (fun ended => post ended.1 ended.2) world

variable {answers : Answers I W} {obligation : W → I.Op → W → Prop}
  {world : W}

@[simp]
theorem ensures_pure {value : α} {post : Except ε α → σ → W → Prop} :
    (pure value : Routine I σ ε α).Ensures answers obligation post before world ↔
      post (.ok value) before world :=
  Iff.rfl

@[simp]
theorem ensures_raise {error : ε} {post : Except ε α → σ → W → Prop} :
    (raise error : Routine I σ ε α).Ensures answers obligation post before world ↔
      post (.error error) before world :=
  Iff.rfl

@[simp]
theorem ensures_state {post : Except ε σ → σ → W → Prop} :
    (state : Routine I σ ε σ).Ensures answers obligation post before world ↔
      post (.ok before) before world :=
  Iff.rfl

@[simp]
theorem ensures_update {change : σ → σ} {post : Except ε Unit → σ → W → Prop} :
    (update change : Routine I σ ε Unit).Ensures answers obligation post before world ↔
      post (.ok ()) (change before) world :=
  Iff.rfl

@[simp]
theorem ensures_ofExcept {value : Except ε α} {post : Except ε α → σ → W → Prop} :
    (ofExcept value : Routine I σ ε α).Ensures answers obligation post before world ↔
      post value before world := by
  cases value <;> rfl

@[simp]
theorem ensures_attempt {routine : Routine I σ ε α}
    {post : Except ε (Except ε α) → σ → W → Prop} :
    (attempt routine).Ensures answers obligation post before world ↔
      routine.Ensures answers obligation (fun ended => post (.ok ended)) before world :=
  Program.satisfies_bind

theorem ensures_bind {routine : Routine I σ ε α} {next : α → Routine I σ ε β}
    {post : Except ε β → σ → W → Prop} :
    (routine >>= next).Ensures answers obligation post before world ↔
      routine.Ensures answers obligation (fun ended middle world =>
        match ended with
        | .ok value => (next value).Ensures answers obligation post middle world
        | .error error => post (.error error) middle world) before world := by
  refine Program.satisfies_bind.trans ⟨fun satisfied => ?_, fun satisfied => ?_⟩
  · refine Program.Satisfies.mono satisfied ?_
    rintro ⟨error | value, middle⟩ world rest
    · exact rest
    · exact rest
  · refine Program.Satisfies.mono satisfied ?_
    rintro ⟨error | value, middle⟩ world rest
    · exact rest
    · exact rest

theorem Ensures.mono {routine : Routine I σ ε α} {post weaker : Except ε α → σ → W → Prop}
    (ensured : routine.Ensures answers obligation post before world)
    (implies : ∀ ended state world, post ended state world → weaker ended state world) :
    routine.Ensures answers obligation weaker before world :=
  Program.Satisfies.mono ensured fun _ _ => implies _ _ _

theorem Ensures.of_runs {routine : Routine I σ ε α} {post : Except ε α → σ → W → Prop}
    {final : W} {outcome : Except ε α}
    (ensured : routine.Ensures answers obligation post before world)
    (runs : routine.Runs before trace outcome after) (admits : Admits answers world trace final) :
    post outcome after final := by
  have satisfied : (routine before).Satisfies answers obligation
      (fun ended => post ended.1 ended.2) world := ensured
  exact satisfied.of_runs runs admits

theorem Ensures.of_emits {routine : Routine I σ ε α} {post : Except ε α → σ → W → Prop}
    {now later : W} {event : Event I}
    (ensured : routine.Ensures answers obligation post before world)
    (emits : routine.Emits before (trace ++ [event])) (admits : Admits answers world trace now)
    (answer : answers now event.op event.reply later) :
    obligation now event.op later :=
  Program.Satisfies.of_emits ensured emits admits answer

end Routine

end FivegLab
