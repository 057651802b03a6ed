import FivegLab.Program.Triple
import Mathlib.Data.List.DropRight
import Mathlib.Data.String.Basic

/-!
# Shell scripts

Scripts under `set -e`: what they ask of their surroundings, and how they end.  A
script raises the status that it exits with.  Between its commands a signal may
arrive, which ends the script with status 1 (`trap 'exit 1' INT TERM`).
-/

namespace FivegLab

/-- A command that has ended. -/
structure Finished where
  status : ℕ
  stdout : String
  deriving DecidableEq, Repr

/-- What a script asks for. -/
inductive ShellOp
  | run (args : List String)
  | echo (line : String)
  | warn (line : String)
  /-- The lines that `grep` prints. -/
  | grep (lines : List String)
  /-- Has a signal arrived?  `exiting` tells that the trap of the exit is running. -/
  | signal (exiting : Bool)
  /-- Replace the script by a command; the reply is the status when that fails. -/
  | exec (args : List String)
  deriving DecidableEq, Repr

abbrev ShellOp.Reply : ShellOp → Type
  | .run _ => Finished
  | .echo _ => Unit
  | .warn _ => Unit
  | .grep _ => Unit
  | .signal _ => Bool
  | .exec _ => Option ℕ

abbrev Shell : Interface where
  Op := ShellOp
  Reply := ShellOp.Reply

/-- A script with variables of a type. -/
abbrev Script (σ : Type) := Routine Shell σ ℕ

namespace Script

open Routine

variable {σ α : Type}

/-- A signal that has arrived ends the script. -/
def pending (exiting : Bool := false) : Script σ Unit := do
  let arrived ← call (I := Shell) (.signal exiting)
  if arrived = true then raise 1

def command (args : List String) (exiting : Bool := false) : Script σ Finished := do
  let finished ← call (I := Shell) (.run args)
  pending exiting
  return finished

/-- A command that ends the script when it fails. -/
def must (args : List String) : Script σ String := do
  let finished ← command args
  if finished.status = 0 then return finished.stdout else raise finished.status

/-- A command that is a condition. -/
def succeeds (args : List String) (exiting : Bool := false) : Script σ Bool := do
  let finished ← command args exiting
  return decide (finished.status = 0)

def echo (line : String) : Script σ Unit := do
  call (I := Shell) (.echo line)
  pending

def warn (line : String) (exiting : Bool := false) : Script σ Unit := do
  call (I := Shell) (.warn line)
  pending exiting

/-- `$(...)`: the output without the line ends behind it. -/
def substitution (stdout : String) : String :=
  String.ofList (stdout.toList.rdropWhile (· = '\n'))

def textLines (text : String) : List (List Char) := text.toList.splitOn '\n'

/-- `printf '%s\n' "$text" | grep`: the lines that are selected. -/
def select (accepts : List Char → Bool) (text : String) : Script σ Unit := do
  let lines := (textLines text).filter accepts
  if lines = [] then raise 1
  else
    call (I := Shell) (.grep (lines.map String.ofList))
    pending

def whenArmed (armed : σ → Bool) (action : Script σ Unit) : Script σ Unit := do
  let vars ← state
  if armed vars = true then action

/-- `trap action EXIT`, as long as it is armed: the action runs before the script exits. -/
def onExit (armed : σ → Bool) (action : Script σ Unit) (body : Script σ α) : Script σ α := do
  let ended ← attempt body
  match ended with
  | .ok value => return value
  | .error status => do
      whenArmed armed action
      raise status

section

variable {W : Type} {answers : Answers Shell W} {obligation : W → ShellOp → W → Prop}
  {pre : σ → W → Prop} {fails : ℕ → σ → W → Prop} {exiting : Bool}

/-- A signal leaves the condition as it is, or ends the script as told. -/
def Survives (answers : Answers Shell W) (obligation : W → ShellOp → W → Prop) (exiting : Bool)
    (pre : σ → W → Prop) (fails : ℕ → σ → W → Prop) : Prop :=
  ∀ vars world arrived after, pre vars world → answers world (.signal exiting) arrived after →
    obligation world (.signal exiting) after ∧ pre vars after ∧
      (arrived = true → fails 1 vars after)

theorem Survives.pending (survives : Survives answers obligation exiting pre fails) :
    Triple answers obligation pre (pending exiting) (fun _ => pre) fails := by
  have asked : Triple answers obligation pre (call (I := Shell) (.signal exiting) : Script σ Bool)
      (fun arrived vars world => pre vars world ∧ (arrived = true → fails 1 vars world)) fails :=
    triple_call fun vars world holds arrived after answer =>
      survives vars world arrived after holds answer
  refine asked.bind fun arrived => Triple.ite ?_ ?_
  · intro signalled
    exact triple_raise fun vars world holds => holds.2 signalled
  · intro _
    exact triple_pure fun vars world holds => holds.1

/-- A command ends, and the signals that arrived meanwhile are handled. -/
theorem triple_command {args : List String} {post : Finished → σ → W → Prop}
    (answered : ∀ vars world finished after, pre vars world →
      answers world (.run args) finished after →
        obligation world (.run args) after ∧ post finished vars after)
    (survives : ∀ finished, Survives answers obligation exiting (post finished) fails) :
    Triple answers obligation pre (command args exiting) post fails := by
  have called : Triple answers obligation pre (call (I := Shell) (.run args) : Script σ Finished)
      post fails :=
    triple_call fun vars world holds finished after answer =>
      answered vars world finished after holds answer
  exact called.bind fun finished => (survives finished).pending.bind fun _ =>
    triple_pure fun _ _ holds => holds

theorem triple_must {args : List String} {post : Finished → σ → W → Prop}
    {last : String → σ → W → Prop}
    (commanded : Triple answers obligation pre (command args) post fails)
    (success : ∀ stdout vars world, post ⟨0, stdout⟩ vars world → last stdout vars world)
    (failure : ∀ finished vars world, post finished vars world → finished.status ≠ 0 →
      fails finished.status vars world) :
    Triple answers obligation pre (must args) last fails := by
  refine commanded.bind fun finished => Triple.ite ?_ ?_
  · intro succeeded
    refine triple_pure fun vars world holds => success finished.stdout vars world ?_
    rw [← succeeded]
    exact holds
  · intro failed
    exact triple_raise fun vars world holds => failure finished vars world holds failed

theorem triple_succeeds {args : List String} {post : Finished → σ → W → Prop}
    {last : Bool → σ → W → Prop}
    (commanded : Triple answers obligation pre (command args exiting) post fails)
    (returns : ∀ finished vars world, post finished vars world →
      last (decide (finished.status = 0)) vars world) :
    Triple answers obligation pre (succeeds args exiting) last fails :=
  commanded.bind fun finished => triple_pure fun vars world holds =>
    returns finished vars world holds

theorem triple_echo {line : String} {post : σ → W → Prop}
    (answered : ∀ vars world after, pre vars world → answers world (.echo line) () after →
      obligation world (.echo line) after ∧ post vars after)
    (survives : Survives answers obligation false post fails) :
    Triple answers obligation pre (echo line) (fun _ => post) fails := by
  have called : Triple answers obligation pre (call (I := Shell) (.echo line) : Script σ Unit)
      (fun _ => post) fails :=
    triple_call fun vars world holds _ after answer => answered vars world after holds answer
  exact called.bind fun _ => survives.pending

theorem triple_warn {line : String} {post : σ → W → Prop}
    (answered : ∀ vars world after, pre vars world → answers world (.warn line) () after →
      obligation world (.warn line) after ∧ post vars after)
    (survives : Survives answers obligation exiting post fails) :
    Triple answers obligation pre (warn line exiting) (fun _ => post) fails := by
  have called : Triple answers obligation pre (call (I := Shell) (.warn line) : Script σ Unit)
      (fun _ => post) fails :=
    triple_call fun vars world holds _ after answer => answered vars world after holds answer
  exact called.bind fun _ => survives.pending

/-- Only a text with such a line passes. -/
theorem triple_select {accepts : List Char → Bool} {text : String} {post : σ → W → Prop}
    (answered : ∀ lines vars world after, pre vars world → answers world (.grep lines) () after →
      (∃ line ∈ textLines text, accepts line = true) →
        obligation world (.grep lines) after ∧ post vars after)
    (survives : Survives answers obligation false post fails)
    (failure : ∀ vars world, pre vars world → fails 1 vars world) :
    Triple answers obligation pre (select accepts text) (fun _ => post) fails := by
  refine Triple.ite ?_ ?_
  · intro _
    exact triple_raise failure
  · intro found
    rcases List.exists_mem_of_ne_nil _ found with ⟨line, member⟩
    rw [List.mem_filter] at member
    have called (lines : List String) :
        Triple answers obligation pre (call (I := Shell) (.grep lines) : Script σ Unit)
          (fun _ => post) fails :=
      triple_call fun vars world holds _ after answer =>
        answered lines vars world after holds answer ⟨line, member⟩
    exact (called _).bind fun _ => survives.pending

/-- The trap runs wherever the body stops, if it is armed there. -/
theorem triple_onExit {armed : σ → Bool} {action : Script σ Unit} {body : Script σ α}
    {post : α → σ → W → Prop} {stops : ℕ → σ → W → Prop}
    (bodied : Triple answers obligation pre body post stops)
    (trapped : ∀ status, Triple answers obligation
      (fun vars world => armed vars = true ∧ stops status vars world) action
      (fun _ => fails status) fails)
    (unarmed : ∀ status vars world, armed vars = false → stops status vars world →
      fails status vars world) :
    Triple answers obligation pre (onExit armed action body) post fails := by
  refine Triple.attempt_bind bodied ?_ ?_
  · intro value
    exact triple_pure fun _ _ holds => holds
  · intro status
    have guarded : Triple answers obligation (stops status) (whenArmed armed action)
        (fun _ => fails status) fails := by
      refine triple_state_bind fun vars => Triple.ite ?_ ?_
      · intro isArmed
        refine (trapped status).mono ?_ (fun _ _ _ holds => holds) (fun _ _ _ holds => holds)
        intro before world holds
        exact ⟨holds.1 ▸ isArmed, holds.2⟩
      · intro notArmed
        rw [Bool.not_eq_true] at notArmed
        exact triple_pure fun before world holds =>
          unarmed status before world (holds.1 ▸ notArmed) holds.2
    exact guarded.bind fun _ => triple_raise fun _ _ holds => holds

end

end Script

end FivegLab
