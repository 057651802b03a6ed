import FivegLab.Host.Signals
import FivegLab.Program.Callers
import FivegLab.RuntimePreflight.Order

/-!
# Signals during the preflight

The handlers of both signals over a whole preflight: a cleanup is not interrupted,
and behind every probe the handlers are again those of before.
-/

namespace FivegLab.RuntimePreflight

open Routine (attempt ofExcept raise)

/-- The handlers after an operation: only a call of the host changes them. -/
def preflightAnswers : Answers PreflightHost Signals
  | before, .host op, reply, after => signalAnswers before op reply after
  | before, _, _, after => after = before

/-- The command removes what a probe left, or looks whether it is gone. -/
def CleansUp (args : List String) : Prop :=
  ∃ name, args = removeContainer name ∨ args = findContainer name ∨
  ∃ path, args = removeFile name path

/-- The operation is a command of a cleanup. -/
def PreflightOp.CleansUp : PreflightOp → Prop
  | .host (.spawn args _ _) => RuntimePreflight.CleansUp args
  | _ => False

/-- Started with the handlers `world`, the routine cleans up only while both signals are
ignored, and the handlers are `final` in the end. -/
def Shields {α : Type} (world final : Signals) (routine : PreflightM α) : Prop :=
  routine.Ensures preflightAnswers (fun before op _ => op.CleansUp → before = .ignored)
    (fun _ _ after => after = final) () world

section

variable {α β : Type} {world middle final : Signals}

theorem shields_pure (value : α) : Shields world world (pure value) := rfl

theorem shields_raise (error : Raised) : Shields world world (raise error : PreflightM α) := rfl

theorem shields_ofExcept (value : Except Raised α) :
    Shields world world (ofExcept value : PreflightM α) := by
  cases value with
  | error error => exact shields_raise error
  | ok value => exact shields_pure value

theorem Shields.bind {routine : PreflightM α} {next : α → PreflightM β}
    (first : Shields world world routine) (rest : ∀ value, Shields world world (next value)) :
    Shields world world (routine >>= next) := by
  rw [Shields, Routine.ensures_bind]
  refine Routine.Ensures.mono first ?_
  rintro (error | value) _ after same
  · exact same
  · rw [same]
    exact rest value

/-- How a routine ends is kept, and then another one brings the handlers elsewhere. -/
theorem Shields.attempt_bind {routine : PreflightM α} {next : Except Raised α → PreflightM β}
    (first : Shields world middle routine) (rest : ∀ ended, Shields middle final (next ended)) :
    Shields world final (attempt routine >>= next) := by
  rw [Shields, Routine.ensures_bind, Routine.ensures_attempt]
  refine Routine.Ensures.mono first ?_
  rintro ended _ after same
  rw [same]
  exact rest ended

theorem Shields.attempt {routine : PreflightM α} (shields : Shields world final routine) :
    Shields world final (Routine.attempt routine) := by
  rw [Shields, Routine.ensures_attempt]
  exact shields

theorem Shields.ite {condition : Prop} [Decidable condition] {yes no : PreflightM α}
    (first : Shields world final yes) (second : Shields world final no) :
    Shields world final (if condition then yes else no) := by
  split
  · exact first
  · exact second

/-- A call of the host that installs no handler. -/
theorem shields_host {op : HostOp} (plain : op.Plain)
    (shielded : PreflightOp.CleansUp (.host op) → world = .ignored) :
    Shields world world (Routine.call (I := PreflightHost) (.host op)) := by
  rintro reply after ⟨-, same, -⟩
  exact ⟨shielded, same.trans (op.handlers_of_plain plain world)⟩

/-- Such a call whose reply may raise. -/
theorem shields_fallible {op : HostOp} {next : op.Reply → Except Raised α} (plain : op.Plain)
    (shielded : PreflightOp.CleansUp (.host op) → world = .ignored) :
    Shields world world
      (onHost (Routine.call (I := Host) op >>= fun reply => ofExcept (next reply))) := by
  rw [onHost_fallible]
  exact (shields_host plain shielded).bind fun reply => shields_ofExcept (next reply)

theorem shields_execute {args : List String} {timeout : ℕ}
    (shielded : CleansUp args → world = .ignored) : Shields world world (execute args timeout) :=
  have plain : (HostOp.spawn args [] timeout).Plain := trivial
  shields_fallible plain shielded

/-- A handler is installed, and the one before it is returned. -/
theorem shields_setSignal {signal : Signal} {disposition : Disposition}
    {next : Disposition → PreflightM β}
    (rest : Shields (Function.update world signal disposition) final (next (world signal))) :
    Shields world final (onHost (Host.setSignal signal disposition) >>= next) := by
  rw [Shields, Routine.ensures_bind]
  rintro previous after ⟨told, same, -⟩
  have previous_eq : previous = world signal := told
  have after_eq : after = Function.update world signal disposition := same
  rw [previous_eq, after_eq]
  exact ⟨False.elim, rest⟩

end

theorem shields_cleanupProbe (name : String) : Shields .ignored .ignored (cleanupProbe name) :=
  (shields_execute fun _ => rfl).bind fun _ => (shields_execute fun _ => rfl).bind fun _ =>
    shields_pure _

theorem shields_cleanup (role : ProbeRole) (name : String) (path : Path) :
    Shields .ignored .ignored (cleanup role name path) :=
  (shields_cleanupProbe name).bind fun _ => .ite
    (((shields_execute fun _ => rfl).bind fun _ => (shields_cleanupProbe _).bind fun _ =>
      shields_pure _).bind
      fun _ => shields_pure _)
    (shields_pure _)

theorem shields_restoreHandlers {entry : Signals} :
    Shields .ignored entry (restoreHandlers (entry .int) (entry .term)) := by
  refine shields_setSignal (shields_setSignal ?_)
  have restored : Function.update (Function.update Signals.ignored .int (entry .int)) .term
      (entry .term) = entry := by
    funext signal
    cases signal <;> rfl
  rw [restored]
  exact shields_pure ()

/-- Behind the cleanup, the handlers are those of before the probe. -/
theorem shields_protectedCleanup {entry world : Signals} (int : world .int = entry .int)
    (role : ProbeRole) (name : String) (path : Path) :
    Shields world entry (protectedCleanup (entry .term) role name path) := by
  refine shields_setSignal (shields_setSignal ?_)
  have ignored : Function.update (Function.update world .int .ignored) .term .ignored =
      Signals.ignored := by
    funext signal
    cases signal <;> rfl
  rw [ignored, int]
  exact (shields_cleanup role name path).attempt_bind fun ended => by
    rw [Shields, Routine.ensures_bind]
    refine Routine.Ensures.mono shields_restoreHandlers ?_
    rintro (error | restored) _ after same
    · exact same
    · rw [same]
      exact shields_ofExcept ended

theorem not_cleansUp_startProbe (name : String) (path : Path) :
    ¬CleansUp (startProbe name path) := by
  rintro ⟨other, same | same | ⟨path', same⟩⟩
  · simp [startProbe, composeRun, removeContainer] at same
  · simp [startProbe, composeRun, findContainer] at same
  · have lengths := congrArg List.length same
    simp [startProbe, removeFile, composeRun] at lengths

theorem shields_watchProbe (entry : Signals) (service : String) (role : ProbeRole)
    (name marker : String) (path : Path) :
    Shields entry entry (watchProbe service role name marker path) := by
  refine shields_setSignal ((shields_execute fun cleans =>
    absurd cleans (not_cleansUp_startProbe name path)).attempt_bind fun ended => ?_)
  rw [Shields, Routine.ensures_bind]
  have cleaned (now : Signals) (int : now .int = entry .int) :=
    shields_protectedCleanup int role name path
  refine Routine.Ensures.mono (cleaned _ rfl) ?_
  rintro (error | cleaned) _ after same
  · exact same
  · rw [same]
    exact (shields_ofExcept _).bind fun _ => shields_pure _

theorem shields_removeTemporary (world : Signals) (directory : Path) :
    Shields world world (removeTemporary directory) := by
  have called : Shields world world
      (Routine.call (I := PreflightHost) (.removeTemporary directory)) := by
    rintro reply _ rfl
    exact ⟨False.elim, rfl⟩
  exact called.bind fun reply => shields_ofExcept reply

theorem shields_withTemporaryDirectory {α : Type} {world : Signals} {body : Path → PreflightM α}
    (shields : ∀ directory, Shields world world (body directory)) :
    Shields world world (withTemporaryDirectory body) := by
  have called : Shields world world (Routine.call (I := PreflightHost) .makeTemporary) := by
    rintro reply _ rfl
    exact ⟨False.elim, rfl⟩
  have made : Shields world world makeTemporary := called.bind fun reply => shields_ofExcept reply
  exact made.bind fun directory => (shields directory).attempt.bind fun ended =>
    (shields_removeTemporary world directory).bind fun _ => shields_ofExcept ended

theorem shields_runProbe (entry : Signals) (service : String) (settings : Fields) (role : ProbeRole)
    (volumeName : Json) : Shields entry entry (runProbe service settings role volumeName) := by
  have named : Shields entry entry (Routine.call (I := PreflightHost) .newName) := by
    rintro reply _ rfl
    exact ⟨False.elim, rfl⟩
  have written (path : Path) (text : String) :
      Shields entry entry (onHost (Host.writeText path text)) :=
    have plain : (HostOp.writeText path text).Plain := trivial
    shields_fallible plain False.elim
  exact named.bind fun hex => (shields_ofExcept _).bind fun document =>
    shields_withTemporaryDirectory fun directory => (written _ _).bind fun _ =>
      shields_watchProbe entry service role _ _ _

theorem shields_runProbes (entry : Signals) (services volumeName : Json)
    (plan : List (String × ProbeRole)) (checks : List CapabilityCheck) :
    Shields entry entry (runProbes services volumeName plan checks) := by
  induction plan generalizing checks with
  | nil => exact shields_pure checks
  | cons next plan ih =>
      exact (shields_pure checks).ite ((shields_ofExcept _).bind fun settings =>
        (shields_runProbe entry _ settings _ volumeName).bind fun found => ih (checks ++ found))

theorem ReadsOnly.not_cleansUp {args : List String} (reads : ReadsOnly args) : ¬CleansUp args := by
  rintro ⟨name, cleans⟩
  rcases reads with rfl | rfl | rfl | ⟨image, rfl⟩ <;>
    rcases cleans with same | same | ⟨path, same⟩ <;>
    simp [dockerInfo, composeVersion, composeConfig, inspectImage, removeContainer, findContainer,
      removeFile, composeRun] at same

theorem shields_reading {entry : Signals} {args : List String} (reads : ReadsOnly args) :
    Shields entry entry (execute args) :=
  shields_execute fun cleans => absurd cleans reads.not_cleansUp

theorem shields_runtimeTools (entry : Signals) : Shields entry entry runtimeTools := by
  have told : Shields entry entry (onHost (Host.fact .system)) := by
    rintro reply after ⟨-, rfl, -⟩
    exact ⟨False.elim, rfl⟩
  exact told.bind fun system =>
    (shields_pure _).ite ((shields_reading (.inl rfl)).bind fun daemon =>
    ((shields_reading (.inr (.inl rfl))).bind fun compose =>
      (shields_pure _).ite (shields_pure _)).ite
      (shields_pure _))

variable [Library]

theorem shields_loadYaml (entry : Signals) (path : Path) : Shields entry entry (loadYaml path) := by
  have read : Shields entry entry (onHost (Host.readText path)) :=
    have plain : (HostOp.readText path).Plain := trivial
    shields_fallible plain False.elim
  refine read.bind fun text => (shields_ofExcept (Library.safeLoad text)).bind fun value => ?_
  cases value with
  | mapping entries => exact shields_pure entries
  | _ => exact shields_raise _

theorem shields_resolveCompose (entry : Signals) (repoRoot : Path) (stdout : String) :
    Shields entry entry (resolveCompose repoRoot stdout) :=
  (shields_ofExcept _).bind fun _ => (shields_ofExcept _).bind fun _ => (shields_ofExcept _).bind
    fun _ => (shields_loadYaml entry _).bind fun _ => (shields_ofExcept _).bind fun _ =>
      shields_pure _

theorem shields_inspectImages (entry : Signals) (platform : String) (services : Json)
    (names : List String) : Shields entry entry (inspectImages platform services names) := by
  induction names with
  | nil => exact shields_pure []
  | cons name names ih =>
      exact (shields_ofExcept _).bind fun image =>
        (shields_reading (.inr (.inr (.inr ⟨image, rfl⟩)))).bind fun _ => ih.bind fun _ =>
          shields_pure _

theorem shields_prepareVolume (entry : Signals) (compose : Json) :
    Shields entry entry (prepareVolume compose) := by
  refine (shields_ofExcept _).bind fun volumeName => (shields_ofExcept _).bind fun project => ?_
  rw [Shields, Routine.ensures_bind, Routine.ensures_ofExcept]
  cases argued : commandArguments
      (createVolume (project.toYaml Library.floatValue).printed volumeName) with
  | error error => exact rfl
  | ok args =>
      have free : ¬CleansUp args := by
        rcases createVolume_args argued with ⟨rest, rfl⟩
        rintro ⟨name, same | same | ⟨path, same⟩⟩ <;>
          simp [removeContainer, findContainer, removeFile, composeRun] at same
      exact (shields_execute fun cleans => absurd cleans free).bind fun _ => shields_pure _

theorem shields_checkRuntime (entry : Signals) (environment : CapabilityCheck) (resolved : Resolved)
    (mongodb : Bool) : Shields entry entry (checkRuntime environment resolved mongodb) :=
  (shields_inspectImages entry _ _ _).bind fun _ => (shields_pure _).ite
    ((shields_prepareVolume entry _).bind fun _ => shields_runProbes entry _ _ _ _)

theorem shields_runRuntimePreflight (entry : Signals) (repoRoot : Path) (mongodb : Bool) :
    Shields entry entry (runRuntimePreflight repoRoot mongodb) := by
  refine (shields_runtimeTools entry).bind fun environment => (shields_pure _).ite
    ((shields_reading (.inr (.inr (.inl rfl)))).bind fun config => (shields_pure _).ite
      ((shields_resolveCompose entry repoRoot config.stdout).attempt.bind fun ended => ?_))
  cases ended with
  | error error => exact (shields_pure _).ite (shields_raise error)
  | ok resolved =>
      exact (shields_pure _).ite (shields_checkRuntime entry environment resolved mongodb)

/-- However a preflight goes, and wherever it is interrupted: all commands of its
cleanups are issued with both signals ignored and are not interrupted, and in the end
both handlers are those of the entry. -/
theorem runRuntimePreflight_shielded {repoRoot : Path} {mongodb : Bool}
    {trace : List (Event PreflightHost)} {entry final : Signals}
    (emits : (runRuntimePreflight repoRoot mongodb).Emits () trace)
    (admits : Admits preflightAnswers entry trace final) :
    (∀ before event after, trace = before ++ event :: after → event.op.CleansUp →
      Admits preflightAnswers entry before .ignored ∧
        ∀ called, hostEvent event = some called → ¬called.Interrupted) ∧
    ∀ outcome, (runRuntimePreflight repoRoot mongodb).Runs () trace outcome () → final = entry := by
  have shields := shields_runRuntimePreflight entry repoRoot mongodb
  refine ⟨?_, fun outcome runs => shields.of_runs runs admits⟩
  rintro before event after rfl cleans
  rw [admits_append_iff] at admits
  rcases admits with ⟨now, reached, admits⟩
  rcases admits_cons_iff.mp admits with ⟨later, answer, _⟩
  rw [← List.singleton_append, ← List.append_assoc] at emits
  have ignored : now = .ignored :=
    Routine.Ensures.of_emits shields emits.of_append reached answer cleans
  rw [ignored] at reached answer
  refine ⟨reached, fun called same interrupted => ?_⟩
  rcases event with ⟨op, reply⟩
  cases op with
  | host op =>
      cases same
      exact answer.2.2 interrupted rfl
  | _ => cases same

section

omit [Library]

/-- The lab's host, on which every started container is interrupted, unless `SIGTERM` is
ignored. -/
def interruptingLab : Responder PreflightHost Signals := fun handlers op =>
  match op with
  | .host (.getSignal signal) => (handlers signal, handlers)
  | .host (.setSignal signal disposition) =>
      (handlers signal, Function.update handlers signal disposition)
  | .host (.spawn args _ _) =>
      (if "run" ∈ args ∧ handlers .term ≠ .ignored then .raised .keyboardInterrupt
        else .exited 0 (labPrints args) "", handlers)
  | op => ((labHost 0 op).1, handlers)

theorem interruptingLab_answers {before : Signals} {op : PreflightOp} {reply : op.Reply}
    {after : Signals} (answer : interruptingLab.answers before op reply after) :
    preflightAnswers before op reply after := by
  cases op with
  | host op =>
      cases op with
      | spawn args environment timeout =>
          rcases Prod.mk.inj answer with ⟨rfl, rfl⟩
          refine ⟨trivial, rfl, ?_⟩
          rintro interrupted rfl
          simp [Event.Interrupted, ProcessEnd.Interrupted, Signals.ignored] at interrupted
      | getSignal | setSignal =>
          rcases Prod.mk.inj answer with ⟨rfl, rfl⟩
          exact ⟨rfl, rfl, False.elim⟩
      | sleep seconds =>
          rcases Prod.mk.inj answer with ⟨rfl, rfl⟩
          exact ⟨trivial, rfl, False.elim⟩
      | _ =>
          rcases Prod.mk.inj answer with ⟨-, rfl⟩
          exact ⟨trivial, rfl, False.elim⟩
  | _ => exact (Prod.mk.inj answer).2.symm

def interruptedPreflight : List (Event PreflightHost) :=
  (@runRuntimePreflight labLibrary (.ofText "/lab") false ()).transcript interruptingLab
    startHandlers

theorem interruptedPreflight_ends :
    ((@runRuntimePreflight labLibrary (.ofText "/lab") false ()).play interruptingLab
      startHandlers).isSome := by
  decide +kernel

theorem interruptedPreflight_removes :
    (interruptedPreflight[23]?.map fun event => event.op) = some (PreflightOp.host (.spawn
      (removeContainer "open5gs-runtime-preflight-2f") [] 15)) := by
  decide +kernel

/-- After the interrupt, the container is removed with both signals ignored. -/
theorem interruptedPreflight_shielded : ∃ event : Event PreflightHost,
    interruptedPreflight[23]? = some event ∧
      event.op = .host (.spawn (removeContainer "open5gs-runtime-preflight-2f") [] 15) ∧
      Admits preflightAnswers startHandlers (interruptedPreflight.take 23) .ignored ∧
      ∀ called, hostEvent event = some called → ¬called.Interrupted := by
  let := labLibrary
  rcases Option.isSome_iff_exists.mp interruptedPreflight_ends with ⟨⟨ended, final⟩, played⟩
  rcases Program.runs_of_play played with ⟨runs, admits⟩
  have heeded : Admits preflightAnswers startHandlers interruptedPreflight final :=
    admits.mono fun _ _ _ _ => interruptingLab_answers
  rcases Option.map_eq_some_iff.mp interruptedPreflight_removes with ⟨event, found, removes⟩
  have cleans : event.op.CleansUp := removes ▸ ⟨_, .inl rfl⟩
  have split : interruptedPreflight =
      interruptedPreflight.take 23 ++ event :: interruptedPreflight.drop 24 := by
    rcases List.getElem?_eq_some_iff.mp found with ⟨inside, here⟩
    rw [← here, List.getElem_cons_drop, List.take_append_drop]
  exact ⟨event, found, removes,
    (runRuntimePreflight_shielded runs.emits heeded).1 _ event _ split cleans⟩

end

end FivegLab.RuntimePreflight
