import FivegLab.Host.Signals
import FivegLab.Orchestration.Acceptance
import FivegLab.Orchestration.Checks
import FivegLab.Orchestration.Run
import FivegLab.Program.Callers

/-!
# Interrupts during a fault run

An interrupt may end any command of a fault run and its pause.  The rollback is
made with both signals ignored, also while its commands save and restore the
handler of `SIGTERM`, and the run leaves the handlers as it found them.
-/

namespace FivegLab

open Routine Host

theorem restoring_writeOutcome (outcome : CommandOutcome) (path : Path) :
    Restoring (writeOutcome outcome path) :=
  restoring_writeText _ _

theorem restoring_runUeransimCli (service subcommand : String) (timeout : ℕ) :
    Restoring (runUeransimCli service subcommand timeout) := by
  refine (restoring_runCommand _ _ _).bind fun dump => ?_
  split
  · exact restoring_pure _
  · exact (restoring_runCommand _ _ _).bind fun _ => restoring_pure _

theorem restoring_makeCliChecks (outputDir : Path) (timeout : ℕ) (checks : List CliCheck) :
    Restoring (makeCliChecks outputDir timeout checks) := by
  induction checks with
  | nil => exact restoring_pure _
  | cons check checks ih =>
      refine Restoring.bind ?_ fun _ => ih.bind fun _ => restoring_pure _
      exact (restoring_runUeransimCli _ _ _).bind fun _ =>
        (restoring_writeOutcome _ _).bind fun _ => restoring_pure _

theorem restoring_findMissing (timeout : ℕ) (services : List String) :
    Restoring (findMissing timeout services) := by
  induction services with
  | nil => exact restoring_pure _
  | cons service services ih =>
      exact (restoring_runCommand _ _ _).bind fun _ => ih.bind fun _ => restoring_pure _

/-- A command whose outcome is written to a file. -/
theorem restoring_recorded {α : Type} {args : List String} {timeout : ℕ}
    {environment : List (String × String)} {path : Path} {next : CommandOutcome → HostM α}
    (rest : ∀ outcome, Restoring (next outcome)) :
    Restoring (do
      let outcome ← runCommand args timeout environment
      writeOutcome outcome path
      next outcome) :=
  (restoring_runCommand _ _ _).bind fun outcome => (restoring_writeOutcome _ _).bind fun _ =>
    rest outcome

theorem restoring_checkCurrent (outputDir : Path) (timeout : ℕ) (phase : String) :
    Restoring (checkCurrent outputDir timeout phase) := by
  refine Restoring.bind ?_ fun _ => (restoring_makeCliChecks _ _ _).bind fun _ =>
    Restoring.bind ?_ fun _ =>
    restoring_pure _
  · exact restoring_recorded fun _ => (restoring_findMissing _ _).bind fun _ => restoring_pure _
  · exact restoring_recorded fun _ => restoring_pure _

theorem restoring_trafficHolds (path : Path) (traffic : CommandOutcome) :
    Restoring (trafficHolds path traffic) := by
  refine Restoring.ite (Restoring.bind (restoring_call trivial) fun _ =>
    Restoring.ite ?_ (restoring_pure _)) (restoring_pure _)
  exact Restoring.bind (restoring_fallible trivial) fun _ => restoring_pure _

theorem restoring_checkTraffic (outputDir : Path) (timeout : ℕ) (phase : String) :
    Restoring (checkTraffic outputDir timeout phase) := by
  refine Restoring.bind (Restoring.bind ?_ fun _ => restoring_runCommand _ _ _) fun _ =>
    (restoring_trafficHolds _ _).bind fun _ => restoring_pure _
  exact Restoring.bind (restoring_call trivial) fun _ => restoring_pure _

section

variable [JsonLibrary]

omit [JsonLibrary] in
theorem restoring_readCommand (deadline : ℚ) (values : List Json) :
    Restoring (readCommand deadline values) := by
  refine Restoring.bind (restoring_call trivial) fun now => (restoring_raise _).ite ?_
  refine (restoring_ofExcept _).bind fun args => (restoring_execute _ _).bind fun _ => ?_
  exact (restoring_raise _).ite (restoring_pure _)

omit [JsonLibrary] in
theorem restoring_readContainers (deadline : ℚ) (inspected : List Json) (snapshot : CoreSnapshot) :
    Restoring (readContainers deadline inspected snapshot) := by
  induction inspected generalizing snapshot with
  | nil => exact restoring_pure _
  | cons container inspected ih =>
      refine (restoring_ofExcept _).bind fun entry => Restoring.bind ?_ fun _ => ih _
      unfold readLog
      split
      · exact restoring_pure _
      · exact (restoring_readCommand _ _).bind fun _ => restoring_pure _

theorem restoring_readCore (deadline : ℚ) : Restoring (readCore deadline) := by
  refine (restoring_readCommand _ _).bind fun ids => (restoring_pure _).ite ?_
  exact (restoring_readCommand _ _).bind fun _ => (restoring_ofExcept _).bind fun _ =>
    (restoring_ofExcept _).bind fun _ => restoring_readContainers _ _ _

theorem restoring_waitCoreReadyOnHost (rounds : ℕ) : Restoring (waitCoreReadyOnHost rounds) := by
  refine Restoring.within (restoring_realize ?_ _)
  intro op
  cases op with
  | monotonic => exact fun world reply after answer => ⟨id, answer.2.1⟩
  | sleep seconds => exact (restoring_sleep seconds).ending
  | readCore deadline => exact (restoring_readCore deadline).ending

theorem restoring_checkCore (rounds : ℕ) (outputDir : Path) (phase : String) :
    Restoring (checkCore rounds outputDir phase) := by
  refine (restoring_waitCoreReadyOnHost rounds).bind fun core => Restoring.bind ?_ fun _ =>
    restoring_pure _
  exact Restoring.bind (restoring_fallible trivial) fun _ => restoring_writeText _ _

theorem restoring_validateFinalHealth (rounds : ℕ) (outputDir : Path) (timeout : ℕ)
    (phase : String) :
    Restoring (validateFinalHealth rounds outputDir timeout phase) := by
  refine Restoring.bind (restoring_call trivial) fun _ => (restoring_checkCore _ _ _).bind fun _ =>
    (restoring_makeCliChecks _ _ _).bind fun _ => Restoring.bind ?_ fun _ =>
      Restoring.bind ?_ fun _ =>
    restoring_pure _
  · exact restoring_recorded fun _ => restoring_pure _
  · exact Restoring.bind (restoring_call trivial) fun _ => (restoring_writeText _ _).bind fun _ =>
      restoring_pure _

theorem restoring_validateRecoveredBaseline (rounds : ℕ) (outputDir : Path) (timeout : ℕ) :
    Restoring (validateRecoveredBaseline rounds outputDir timeout) := by
  refine Restoring.bind ?_ fun _ => restoring_pure _
  refine (restoring_checkCurrent _ _ _).bind fun _ => (restoring_checkTraffic _ _ _).bind fun _ =>
    (restoring_validateFinalHealth _ _ _ _).bind fun _ => ?_
  exact (restoring_writeText _ _).bind fun _ => restoring_pure _

end

theorem restoring_runnerOnHost (op : (Runner.observing FaultInjector).Op) :
    (runnerOnHost op).Restoring := by
  have ran : Restoring (composeRunner op.2) := (restoring_runCommand _ _ _).bind fun _ =>
      restoring_pure _
  exact ran.ending

theorem restoring_injector {α : Type} (method : InjectorM α) :
    Restoring (method.realize runnerOnHost) :=
  restoring_realize restoring_runnerOnHost method

/-- The stage rolls the fault back. -/
def FaultStageOp.RollsBack : FaultStageOp → Prop
  | .remove _ => True
  | .verifyRemoved _ => True
  | _ => False

/-- The handlers after a stage: only a call of the host changes them. -/
def stageAnswers : Answers FaultStage Signals
  | before, .host op, reply, after => signalAnswers before op reply after
  | before, _, _, after => after = before

/-- A stage that rolls back is called with both signals ignored. -/
def Shielded (before : Signals) (op : FaultStageOp) : Prop := op.RollsBack → before = .ignored

theorem stageAnswers_total (world : Signals) (op : FaultStageOp) :
    ∃ reply after, stageAnswers world op reply after := by
  cases op with
  | apply injector | remove injector => exact ⟨(.ok (), injector), world, rfl⟩
  | verifyApplied injector | verifyRemoved injector => exact ⟨(.ok true, injector), world, rfl⟩
  | runCommand args => exact ⟨.ok ⟨args, 0, "", ""⟩, world, rfl⟩
  | validateRecovered => exact ⟨.ok ⟨⟨.pass, [], [], []⟩, rfl⟩, world, rfl⟩
  | host op => exact signalAnswers_total world op

/-- A stage is called on the host as the contract says, a rollback with both signals ignored. -/
theorem faultStageOnHost_serves [JsonLibrary] (rounds : ℕ) (outputDir : Path) (world : Signals)
    (op : FaultStageOp) (shielded : Shielded world op) :
    (faultStageOnHost rounds outputDir op).Satisfies signalAnswers
      (fun before _ _ => op.RollsBack → before = .ignored) (stageAnswers world op) world := by
  have restoring {α : Type} {program : Program Host α} (restoring : program.Restoring) :
      program.Satisfies signalAnswers (fun before _ _ => op.RollsBack → before = .ignored)
        (fun _ after => after = world) world :=
    (restoring world).weaken fun before _ _ kept rolls => kept (shielded rolls)
  cases op with
  | apply injector => exact restoring (restoring_injector FaultInjector.apply injector)
  | verifyApplied injector =>
      exact restoring (restoring_injector FaultInjector.verifyApplied injector)
  | remove injector => exact restoring (restoring_injector FaultInjector.remove injector)
  | verifyRemoved injector =>
      exact restoring (restoring_injector FaultInjector.verifyRemoved injector)
  | runCommand args timeout environment => exact restoring (restoring_runCommand _ _ _).ending
  | validateRecovered timeout => exact restoring (restoring_validateRecoveredBaseline _ _ _).ending
  | host op => exact fun reply after answer => ⟨False.elim, answer⟩

theorem faultStageOnHost_meets [JsonLibrary] (rounds : ℕ) (outputDir : Path) (world : Signals)
    (op : FaultStageOp) (shielded : Shielded world op) :
    (faultStageOnHost rounds outputDir op).Satisfies signalAnswers (fun _ _ _ => True)
      (stageAnswers world op) world :=
  (faultStageOnHost_serves rounds outputDir world op shielded).weaken fun _ _ _ _ => trivial

/-- Started with these handlers, the routine shields its rollback and leaves the
handlers as they were. -/
def Keeps {α : Type} (world : Signals) (routine : FaultM α) : Prop :=
  ∀ run, routine.Ensures stageAnswers (fun before op _ => Shielded before op)
    (fun _ _ after => after = world) run world

section

open FaultStage

variable {α β : Type} {world : Signals}

theorem keeps_pure (value : α) : Keeps world (pure value) := fun _ => rfl

theorem keeps_raise (error : Raised) : Keeps world (raise error : FaultM α) := fun _ => rfl

theorem keeps_state : Keeps world state := fun _ => rfl

theorem keeps_update (change : FaultRun → FaultRun) : Keeps world (update change) := fun _ => rfl

theorem keeps_ofExcept (value : Except Raised α) : Keeps world (ofExcept value) := by
  cases value with
  | error error => exact keeps_raise error
  | ok value => exact keeps_pure value

theorem Keeps.bind {routine : FaultM α} {next : α → FaultM β} (first : Keeps world routine)
    (rest : ∀ value, Keeps world (next value)) : Keeps world (routine >>= next) := by
  intro run
  rw [ensures_bind]
  refine (first run).mono ?_
  rintro (error | value) middle after same
  · exact same
  · rw [same]
    exact rest value middle

theorem Keeps.attempt {routine : FaultM α} (keeps : Keeps world routine) :
    Keeps world (Routine.attempt routine) := by
  intro run
  rw [ensures_attempt]
  exact keeps run

theorem Keeps.ite {condition : Prop} [Decidable condition] {yes no : FaultM α}
    (first : Keeps world yes) (second : Keeps world no) :
    Keeps world (if condition then yes else no) := by
  split
  · exact first
  · exact second

/-- A call that is no rollback and no call of the host. -/
theorem keeps_call {op : FaultStageOp} (free : ¬op.RollsBack)
    (keeps : ∀ reply after, stageAnswers world op reply after → after = world) :
    Keeps world (call (I := FaultStage) op : FaultM op.Reply) :=
  fun _ reply after answer => ⟨fun rolls => absurd rolls free, keeps reply after answer⟩

theorem keeps_finish (ended : Except Raised α × FaultInjector) : Keeps world (finish ended) :=
  (keeps_update _).bind fun _ => keeps_ofExcept _

theorem satisfies_liftProgram {program : Program Host α} {post : α → Signals → Prop}
    (satisfied : program.Satisfies signalAnswers (fun _ _ _ => True) post world) :
    (liftProgram program).Satisfies stageAnswers (fun before op _ => Shielded before op)
      post world := by
  induction program generalizing world with
  | done value => exact satisfied
  | call op next ih =>
      intro reply after answer
      exact ⟨False.elim, ih reply (satisfied reply after answer).2⟩
  | unfinished => trivial

/-- A restoring routine of the host. -/
theorem keeps_onHost {routine : HostM α} (restoring : Restoring routine) :
    Keeps world (onHost routine) := by
  intro run
  have kept : (routine ()).Satisfies signalAnswers (fun _ _ _ => True)
      (fun _ after => after = world) world := (restoring () world).weaken fun _ _ _ _ => trivial
  exact Program.satisfies_bind.mpr (satisfies_liftProgram kept)

theorem keeps_runCommand (args : List String) (timeout : ℕ)
    (environment : List (String × String)) :
    Keeps world (FaultStage.runCommand args timeout environment) := by
  refine Keeps.bind (keeps_call id fun _ _ same => same) fun reply => ?_
  exact (keeps_ofExcept _).bind fun outcome => (keeps_update _).bind fun _ => keeps_pure _

theorem keeps_applyFault : Keeps world applyFault := by
  refine Keeps.bind ?_ fun _ => (keeps_update _).bind fun _ => Keeps.bind ?_ fun verified => ?_
  · exact keeps_state.bind fun run => Keeps.bind (keeps_call id fun _ _ same => same) keeps_finish
  · exact keeps_state.bind fun run => Keeps.bind (keeps_call id fun _ _ same => same) keeps_finish
  · exact (keeps_update _).ite (keeps_state.bind fun _ => keeps_raise _)

theorem keeps_checkTrafficEvidence (files : FaultFiles) (traffic : CommandOutcome) :
    Keeps world (checkTrafficEvidence files traffic) := by
  refine Keeps.bind ?_ fun available => Keeps.ite ?_ (keeps_raise _)
  · exact Keeps.ite (keeps_onHost (restoring_call trivial)) (keeps_pure _)
  · refine Keeps.bind (keeps_onHost (restoring_fallible trivial)) fun _ => ?_
    exact (keeps_pure _).ite (keeps_raise _)

theorem keeps_observeFault (scenario : Scenario) (files : FaultFiles) (boundary : String) :
    Keeps world (observeFault scenario files boundary) := by
  have resolved {next : Path → List (String × String)} {path : Path} :
      Restoring (do
        let out ← resolve path
        return next out : HostM (List (String × String))) :=
    Restoring.bind (restoring_call trivial) fun _ => restoring_pure _
  refine (keeps_onHost resolved).bind fun _ => (keeps_runCommand _ _ _).bind fun traffic =>
    (keeps_onHost resolved).bind fun _ => (keeps_runCommand _ _ _).bind fun collected => ?_
  exact (keeps_raise _).ite (keeps_checkTrafficEvidence _ _)

theorem keeps_faultBody (scenario : Scenario) (files : FaultFiles) (settleSeconds : ℤ)
    (boundary : String) : Keeps world (faultBody scenario files settleSeconds boundary) :=
  keeps_applyFault.bind fun _ => (keeps_onHost (restoring_sleep _)).bind fun _ =>
    keeps_observeFault _ _ _

/-- With both signals ignored, the rollback is shielded. -/
theorem keeps_rollback : Keeps .ignored rollback := by
  have rolls {op : FaultStageOp} (keeps : ∀ reply after, stageAnswers .ignored op reply after →
      after = .ignored) : Keeps .ignored (call (I := FaultStage) op : FaultM op.Reply) :=
    fun _ reply after answer => ⟨fun _ => rfl, keeps reply after answer⟩
  refine keeps_state.bind fun run => Keeps.ite ?_ (keeps_pure _)
  refine (keeps_update _).bind fun _ => Keeps.bind (Keeps.attempt ?_) fun ended => ?_
  · exact keeps_state.bind fun run => Keeps.bind (rolls fun _ _ same => same) keeps_finish
  · cases ended with
    | ok =>
        refine Keeps.bind ?_ fun _ => keeps_update _
        exact keeps_state.bind fun run => Keeps.bind (rolls fun _ _ same => same) keeps_finish
    | error error => exact (keeps_update _).ite (keeps_raise _)

/-- The rollback shields itself, and sets both handlers again. -/
theorem keeps_protectedRollback {entry : Signals} (run : FaultRun) (int : world .int = entry .int) :
    (protectedRollback (entry .term)).Ensures stageAnswers (fun before op _ => Shielded before op)
      (fun _ _ after => after = entry) run world := by
  have restored (ended : Except Raised Unit) (run : FaultRun) : (do
      let _ ← onHost (Host.setSignal .int (entry .int))
      let _ ← onHost (Host.setSignal .term (entry .term))
      ofExcept ended : FaultM Unit).Ensures stageAnswers (fun before op _ => Shielded before op)
        (fun _ _ after => after = entry) run .ignored := by
    rintro _ _ ⟨_, rfl, _⟩
    refine ⟨False.elim, ?_⟩
    rintro _ _ ⟨_, rfl, _⟩
    refine ⟨False.elim, ?_⟩
    have both : Function.update (Function.update Signals.ignored .int (entry .int)) .term
        (entry .term) = entry := by
      funext signal
      cases signal <;> rfl
    cases ended with
    | error error => exact both
    | ok => exact both
  have rolledBack : (do
      let ended ← attempt rollback
      let _ ← onHost (Host.setSignal .int (entry .int))
      let _ ← onHost (Host.setSignal .term (entry .term))
      ofExcept ended : FaultM Unit).Ensures stageAnswers (fun before op _ => Shielded before op)
        (fun _ _ after => after = entry) run .ignored := by
    rw [ensures_bind, ensures_attempt]
    refine (keeps_rollback run).mono ?_
    intro ended middle after same
    rw [same]
    exact restored ended middle
  rintro previousInt _ ⟨told, rfl, _⟩
  have known : previousInt = entry .int := told.trans int
  rw [known]
  refine ⟨False.elim, ?_⟩
  rintro _ last ⟨_, same, _⟩
  have shielded : last = Signals.ignored := by
    rw [same]
    funext signal
    cases signal <;> rfl
  rw [shielded]
  exact ⟨False.elim, rolledBack⟩

/-- Behind the body, however it ends, the rollback sets the handlers of the entry. -/
theorem keeps_guardedBody {entry : Signals} (scenario : Scenario) (files : FaultFiles)
    (settleSeconds : ℤ) (boundary : String) (run : FaultRun) (int : world .int = entry .int) :
    (guardedBody scenario files settleSeconds boundary (entry .term)).Ensures stageAnswers
      (fun before op _ => Shielded before op) (fun _ _ after => after = entry) run world := by
  rw [guardedBody, ensures_bind, ensures_attempt]
  refine (keeps_faultBody scenario files settleSeconds boundary run).mono ?_
  rintro (error | ended) middle after same
  · dsimp only
    rw [same]
    split
    · exact keeps_protectedRollback _ int
    · rw [ensures_bind]
      refine (keeps_protectedRollback middle int).mono ?_
      rintro (failure | rolledBack) final _ rfl
      · rfl
      · rfl
  · dsimp only
    rw [same]
    exact keeps_protectedRollback middle int

theorem keeps_reportFault (scenario : Scenario) (files : FaultFiles) (identity : RunIdentity) :
    Keeps world (reportFault scenario files identity) := by
  have parsed (paths : List Path) : Restoring (parseFiles paths) := by
    induction paths with
    | nil => exact restoring_pure _
    | cons path paths ih =>
        exact Restoring.bind (restoring_fallible trivial) fun _ => ih.bind fun _ => restoring_pure _
  have existed (paths : List Path) : Restoring (existing paths) := by
    induction paths with
    | nil => exact restoring_pure _
    | cons path paths ih =>
        exact Restoring.bind (restoring_call trivial) fun _ => ih.bind fun _ => restoring_pure _
  refine Keeps.bind ?_ fun recovery => keeps_state.bind fun run => Keeps.bind ?_ fun _ =>
    Keeps.bind ?_ fun events => Keeps.bind ?_ fun logs => Keeps.bind ?_ fun _ => keeps_pure _
  · refine keeps_state.bind fun run => Keeps.ite ?_ (keeps_pure _)
    refine Keeps.bind ?_ fun _ => (keeps_update _).bind fun _ => keeps_pure _
    exact Keeps.bind (keeps_call id fun _ _ same => same) fun _ =>
      (keeps_ofExcept _).bind fun _ => keeps_pure _
  · exact keeps_onHost (restoring_writeText _ _)
  · refine keeps_onHost (Restoring.bind (restoring_call trivial) fun _ => ?_)
    exact (existed _).bind fun _ => parsed _
  · exact keeps_onHost (restoring_call trivial)
  · exact keeps_onHost ((existed _).bind fun _ => restoring_pure _)

/-- The whole run shields its rollback and leaves the handlers of the entry. -/
theorem keeps_executeFaultScenario (entry : Signals) (scenario : Scenario) (outputDir : Path)
    (identity : RunIdentity) (settleSeconds : ℤ) :
    Keeps entry (executeFaultScenario scenario outputDir identity settleSeconds) := by
  refine Keeps.ite (keeps_pure _) ?_
  have bounded (boundary : String) (run : FaultRun) : (do
      guardedBody scenario (.ofOutputDir outputDir) settleSeconds boundary (entry .term)
      reportFault scenario (.ofOutputDir outputDir) identity : FaultM ScenarioResult).Ensures
        stageAnswers (fun before op _ => Shielded before op) (fun _ _ after => after = entry) run
        (Function.update entry .term .interrupting) := by
    have int : Function.update entry .term .interrupting .int = entry .int := rfl
    rw [ensures_bind]
    refine (keeps_guardedBody scenario _ settleSeconds boundary run int).mono ?_
    rintro (error | ended) middle after same
    · exact same
    · dsimp only
      rw [same]
      exact keeps_reportFault _ _ _ middle
  have asked : Restoring Host.utcNow := restoring_call trivial
  intro run
  dsimp only
  rw [ensures_bind, openBoundary, ensures_bind]
  refine (keeps_onHost asked run).mono ?_
  rintro (error | boundary) middle after same
  · exact same
  · dsimp only
    rw [same, ensures_bind]
    refine (keeps_onHost (restoring_writeText _ _) middle).mono ?_
    rintro (error | written) last after same
    · exact same
    · dsimp only
      rw [same]
      rintro previousTerm _ ⟨told, rfl, _⟩
      have known : previousTerm = entry .term := told
      rw [known]
      exact ⟨False.elim, bounded boundary last⟩

end

section

variable [JsonLibrary] {rounds : ℕ} {scenario : Scenario} {outputDir : Path}
  {identity : RunIdentity} {settleSeconds : ℤ}

/-- The run of a fault, each call labelled with the stage that makes it. -/
def executeFaultStaged (rounds : ℕ) (scenario : Scenario) (outputDir : Path)
    (identity : RunIdentity) (settleSeconds : ℤ) :
    Program (Host.observing FaultStageOp) (Except Raised ScenarioResult × FaultRun) :=
  (executeFaultScenario scenario outputDir identity settleSeconds (.start scenario)).realize
    (faultStageOnHost rounds outputDir).labelled

/-- Every trace of the run comes with the stages of its calls. -/
theorem executeFaultOnHost_staged {trace : List (Event Host)} :
    (executeFaultOnHost rounds scenario outputDir identity settleSeconds).Emits () trace ↔
      ∃ staged, (executeFaultStaged rounds scenario outputDir identity settleSeconds).Emits staged ∧
        staged.map Event.unlabelled = trace := by
  rw [executeFaultStaged, ← Program.emits_unlabelled_iff, Program.unlabelled_realize]
  refine Program.emits_bind_iff.trans ⟨?_, .inl⟩
  rintro (emits | ⟨first, ended, rest, rfl, runs, finished⟩)
  · exact emits
  · rw [Program.emits_done_iff.mp finished, List.append_nil]
    exact runs.emits

theorem executeFaultStaged_satisfies (entry : Signals) :
    (executeFaultStaged rounds scenario outputDir identity settleSeconds).Satisfies
      signalAnswers.labelled (fun before op _ => op.1.RollsBack → before = .ignored)
      (fun _ after => after = entry) entry := by
  refine Program.satisfies_realize stageAnswers_total ?_
    (keeps_executeFaultScenario entry scenario outputDir identity settleSeconds _)
  intro world op shielded
  exact Program.satisfies_labelled.mpr (faultStageOnHost_serves rounds outputDir world op shielded)

/-- However a fault run goes, and wherever it is interrupted: all calls of its rollback
are made with both signals ignored and are not interrupted, and in the end both
handlers are those of the entry. -/
theorem executeFaultOnHost_shielded {trace : List (Event Host)} {entry final : Signals}
    (emits : (executeFaultOnHost rounds scenario outputDir identity settleSeconds).Emits () trace)
    (admits : Admits signalAnswers entry trace final) :
    (∃ staged, (executeFaultStaged rounds scenario outputDir identity settleSeconds).Emits staged ∧
      staged.map Event.unlabelled = trace) ∧
    (∀ staged, (executeFaultStaged rounds scenario outputDir identity settleSeconds).Emits staged →
      staged.map Event.unlabelled = trace → ∀ before event after,
        staged = before ++ event :: after →
        event.op.1.RollsBack →
          Admits signalAnswers entry (before.map Event.unlabelled) .ignored ∧
            ¬event.unlabelled.Interrupted) ∧
    ∀ outcome, (executeFaultOnHost rounds scenario outputDir identity settleSeconds).Runs ()
      trace outcome () → final = entry := by
  refine ⟨executeFaultOnHost_staged.mp emits, ?_, ?_⟩
  · rintro _ staged rfl before event after rfl rolls
    rw [List.map_append, List.map_cons, admits_append_iff] at admits
    rcases admits with ⟨now, reached, admits⟩
    rcases admits_cons_iff.mp admits with ⟨later, answer, _⟩
    have called : (executeFaultStaged rounds scenario outputDir identity settleSeconds).Emits
        (before ++ [event]) := by
      rw [← List.singleton_append, ← List.append_assoc] at staged
      exact staged.of_append
    have ignored : now = .ignored := (executeFaultStaged_satisfies entry).of_emits called
      (admits_labelled_iff.mpr reached) answer rolls
    rw [ignored] at reached answer
    exact ⟨reached, fun interrupted => answer.2.2 interrupted rfl⟩
  · intro outcome runs
    rcases runs_within_iff.mp runs with ⟨_, last, runs⟩
    have satisfied := Program.satisfies_realize stageAnswers_total
      (faultStageOnHost_meets rounds outputDir)
      (keeps_executeFaultScenario entry scenario outputDir identity settleSeconds (.start scenario))
    exact satisfied.of_runs runs admits

end

/-- A host on which `docker compose stop` is interrupted, unless `SIGTERM` is ignored. -/
def interruptingHost : Responder Host Signals := fun handlers op =>
  match op with
  | .getSignal signal => (handlers signal, handlers)
  | .setSignal signal disposition =>
      (handlers signal, Function.update handlers signal disposition)
  | .spawn args _ _ =>
      (if "stop" ∈ args ∧ handlers .term ≠ .ignored then .raised .keyboardInterrupt
        else .exited 0 "" "", handlers)
  | op => ((calm (fun _ => .exited 0 "" "") "" [] 0 op).1, handlers)

theorem interruptingHost_answers {before : Signals} {op : HostOp} {reply : op.Reply}
    {after : Signals} (answer : interruptingHost.answers before op reply after) :
    signalAnswers before op reply after := by
  cases op with
  | spawn args environment timeout =>
      rcases Prod.mk.inj answer with ⟨rfl, rfl⟩
      refine ⟨trivial, rfl, ?_⟩
      rintro interrupted rfl
      simp [Event.Interrupted, ProcessEnd.Interrupted, Signals.ignored] at interrupted
  | getSignal | setSignal =>
      rcases Prod.mk.inj answer with ⟨rfl, rfl⟩
      exact ⟨rfl, rfl, False.elim⟩
  | sleep seconds =>
      rcases Prod.mk.inj answer with ⟨rfl, rfl⟩
      exact ⟨trivial, rfl, False.elim⟩
  | _ =>
      rcases Prod.mk.inj answer with ⟨-, rfl⟩
      exact ⟨trivial, rfl, False.elim⟩

instance (op : FaultStageOp) : Decidable op.RollsBack :=
  match op with
  | .remove _ | .verifyRemoved _ => .isTrue trivial
  | .apply _ | .verifyApplied _ | .runCommand _ _ _ | .validateRecovered _ | .host _ => .isFalse id

/-- The run in which the stopping of the AMF is interrupted. -/
def interruptedRun :
    Program (Host.observing FaultStageOp) (Except Raised ScenarioResult × FaultRun) :=
  @executeFaultStaged (.ofDocuments []) 0 (serviceStop "amf") (.ofText "out") ⟨"r", "t", "f"⟩ 1

def stagedHost : Responder (Host.observing FaultStageOp) Signals := fun handlers op =>
  interruptingHost handlers op.2

def interruptedTrace : List (Event (Host.observing FaultStageOp)) :=
  interruptedRun.transcript stagedHost startHandlers

theorem interruptedRun_ends : (interruptedRun.play stagedHost startHandlers).isSome := by
  decide +kernel

theorem interruptedTrace_start :
    (interruptedTrace[10]?.map fun event => (event.op.2, decide event.op.1.RollsBack)) = some
      (.spawn ["docker", "compose", "start", "amf"] [] 30, true) := by
  decide +kernel

/-- After the interrupt, the AMF is started again with both signals ignored. -/
theorem interruptedRun_shielded : ∃ event : Event (Host.observing FaultStageOp),
    interruptedTrace[10]? = some event ∧
      event.op.2 = .spawn ["docker", "compose", "start", "amf"] [] 30 ∧
      Admits signalAnswers startHandlers ((interruptedTrace.take 10).map Event.unlabelled)
        .ignored ∧
      ¬event.unlabelled.Interrupted := by
  let library : JsonLibrary := .ofDocuments []
  rcases Option.isSome_iff_exists.mp interruptedRun_ends with ⟨⟨ended, final⟩, played⟩
  rcases Program.runs_of_play played with ⟨runs, admits⟩
  have heeded : Admits signalAnswers startHandlers (interruptedTrace.map Event.unlabelled) final :=
    admits_labelled_iff.mp (admits.mono fun _ _ _ _ => interruptingHost_answers)
  rcases Option.map_eq_some_iff.mp interruptedTrace_start with ⟨event, found, known⟩
  rcases Prod.mk.inj known with ⟨started, rolls⟩
  have emits := executeFaultOnHost_staged.mpr ⟨_, runs.emits, rfl⟩
  rcases executeFaultOnHost_shielded emits heeded with ⟨_, shielded, _⟩
  have split : interruptedTrace = interruptedTrace.take 10 ++ event ::
      interruptedTrace.drop 11 := by
    rcases List.getElem?_eq_some_iff.mp found with ⟨inside, here⟩
    rw [← here, List.getElem_cons_drop, List.take_append_drop]
  exact ⟨event, found, started,
    shielded _ runs.emits rfl _ event _ split (of_decide_eq_true rolls)⟩

end FivegLab
