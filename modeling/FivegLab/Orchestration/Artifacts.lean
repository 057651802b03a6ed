import FivegLab.Orchestration.Run
import FivegLab.Orchestration.RunDirectory
import FivegLab.ScenarioParser

/-!
# The files of a run

Whatever a run of a scenario writes is in the directory that it has made, in
every run of the program and whatever the host answers.
-/

namespace FivegLab

open Routine Host Calendar

/-- The operation writes no file that is not a direct child of the directory, and
makes no other directory. -/
def HostOp.WritesIn (directory : Path) : HostOp → Prop
  | .writeText path _ => directory.IsChild path
  | .makeDirectory path existOk => path = directory ∧ existOk = true
  | _ => True

/-- Whatever the routine writes is in the directory. -/
abbrev WritesIn {σ α : Type} (directory : Path) (routine : Routine Host σ Raised α) : Prop :=
  routine.Calls (HostOp.WritesIn directory)

/-- A name of a file: a single component that is not special. -/
theorem Path.isChild_div {directory : Path} {name : String} (noSlash : '/' ∉ name.toList)
    (long : 2 < name.toList.length) : directory.IsChild (directory / name) := by
  have noShort : ∀ short : String, short.toList.length ≤ 2 → name ≠ short := by
    rintro short small rfl
    omega
  have alone : components name = [name] := by
    rw [components, Text.splitChars_of_not_mem noSlash, List.map_singleton, String.ofList_toList]
  have relative : ¬Text.StartsWith name "/" := by
    intro start
    exact noSlash (start.subset (List.mem_singleton_self '/'))
  have kept : decide (name ≠ "" ∧ name ≠ ".") = true :=
    decide_eq_true ⟨noShort "" (by simp), noShort "." (by simp)⟩
  have absolute : (Path.ofText name).absolute = false := by
    rw [ofText_eq, decide_eq_false_iff_not]
    exact relative
  have parts : (Path.ofText name).parts = [name] := by
    simp only [ofText_eq, alone, List.filter_cons, kept, if_true, List.filter_nil]
  exact ⟨name, noShort ".." (by simp), by rw [Path.div_eq absolute, parts]⟩

theorem Path.IsChild.parent_eq {directory path : Path} (child : directory.IsChild path) :
    path.parent = directory := by
  rcases child with ⟨name, _, rfl⟩
  simp [Path.parent]

section

variable {σ α : Type} {directory : Path}

theorem writesIn_ite {condition : Prop} [Decidable condition] {yes no : Routine Host σ Raised α}
    (first : WritesIn directory yes) (second : WritesIn directory no) :
    WritesIn directory (if condition then yes else no) := by
  split
  · exact first
  · exact second

/-- A call that may raise. -/
theorem writesIn_fallible {op : HostOp} {next : op.Reply → Except Raised α}
    (permitted : op.WritesIn directory) :
    WritesIn directory
      (Routine.call (I := Host) op >>= fun reply => ofExcept (next reply) : HostM α) :=
  calls_bind (calls_call permitted) fun reply => calls_ofExcept (next reply)

theorem writesIn_sleep (seconds : ℚ) : WritesIn directory (sleep seconds) :=
  writesIn_ite (calls_raise _) (writesIn_ite (calls_raise _) (writesIn_fallible trivial))

theorem writesIn_runCommand (args : List String) (timeout : ℕ)
    (environment : List (String × String)) :
    WritesIn directory (runCommand args timeout environment) := by
  refine calls_bind (calls_call trivial) fun previousTerm => ?_
  refine calls_bind (writesIn_ite ?_ (calls_pure ())) fun _ => ?_
  · exact calls_bind (calls_call trivial) fun _ => calls_pure ()
  · exact calls_bind (calls_call trivial) fun ended =>
      calls_bind (calls_call trivial) fun _ => calls_ofExcept _

theorem writesIn_subprocess (args : List String) (timeout : ℕ) :
    WritesIn directory (subprocess args timeout) :=
  writesIn_fallible trivial

theorem writesIn_writeText {path : Path} (child : directory.IsChild path) (text : String) :
    WritesIn directory (writeText path text) :=
  writesIn_fallible child

theorem writesIn_existing (paths : List Path) : WritesIn directory (existing paths) := by
  induction paths with
  | nil => exact calls_pure _
  | cons path paths ih =>
      exact calls_bind (calls_call trivial) fun _ => calls_bind ih fun _ => calls_pure _

theorem writesIn_parseFiles (paths : List Path) : WritesIn directory (parseFiles paths) := by
  induction paths with
  | nil => exact calls_pure _
  | cons path paths ih =>
      exact calls_bind (writesIn_fallible trivial) fun _ => calls_bind ih fun _ => calls_pure _

theorem writesIn_parseRuntimeEvents (logDir : Path) (extraLogs : List Path) :
    WritesIn directory (parseRuntimeEvents logDir extraLogs) :=
  calls_bind (calls_call trivial) fun _ =>
    calls_bind (writesIn_existing extraLogs) fun _ => writesIn_parseFiles _

theorem writesIn_runtimeEvidence (outputDir : Path) (paths : List Path) :
    WritesIn directory (runtimeEvidence outputDir paths) :=
  calls_bind (writesIn_existing paths) fun _ => calls_pure _

theorem writesIn_writeResult (result : ScenarioResult) :
    WritesIn directory (writeResult result directory) :=
  calls_bind (writesIn_fallible ⟨rfl, rfl⟩) fun _ =>
    calls_bind (writesIn_writeText (Path.isChild_div (by simp) (by simp)) _) fun _ =>
      writesIn_writeText (Path.isChild_div (by simp) (by simp)) _

theorem writesIn_runUeransimCli (service subcommand : String) (timeout : ℕ) :
    WritesIn directory (runUeransimCli service subcommand timeout) := by
  refine calls_bind (writesIn_runCommand _ _ _) fun dump => ?_
  split
  · exact calls_pure _
  · exact calls_bind (writesIn_runCommand _ _ _) fun _ => calls_pure _

theorem writesIn_makeCliChecks {checks : List CliCheck} (timeout : ℕ)
    (children : ∀ check ∈ checks, directory.IsChild (directory / check.file)) :
    WritesIn directory (makeCliChecks directory timeout checks) := by
  induction checks with
  | nil => exact calls_pure _
  | cons check checks ih =>
      rw [List.forall_mem_cons] at children
      refine calls_bind ?_ fun _ => calls_bind (ih children.2) fun _ => calls_pure _
      exact calls_bind (writesIn_runUeransimCli _ _ _) fun _ =>
        calls_bind (writesIn_writeText children.1 _) fun _ => calls_pure _

theorem writesIn_findMissing (timeout : ℕ) (services : List String) :
    WritesIn directory (findMissing timeout services) := by
  induction services with
  | nil => exact calls_pure _
  | cons service services ih =>
      exact calls_bind (writesIn_runCommand _ _ _) fun _ => calls_bind ih fun _ => calls_pure _

theorem writesIn_trafficHolds (path : Path) (traffic : CommandOutcome) :
    WritesIn directory (trafficHolds path traffic) := by
  refine writesIn_ite ?_ (calls_pure _)
  refine calls_bind (calls_call trivial) fun _ => writesIn_ite ?_ (calls_pure _)
  exact calls_bind (writesIn_fallible trivial) fun _ => calls_pure _

/-- A name that a phase begins. -/
theorem Path.isChild_phase {phase suffix : String} (noSlash : '/' ∉ phase.toList)
    (plain : '/' ∉ suffix.toList) (long : 2 < suffix.toList.length) :
    directory.IsChild (directory / (phase ++ suffix)) := by
  apply Path.isChild_div
  · rw [String.toList_append, List.mem_append, not_or]
    exact ⟨noSlash, plain⟩
  · rw [String.toList_append, List.length_append]
    omega

theorem noSlash_filePrefix {phase : String} (noSlash : '/' ∉ phase.toList) :
    '/' ∉ (filePrefix phase).toList := by
  rw [filePrefix]
  split
  · simp
  · exact noSlash

variable {phase : String}

theorem writesIn_checkServices (timeout : ℕ) (noSlash : '/' ∉ phase.toList) :
    WritesIn directory (checkServices directory timeout phase) := by
  refine calls_bind (writesIn_runCommand _ _ _) fun _ => ?_
  refine calls_bind (writesIn_writeText ?_ _) fun _ => ?_
  · exact Path.isChild_phase (noSlash_filePrefix noSlash) (by simp) (by simp)
  · exact calls_bind (writesIn_findMissing _ _) fun _ => calls_pure _

theorem writesIn_checkTunnel (timeout : ℕ) (noSlash : '/' ∉ phase.toList) :
    WritesIn directory (checkTunnel directory timeout phase) := by
  refine calls_bind (writesIn_runCommand _ _ _) fun _ => ?_
  refine calls_bind (writesIn_writeText ?_ _) fun _ => calls_pure _
  exact Path.isChild_phase (noSlash_filePrefix noSlash) (by simp) (by simp)

theorem isChild_currentCliChecks (noSlash : '/' ∉ phase.toList) :
    ∀ check ∈ currentCliChecks phase, directory.IsChild (directory / check.file) := by
  have start := noSlash_filePrefix noSlash
  simp only [currentCliChecks, List.forall_mem_cons, List.not_mem_nil, false_imp_iff, implies_true,
    and_true]
  refine ⟨?_, ?_, ?_⟩
  · exact Path.isChild_phase start (by simp) (by simp)
  · exact Path.isChild_phase start (by simp) (by simp)
  · exact Path.isChild_phase start (by simp) (by simp)

theorem writesIn_checkCurrent (timeout : ℕ) (noSlash : '/' ∉ phase.toList) :
    WritesIn directory (checkCurrent directory timeout phase) := by
  refine calls_bind (writesIn_checkServices timeout noSlash) fun _ => ?_
  refine calls_bind (writesIn_makeCliChecks timeout (isChild_currentCliChecks noSlash)) fun _ => ?_
  exact calls_bind (writesIn_checkTunnel timeout noSlash) fun _ => calls_pure _

theorem writesIn_checkTraffic (timeout : ℕ) (phase : String) :
    WritesIn directory (checkTraffic directory timeout phase) := by
  have probes : WritesIn directory (probeTraffic directory timeout phase) :=
    calls_bind (calls_bind (calls_call trivial) fun _ => calls_pure _) fun _ =>
      writesIn_runCommand _ _ _
  exact calls_bind probes fun _ => calls_bind (writesIn_trafficHolds _ _) fun _ => calls_pure _

theorem writesIn_readCommand (deadline : ℚ) (values : List Json) :
    WritesIn directory (readCommand deadline values) := by
  refine calls_bind (calls_call trivial) fun _ => writesIn_ite (calls_raise _) ?_
  refine calls_bind (calls_ofExcept _) fun _ => ?_
  refine calls_bind (calls_bind (calls_call trivial) fun _ => calls_ofExcept _) fun _ => ?_
  exact writesIn_ite (calls_raise _) (calls_pure _)

theorem writesIn_readContainers (deadline : ℚ) (inspected : List Json) (snapshot : CoreSnapshot) :
    WritesIn directory (readContainers deadline inspected snapshot) := by
  induction inspected generalizing snapshot with
  | nil => exact calls_pure _
  | cons container inspected ih =>
      refine calls_bind (calls_ofExcept _) fun _ => calls_bind ?_ fun _ => ih _
      rw [readLog.eq_def]
      split
      · exact calls_pure _
      · exact calls_bind (writesIn_readCommand _ _) fun _ => calls_pure _

theorem writesIn_coreWrite {path : Path} (child : directory.IsChild path)
    (result : ReadinessResult) : WritesIn directory (result.write path) :=
  calls_bind (writesIn_fallible ⟨child.parent_eq, rfl⟩) fun _ => writesIn_writeText child _

section

variable [JsonLibrary]

theorem writesIn_readCore (deadline : ℚ) : WritesIn directory (readCore deadline) := by
  refine calls_bind (writesIn_readCommand _ _) fun _ => writesIn_ite (calls_pure _) ?_
  refine calls_bind (writesIn_readCommand _ _) fun _ => ?_
  exact calls_bind (calls_ofExcept _) fun _ => calls_bind (calls_ofExcept _) fun _ =>
    writesIn_readContainers _ _ _

theorem writesIn_waitCoreReadyOnHost (rounds : ℕ) :
    WritesIn directory (waitCoreReadyOnHost rounds) := by
  refine calls_within fun _ => ?_
  have anything : ∀ waiting : Program CoreProbe (Except Raised ReadinessResult × CoreWait),
      waiting.Calls fun _ => True := Program.calls_of_forall fun _ => trivial
  refine Program.calls_realize (anything _) ?_
  intro op _
  cases op with
  | monotonic => exact ⟨trivial, fun _ => trivial⟩
  | sleep seconds => exact calls_ending (writesIn_sleep seconds)
  | readCore deadline => exact calls_ending (writesIn_readCore deadline)

omit [JsonLibrary] in
theorem isChild_finalCliChecks (noSlash : '/' ∉ phase.toList) :
    ∀ check ∈ finalCliChecks phase, directory.IsChild (directory / check.file) := by
  simp only [finalCliChecks, finalCliCheck, List.forall_mem_cons, List.not_mem_nil, false_imp_iff,
    implies_true, and_true, String.append_assoc]
  refine ⟨?_, ?_, ?_⟩
  · exact Path.isChild_phase noSlash (by simp) (by simp)
  · exact Path.isChild_phase noSlash (by simp) (by simp)
  · exact Path.isChild_phase noSlash (by simp) (by simp)

theorem writesIn_validateFinalHealth (rounds timeout : ℕ) (noSlash : '/' ∉ phase.toList) :
    WritesIn directory (validateFinalHealth rounds directory timeout phase) := by
  refine calls_bind (calls_call trivial) fun _ => calls_bind ?_ fun _ => calls_bind ?_ fun _ =>
    calls_bind ?_ fun _ => calls_bind ?_ fun _ => calls_pure _
  · refine calls_bind (writesIn_waitCoreReadyOnHost rounds) fun _ => calls_bind ?_ fun _ =>
      calls_pure _
    exact writesIn_coreWrite (Path.isChild_phase noSlash (by simp) (by simp)) _
  · exact writesIn_makeCliChecks timeout (isChild_finalCliChecks noSlash)
  · refine calls_bind (writesIn_runCommand _ _ _) fun _ => calls_bind ?_ fun _ => calls_pure _
    exact writesIn_writeText (Path.isChild_phase noSlash (by simp) (by simp)) _
  · refine calls_bind (calls_call trivial) fun _ => calls_bind ?_ fun _ => calls_pure _
    exact writesIn_writeText (Path.isChild_phase noSlash (by simp) (by simp)) _

theorem writesIn_validateCurrentBaseline (rounds timeout : ℕ) (noSlash : '/' ∉ phase.toList) :
    WritesIn directory (validateCurrentBaseline rounds directory timeout phase) := by
  refine calls_bind (writesIn_checkCurrent timeout noSlash) fun _ => ?_
  refine calls_bind (writesIn_checkTraffic timeout phase) fun _ => ?_
  refine calls_bind (writesIn_validateFinalHealth rounds timeout noSlash) fun _ => ?_
  refine calls_bind (writesIn_writeText ?_ _) fun _ => calls_pure _
  exact Path.isChild_phase noSlash (by simp) (by simp)

omit [JsonLibrary] in
theorem writesIn_runStages (timeout : ℕ) (stages : List (List String × List (String × String))) :
    WritesIn directory (runStages timeout stages) := by
  induction stages with
  | nil => exact calls_pure _
  | cons stage stages ih =>
      refine calls_bind (writesIn_runCommand _ _ _) fun _ => writesIn_ite (calls_pure _) ?_
      exact calls_bind ih fun _ => calls_pure _

omit [JsonLibrary] in
theorem writesIn_pollNgSetup (deadline : ℚ) (rounds : ℕ) (observed : String) :
    WritesIn directory (pollNgSetup deadline rounds observed) := by
  induction rounds generalizing observed with
  | zero => exact calls_unfinished
  | succ rounds ih =>
      refine calls_bind (calls_call trivial) fun _ => writesIn_ite (calls_pure _) ?_
      refine calls_bind (writesIn_runUeransimCli _ _ _) fun _ => writesIn_ite (calls_pure _) ?_
      refine calls_bind (calls_call trivial) fun _ => calls_bind (writesIn_sleep _) fun _ => ?_
      exact calls_bind (ih _) fun _ => calls_pure _

theorem writesIn_startBaseline (rounds timeout : ℕ) (settleSeconds : ℤ) :
    WritesIn directory (startBaseline rounds timeout directory settleSeconds) := by
  have startsUe : WritesIn directory (bringUpUe rounds timeout directory settleSeconds) := by
    refine calls_bind (writesIn_runCommand _ _ _) fun _ => writesIn_ite (calls_pure _) ?_
    refine calls_bind (writesIn_sleep _) fun _ => calls_bind ?_ fun _ => calls_pure _
    exact writesIn_validateCurrentBaseline rounds _ (by simp)
  have startsRan : WritesIn directory (bringUpRan rounds timeout directory settleSeconds) := by
    refine calls_bind ?_ fun _ => calls_bind ?_ fun _ => writesIn_ite ?_ (calls_pure _)
    · exact calls_bind (calls_call trivial) fun _ => writesIn_pollNgSetup _ _ _
    · exact writesIn_writeText (Path.isChild_div (by simp) (by simp)) _
    · exact calls_bind startsUe fun _ => calls_pure _
  refine calls_bind ?_ fun _ =>
    writesIn_ite (calls_pure _) (calls_bind startsRan fun _ => calls_pure _)
  refine calls_bind ?_ fun _ => writesIn_runStages _ _
  exact calls_bind (calls_call trivial) fun _ => calls_pure _

theorem writesIn_executeBaseline (rounds : ℕ) (scenario : Scenario) (identity : RunIdentity)
    (settleSeconds : ℤ) :
    WritesIn directory (executeBaseline rounds scenario directory identity settleSeconds) := by
  refine calls_bind (writesIn_startBaseline _ _ _) fun _ => calls_bind ?_ fun _ => ?_
  · refine calls_bind ?_ fun _ => writesIn_runCommand _ _ _
    exact calls_bind (calls_call trivial) fun _ => calls_pure _
  · refine calls_bind ?_ fun _ => calls_bind (writesIn_parseRuntimeEvents _ _) fun _ => ?_
    · exact writesIn_writeText (Path.isChild_div (by simp) (by simp)) _
    · exact calls_bind (calls_call trivial) fun _ =>
        calls_bind (writesIn_runtimeEvidence _ _) fun _ => calls_pure _

end

/-- A stage that is an operation of the host writes only in the directory. -/
def FaultStageOp.WritesIn (directory : Path) : FaultStageOp → Prop
  | .host op => op.WritesIn directory
  | _ => True

theorem calls_onHost {routine : HostM α} (writes : WritesIn directory routine) :
    (FaultStage.onHost routine).Calls (FaultStageOp.WritesIn directory) := by
  have lifted : ∀ program : Program Host (Except Raised α × Unit),
      program.Calls (HostOp.WritesIn directory) →
        (FaultStage.liftProgram program).Calls (FaultStageOp.WritesIn directory) := by
    intro program calls
    induction program with
    | done value => trivial
    | call op next ih => exact ⟨calls.1, fun reply => ih reply (calls.2 reply)⟩
    | unfinished => trivial
  exact fun _ => Program.calls_bind (lifted _ (writes ())) fun _ => trivial

/-- A call of a stage that is no operation of the host. -/
theorem calls_stage {β : Type} {op : FaultStageOp} {next : op.Reply → FaultM β}
    (permitted : op.WritesIn directory)
    (rest : ∀ reply, (next reply).Calls (FaultStageOp.WritesIn directory)) :
    (Routine.call (I := FaultStage) op >>= next : FaultM β).Calls
      (FaultStageOp.WritesIn directory) :=
  calls_bind (calls_call permitted) rest

theorem calls_finish (ended : Except Raised α × FaultInjector) :
    (FaultStage.finish ended).Calls (FaultStageOp.WritesIn directory) :=
  calls_bind (calls_update _) fun _ => calls_ofExcept _

theorem calls_stageCommand (args : List String) (timeout : ℕ)
    (environment : List (String × String)) :
    (FaultStage.runCommand args timeout environment).Calls (FaultStageOp.WritesIn directory) :=
  calls_stage trivial fun _ => calls_bind (calls_ofExcept _) fun _ =>
    calls_bind (calls_update _) fun _ => calls_pure _

theorem calls_ite {I : Interface} {allowed : I.Op → Prop} {condition : Prop}
    [Decidable condition] {yes no : Routine I σ Raised α} (first : yes.Calls allowed)
    (second : no.Calls allowed) : (if condition then yes else no).Calls allowed := by
  split
  · exact first
  · exact second

theorem calls_applyFault : applyFault.Calls (FaultStageOp.WritesIn directory) := by
  refine calls_bind ?_ fun _ => calls_bind (calls_update _) fun _ => calls_bind ?_ fun _ => ?_
  · exact calls_bind calls_state fun _ => calls_stage trivial calls_finish
  · exact calls_bind calls_state fun _ => calls_stage trivial calls_finish
  · exact calls_ite (calls_update _) (calls_bind calls_state fun _ => calls_raise _)

theorem calls_checkTrafficEvidence (files : FaultFiles) (traffic : CommandOutcome) :
    (checkTrafficEvidence files traffic).Calls (FaultStageOp.WritesIn directory) := by
  have asks : (trafficAvailable files traffic).Calls (FaultStageOp.WritesIn directory) :=
    calls_ite (calls_onHost (calls_call trivial)) (calls_pure _)
  refine calls_bind asks fun _ => calls_ite ?_ (calls_raise _)
  refine calls_bind (calls_onHost (writesIn_fallible trivial)) fun _ => ?_
  exact calls_ite (calls_pure _) (calls_raise _)

theorem calls_faultBody (scenario : Scenario) (files : FaultFiles) (settleSeconds : ℤ)
    (boundary : String) :
    (faultBody scenario files settleSeconds boundary).Calls (FaultStageOp.WritesIn directory) := by
  refine calls_bind calls_applyFault fun _ => ?_
  refine calls_bind (calls_onHost (writesIn_sleep _)) fun _ => ?_
  refine calls_bind (calls_onHost (calls_bind (calls_call trivial) fun _ => calls_pure _))
    fun _ => ?_
  refine calls_bind (calls_stageCommand _ _ _) fun _ => ?_
  refine calls_bind (calls_onHost (calls_bind (calls_call trivial) fun _ => calls_pure _))
    fun _ => ?_
  refine calls_bind (calls_stageCommand _ _ _) fun _ => calls_ite (calls_raise _) ?_
  exact calls_checkTrafficEvidence _ _

theorem calls_rollback : rollback.Calls (FaultStageOp.WritesIn directory) := by
  refine calls_bind calls_state fun run => calls_ite ?_ (calls_pure _)
  refine calls_bind (calls_update _) fun _ => calls_bind (calls_attempt ?_) fun ended => ?_
  · exact calls_bind calls_state fun _ => calls_stage trivial calls_finish
  · cases ended with
    | ok =>
        refine calls_bind ?_ fun _ => calls_update _
        exact calls_bind calls_state fun _ => calls_stage trivial calls_finish
    | error => exact calls_ite (calls_update _) (calls_raise _)

theorem calls_protectedRollback (previousTerm : Disposition) :
    (protectedRollback previousTerm).Calls (FaultStageOp.WritesIn directory) := by
  have sets (signal : Signal) (disposition : Disposition) :
      (FaultStage.onHost (setSignal signal disposition)).Calls (FaultStageOp.WritesIn directory) :=
    calls_onHost (calls_call trivial)
  refine calls_bind (sets _ _) fun _ => calls_bind (sets _ _) fun _ => ?_
  refine calls_bind (calls_attempt calls_rollback) fun _ => ?_
  exact calls_bind (sets _ _) fun _ => calls_bind (sets _ _) fun _ => calls_ofExcept _

theorem calls_guardedBody (scenario : Scenario) (files : FaultFiles) (settleSeconds : ℤ)
    (boundary : String) (previousTerm : Disposition) :
    (guardedBody scenario files settleSeconds boundary previousTerm).Calls
      (FaultStageOp.WritesIn directory) := by
  refine calls_bind (calls_attempt (calls_faultBody _ _ _ _)) fun ended => ?_
  cases ended with
  | ok => exact calls_protectedRollback _
  | error =>
      refine calls_ite ?_ ?_
      · exact calls_bind (calls_update _) fun _ => calls_protectedRollback _
      · exact calls_bind (calls_protectedRollback _) fun _ => calls_raise _

theorem calls_reportFault (scenario : Scenario) (identity : RunIdentity) :
    (reportFault scenario (.ofOutputDir directory) identity).Calls
      (FaultStageOp.WritesIn directory) := by
  refine calls_bind ?_ fun _ => calls_bind calls_state fun _ => calls_bind ?_ fun _ => ?_
  · refine calls_bind calls_state fun _ => calls_ite ?_ (calls_pure _)
    refine calls_bind ?_ fun _ => calls_bind (calls_update _) fun _ => calls_pure _
    exact calls_stage trivial fun _ => calls_bind (calls_ofExcept _) fun _ => calls_pure _
  · exact calls_onHost (writesIn_writeText (Path.isChild_div (by simp) (by simp)) _)
  · refine calls_bind (calls_onHost (writesIn_parseRuntimeEvents _ _)) fun _ => ?_
    refine calls_bind (calls_onHost (calls_call trivial)) fun _ => ?_
    exact calls_bind (calls_onHost (writesIn_runtimeEvidence _ _)) fun _ => calls_pure _

theorem calls_executeFaultScenario (scenario : Scenario) (identity : RunIdentity)
    (settleSeconds : ℤ) :
    (executeFaultScenario scenario directory identity settleSeconds).Calls
      (FaultStageOp.WritesIn directory) := by
  refine calls_ite (calls_pure _) (calls_bind ?_ fun _ => ?_)
  · refine calls_bind (calls_onHost (calls_call trivial)) fun _ =>
      calls_bind (calls_onHost ?_) fun _ =>
      calls_bind (calls_onHost (calls_call trivial)) fun _ => calls_pure _
    exact writesIn_writeText (Path.isChild_div (by simp) (by simp)) _
  · exact calls_bind (calls_guardedBody _ _ _ _ _) fun _ => calls_reportFault _ _

/-- The injector only runs commands. -/
theorem calls_injector {β : Type} (method : Program (Runner.observing FaultInjector) β) :
    (method.realize runnerOnHost).Calls (HostOp.WritesIn directory) := by
  have anything : method.Calls fun _ => True := Program.calls_of_forall (fun _ => trivial) method
  refine Program.calls_realize anything fun op _ => calls_ending ?_
  exact calls_bind (writesIn_runCommand _ _ _) fun _ => calls_pure _

section

variable [JsonLibrary]

theorem writesIn_executeFaultOnHost (rounds : ℕ) (scenario : Scenario) (identity : RunIdentity)
    (settleSeconds : ℤ) :
    WritesIn directory (executeFaultOnHost rounds scenario directory identity settleSeconds) := by
  refine calls_within fun run => ?_
  refine Program.calls_realize (calls_executeFaultScenario scenario identity settleSeconds run) ?_
  intro op permitted
  cases op with
  | apply => exact calls_injector _
  | verifyApplied => exact calls_injector _
  | remove => exact calls_injector _
  | verifyRemoved => exact calls_injector _
  | runCommand => exact calls_ending (writesIn_runCommand _ _ _)
  | validateRecovered =>
      refine calls_ending (calls_bind ?_ fun _ => calls_pure _)
      exact writesIn_validateCurrentBaseline rounds _ (by simp)
  | host op => exact ⟨permitted, fun _ => trivial⟩

omit [JsonLibrary] in
theorem writesIn_runPreflight : WritesIn directory runPreflight := by
  have device (path : Path) : WritesIn directory (isDevice path) :=
    calls_bind (calls_call trivial) fun _ => writesIn_ite (calls_call trivial) (calls_pure _)
  have lookups (entries : List (String × String × Bool)) :
      WritesIn directory (commandChecks entries) := by
    induction entries with
    | nil => exact calls_pure _
    | cons entry entries ih =>
        refine calls_bind ?_ fun _ => calls_bind ih fun _ => calls_pure _
        exact calls_bind (calls_call trivial) fun _ => writesIn_ite (calls_pure _) (calls_pure _)
  have conflicts (ports : List ℕ) : WritesIn directory (findConflicts ports) := by
    induction ports with
    | nil => exact calls_pure _
    | cons port ports ih =>
        exact calls_bind (calls_call trivial) fun _ => calls_bind ih fun _ => calls_pure _
  refine calls_bind ?_ fun _ => calls_bind (lookups _) fun _ => calls_bind ?_ fun _ =>
    calls_bind ?_ fun _ => calls_bind ?_ fun _ => calls_bind ?_ fun _ => calls_bind ?_ fun _ =>
    calls_bind ?_ fun _ => calls_pure _
  · exact calls_bind (calls_call trivial) fun _ => calls_bind (calls_call trivial) fun _ =>
      calls_bind (calls_call trivial) fun _ => calls_pure _
  · refine calls_bind (calls_call trivial) fun _ => writesIn_ite ?_ (calls_pure _)
    exact calls_bind (writesIn_subprocess _ _) fun _ => calls_pure _
  · exact calls_bind (device _) fun _ => calls_bind (calls_call trivial) fun _ => calls_pure _
  · refine writesIn_ite (calls_pure _) (calls_bind ?_ fun _ => writesIn_ite (calls_pure _) ?_)
    · refine calls_bind (calls_call trivial) fun _ => writesIn_ite ?_ (calls_pure _)
      exact calls_bind (writesIn_fallible trivial) fun _ => calls_pure _
    · refine calls_bind ?_ fun _ => writesIn_ite (calls_pure _) (calls_pure _)
      refine calls_bind (calls_call trivial) fun _ => writesIn_ite ?_ (calls_pure _)
      exact calls_bind (writesIn_subprocess _ _) fun _ => calls_pure _
  · refine writesIn_ite (calls_pure _) (calls_bind (calls_call trivial) fun _ => ?_)
    refine writesIn_ite (calls_bind (writesIn_fallible trivial) fun _ => ?_) (calls_pure _)
    exact writesIn_ite (calls_pure _) (calls_pure _)
  · exact calls_bind (conflicts _) fun _ => calls_pure _
  · exact calls_bind (calls_call trivial) fun _ => calls_bind (calls_call trivial) fun _ =>
      calls_pure _

omit [JsonLibrary] in
theorem writesIn_configDigests (repoRoot : Path) (paths : List Path) :
    WritesIn directory (configDigests repoRoot paths) := by
  induction paths with
  | nil => exact calls_pure _
  | cons path paths ih =>
      refine calls_bind (calls_ofExcept _) fun _ => calls_bind ?_ fun _ =>
        calls_bind ih fun _ => calls_pure _
      exact calls_bind (writesIn_fallible trivial) fun _ => calls_pure _

theorem writesIn_runtimeContextManifest (repoRoot : Path) :
    WritesIn directory (runtimeContextManifest repoRoot) := by
  refine calls_bind ?_ fun _ => calls_bind ?_ fun _ => calls_bind ?_ fun _ =>
    calls_bind (writesIn_configDigests _ _) fun _ => ?_
  · exact calls_bind (calls_call trivial) fun _ => calls_bind (calls_call trivial) fun _ =>
      calls_pure _
  · refine calls_bind (writesIn_runCommand _ _ _) fun _ => ?_
    split
    · exact calls_pure _
    · exact writesIn_ite (calls_pure _) (calls_raise _)
  · exact calls_bind (writesIn_subprocess _ _) fun _ => calls_pure _
  · refine calls_bind (calls_call trivial) fun _ => calls_bind (calls_call trivial) fun _ =>
      calls_bind (calls_call trivial) fun _ => calls_bind (calls_call trivial) fun _ =>
      calls_bind ?_ fun _ => calls_pure _
    refine calls_bind (calls_attempt (writesIn_subprocess _ _)) fun ended => ?_
    cases ended with
    | ok => exact calls_pure _
    | error => exact writesIn_ite (calls_pure _) (calls_raise _)

omit [JsonLibrary] in
theorem writesIn_writeManifests (repoRoot : Path) (scenarioId : String) (context : RuntimeContext) :
    WritesIn directory (writeManifests repoRoot directory scenarioId context) := by
  refine calls_bind ?_ fun _ => calls_bind ?_ fun _ => calls_bind ?_ fun _ => ?_
  · exact calls_bind (calls_call trivial) fun _ => calls_bind (calls_call trivial) fun _ =>
      calls_bind (calls_call trivial) fun _ => calls_bind (calls_call trivial) fun _ =>
      calls_bind (calls_bind (writesIn_subprocess _ _) fun _ => calls_pure _) fun _ => calls_pure _
  · exact writesIn_writeText (Path.isChild_div (by simp) (by simp)) _
  · exact writesIn_writeText (Path.isChild_div (by simp) (by simp)) _
  · exact writesIn_writeText (Path.isChild_div (by simp) (by simp)) _

omit [JsonLibrary] in
theorem writesIn_finishRun (result : ScenarioResult) :
    WritesIn directory (finishRun directory result) :=
  calls_bind (writesIn_writeResult result) fun _ => calls_pure _

theorem writesIn_validateBaselineResult (path : Option Path) (expectedFingerprint : String) :
    WritesIn directory (validateBaselineResult path expectedFingerprint) := by
  cases path with
  | none => exact calls_pure _
  | some path =>
      refine calls_bind (calls_call trivial) fun _ => writesIn_ite ?_ (calls_pure _)
      refine calls_bind (calls_attempt ?_) fun ended => ?_
      · exact calls_bind (writesIn_fallible trivial) fun _ => calls_ofExcept _
      · cases ended with
        | ok => exact calls_pure _
        | error => exact writesIn_ite (calls_pure _) (calls_raise _)

theorem writesIn_runFault (rounds : ℕ) (scenario : Scenario) (opened : OpenedRun)
    (baselineResult : Option Path) (settleSeconds : ℤ) :
    WritesIn opened.outputDir (runFault rounds scenario opened baselineResult settleSeconds) := by
  refine calls_bind (writesIn_validateBaselineResult _ _) fun _ =>
    writesIn_ite (calls_bind ?_ fun _ => writesIn_ite ?_ ?_) (writesIn_finishRun _)
  · exact writesIn_validateCurrentBaseline rounds _ (by simp)
  · exact calls_bind (writesIn_executeFaultOnHost _ _ _ _) fun _ => writesIn_finishRun _
  · exact calls_bind (writesIn_runtimeEvidence _ _) fun _ => writesIn_finishRun _

end

end

/-- What a run does with files after its clock was read: it makes its directory, if
it gets as far, and writes in it alone. -/
inductive ArtifactTrace (directory : Path) : List (Event Host) → Prop
  | unmade : ArtifactTrace directory []
  | failed (error : Raised) :
      ArtifactTrace directory [⟨.makeDirectory directory false, .error error⟩]
  | made (rest : List (Event Host)) (writes : ∀ event ∈ rest, event.op.WritesIn directory) :
      ArtifactTrace directory (⟨.makeDirectory directory false, .ok ()⟩ :: rest)

namespace ArtifactTrace

variable {directory : Path} {trace : List (Event Host)}

theorem append (artifacts : ArtifactTrace directory trace)
    (made : ⟨.makeDirectory directory false, .ok ()⟩ ∈ trace) {rest : List (Event Host)}
    (writes : ∀ event ∈ rest, event.op.WritesIn directory) :
    ArtifactTrace directory (trace ++ rest) := by
  cases artifacts with
  | unmade => simp at made
  | failed error => simp at made
  | made first firstWrites =>
      refine .made _ fun event member => ?_
      rcases List.mem_append.mp member with early | late
      · exact firstWrites event early
      · exact writes event late

/-- The directory is the only one that must be new, and is made first. -/
theorem made_eq {path : Path} {before after : List (Event Host)}
    (artifacts : ArtifactTrace directory (before ++ ⟨.makeDirectory path false, .ok ()⟩ :: after)) :
    before = [] ∧ path = directory := by
  generalize split : before ++ ⟨.makeDirectory path false, .ok ()⟩ :: after = trace at artifacts
  cases artifacts with
  | unmade => simp at split
  | failed error => cases before <;> simp at split
  | made rest writes =>
      cases before with
      | nil =>
          cases split
          exact ⟨rfl, rfl⟩
      | cons event before =>
          rw [List.cons_append, List.cons.injEq] at split
          have permitted := writes ⟨.makeDirectory path false, .ok ()⟩ (by simp [← split.2])
          exact absurd permitted.2 Bool.false_ne_true

/-- A file is written in the directory, which was made before. -/
theorem written {path : Path} {text : String} {reply : Except Raised Unit}
    (artifacts : ArtifactTrace directory trace) (wrote : ⟨.writeText path text, reply⟩ ∈ trace) :
    ⟨.makeDirectory directory false, .ok ()⟩ ∈ trace ∧ directory.IsChild path := by
  cases artifacts with
  | unmade => simp at wrote
  | failed error => simp at wrote
  | made rest writes =>
      refine ⟨List.mem_cons_self, ?_⟩
      rcases List.mem_cons.mp wrote with first | later
      · cases first
      · exact writes _ later

end ArtifactTrace

section

variable [JsonLibrary] {repoRoot outputRoot : Path} {scenario : Scenario}
  {trace : List (Event Host)}

theorem openRun_emits (emits : (openRun repoRoot outputRoot scenario).Emits () trace) :
    trace = [] ∨ ∃ startedAt rest, trace = ⟨.utcNow, startedAt⟩ :: rest ∧
      ArtifactTrace (outputRoot / makeRunId scenario.id startedAt) rest := by
  rcases Program.emits_call_iff.mp emits with rfl | ⟨startedAt, rest, rfl, opening⟩
  · exact .inl rfl
  · refine .inr ⟨startedAt, rest, rfl, ?_⟩
    rcases Program.emits_call_iff.mp opening with rfl | ⟨reply, more, rfl, describing⟩
    · exact .unmade
    · cases reply with
      | error error =>
          rw [Program.emits_done_iff.mp describing]
          exact .failed error
      | ok =>
          have describes (opened : RuntimeContext → OpenedRun) :
              WritesIn (outputRoot / makeRunId scenario.id startedAt) (do
                let context ← runtimeContextManifest repoRoot
                writeManifests repoRoot (outputRoot / makeRunId scenario.id startedAt) scenario.id
                  context
                return opened context : HostM OpenedRun) :=
            calls_bind (writesIn_runtimeContextManifest repoRoot) fun _ =>
              calls_bind (writesIn_writeManifests _ _ _) fun _ => calls_pure _
          exact .made more ((describes _).of_emits describing)

theorem openRun_runs_artifacts {opened : OpenedRun} {after : Unit}
    (runs : (openRun repoRoot outputRoot scenario).Runs () trace (.ok opened) after) :
    ⟨.makeDirectory opened.outputDir false, .ok ()⟩ ∈ trace ∧ ∃ startedAt rest,
      trace = ⟨.utcNow, startedAt⟩ :: rest ∧
      opened.outputDir = outputRoot / makeRunId scenario.id startedAt := by
  rw [openRun, runs_bind_ok_iff] at runs
  rcases runs with ⟨_, startedAt, _, _, rfl, clock, runs⟩
  rw [runs_bind_ok_iff] at runs
  rcases runs with ⟨_, _, _, _, rfl, makes, runs⟩
  rw [runs_bind_ok_iff] at runs
  rcases runs with ⟨_, _, _, _, rfl, _, runs⟩
  rw [runs_bind_ok_iff] at runs
  rcases runs with ⟨_, _, _, _, rfl, _, runs⟩
  rw [runs_pure_iff, Except.ok.injEq] at runs
  rw [runs_utcNow_iff] at clock
  rw [runs_makeDirectory_iff] at makes
  rcases clock with ⟨_, rfl, ⟨⟩⟩
  rcases runs with ⟨rfl, rfl, _⟩
  exact ⟨by simp [makes], startedAt, _, rfl, rfl⟩

/-- A run reads the clock, makes the directory of its identifier, and writes in it. -/
theorem runRuntimeScenario_emits {rounds : ℕ} {baselineResult : Option Path} {settleSeconds : ℤ}
    (emits : (runRuntimeScenario rounds repoRoot scenario outputRoot baselineResult
      settleSeconds).Emits () trace) :
    trace = [] ∨ ∃ startedAt rest, trace = ⟨.utcNow, startedAt⟩ :: rest ∧
      ArtifactTrace (outputRoot / makeRunId scenario.id startedAt) rest := by
  rw [runRuntimeScenario] at emits
  rcases emits_bind_iff.mp emits with opening | ⟨first, opened, _, more, rfl, opens, continues⟩
  · exact openRun_emits opening
  · rcases openRun_runs_artifacts opens with ⟨made, startedAt, rest, rfl, directory⟩
    rcases openRun_emits opens.emits with none | ⟨_, _, same, artifacts⟩
    · cases none
    · cases same
      refine .inr ⟨startedAt, rest ++ more, rfl, artifacts.append ?_ ?_⟩
      · rw [← directory]
        simpa using made
      · rw [← directory]
        refine Calls.of_emits ?_ continues
        refine calls_bind ?_ fun reasons => writesIn_ite (writesIn_finishRun _) (writesIn_ite ?_ ?_)
        · exact calls_bind writesIn_runPreflight fun _ =>
            calls_bind (writesIn_fallible trivial) fun _ => calls_pure _
        · exact writesIn_runFault _ _ _ _ _
        · exact calls_bind (writesIn_executeBaseline _ _ _ _) fun _ => writesIn_finishRun _

end

/-- How the existing paths of the host change: the clock leaves them alone, and a
directory that must be new is made only where there is none. -/
def filesAnswer : Answers Host (Path → Prop) := fun existing op reply after =>
  match op, reply with
  | .utcNow, _ => after = existing
  | .makeDirectory path false, .ok () => ¬existing path ∧ after path
  | _, _ => True

/-- The call that made a new directory. -/
def madeDirectory (path : Path) : Event Host := ⟨.makeDirectory path false, .ok ()⟩

/-- A run of a scenario, and the time at which it starts. -/
structure RunRequest where
  repoRoot : Path
  scenario : Scenario
  baselineResult : Option Path
  settleSeconds : ℤ
  start : DateTime

namespace RunRequest

variable [JsonLibrary] (root : Path) (request other : RunRequest)

/-- The calls that the run has made under an output root, at some point of it. -/
def Emits (trace : List (Event Host)) : Prop :=
  ∃ rounds rest, trace = ⟨.utcNow, utcNowText request.start⟩ :: rest ∧
    (runRuntimeScenario rounds request.repoRoot request.scenario root request.baselineResult
      request.settleSeconds).Emits () trace

/-- The directory that the run makes is a new one directly below the root, and
every file that the run writes is in it. -/
structure Contained : Prop where
  child : ∀ trace path, request.Emits root trace → madeDirectory path ∈ trace → root.IsChild path
  fresh : ∀ before path after existing now,
    request.Emits root (before ++ madeDirectory path :: after) →
    Admits filesAnswer existing (before ++ [madeDirectory path]) now → ¬existing path
  single : ∀ trace path path', request.Emits root trace → madeDirectory path ∈ trace →
    madeDirectory path' ∈ trace → path = path'
  inside : ∀ trace path text reply, request.Emits root trace →
    ⟨.writeText path text, reply⟩ ∈ trace →
    ∃ directory, madeDirectory directory ∈ trace ∧ directory.IsChild path

/-- Two runs with different ids or start times make different directories. -/
def Apart : Prop :=
  (request.scenario.id, request.start) ≠ (other.scenario.id, other.start) →
    ∀ trace otherTrace path otherPath, request.Emits root trace → other.Emits root otherTrace →
      madeDirectory path ∈ trace → madeDirectory otherPath ∈ otherTrace → path ≠ otherPath

variable {root : Path} {request other : RunRequest}

theorem Emits.artifacts {trace : List (Event Host)} (emits : request.Emits root trace) :
    ∃ rest, trace = ⟨.utcNow, utcNowText request.start⟩ :: rest ∧
      ArtifactTrace (runDirectory root request.scenario.id request.start) rest := by
  rcases emits with ⟨rounds, rest, rfl, emits⟩
  rcases runRuntimeScenario_emits emits with none | ⟨startedAt, more, same, artifacts⟩
  · cases none
  · cases same
    exact ⟨rest, rfl, artifacts⟩

/-- The run makes the directory of its id and its start after it has read the clock,
and no other. -/
theorem Emits.made_split {before after : List (Event Host)} {path : Path}
    (emits : request.Emits root (before ++ madeDirectory path :: after)) :
    before = [⟨.utcNow, utcNowText request.start⟩] ∧
      path = runDirectory root request.scenario.id request.start := by
  rcases emits.artifacts with ⟨rest, same, artifacts⟩
  cases before with
  | nil => cases same
  | cons clock before =>
      rw [List.cons_append, List.cons.injEq] at same
      rcases same with ⟨rfl, rfl⟩
      rcases artifacts.made_eq with ⟨rfl, directory⟩
      exact ⟨rfl, directory⟩

theorem Emits.made_eq {trace : List (Event Host)} {path : Path} (emits : request.Emits root trace)
    (made : madeDirectory path ∈ trace) :
    path = runDirectory root request.scenario.id request.start := by
  rcases List.append_of_mem made with ⟨before, after, rfl⟩
  exact emits.made_split.2

/-- Every run gets as far as its directory, when that can be made. -/
theorem emits_made (root : Path) (request : RunRequest) :
    request.Emits root [⟨.utcNow, utcNowText request.start⟩,
      madeDirectory (runDirectory root request.scenario.id request.start)] := by
  refine ⟨0, _, rfl, ?_⟩
  refine Program.emits_call_iff.mpr (.inr ⟨_, _, rfl, ?_⟩)
  exact Program.emits_call_iff.mpr (.inr ⟨_, _, rfl, .stop _⟩)

theorem Emits.fresh {before after : List (Event Host)} {path : Path} {existing now : Path → Prop}
    (emits : request.Emits root (before ++ madeDirectory path :: after))
    (admits : Admits filesAnswer existing (before ++ [madeDirectory path]) now) :
    ¬existing path := by
  rcases emits.made_split with ⟨rfl, _⟩
  simp only [List.cons_append, List.nil_append, admits_cons_iff] at admits
  rcases admits with ⟨_, rfl, _, answer, _⟩
  exact answer.1

theorem contained_iff : request.Contained root ↔ idTail request.scenario.id = [] := by
  rw [← @isChild_runDirectory_iff root _ request.start]
  constructor
  · intro contained
    exact contained.child _ _ (emits_made root request) (by simp)
  · intro child
    refine ⟨?_, ?_, ?_, ?_⟩
    · intro trace path emits made
      rwa [emits.made_eq made]
    · intro before path after existing now emits admits
      exact emits.fresh admits
    · intro trace path path' emits made made'
      rw [emits.made_eq made, emits.made_eq made']
    · intro trace path text reply emits wrote
      rcases emits.artifacts with ⟨rest, rfl, artifacts⟩
      rcases List.mem_cons.mp wrote with first | later
      · cases first
      · rcases artifacts.written later with ⟨made, inside⟩
        exact ⟨_, List.mem_cons_of_mem _ made, inside⟩

theorem apart_iff : request.Apart root other ↔
    (request.start = other.start → idHead request.scenario.id = idHead other.scenario.id →
      idTail request.scenario.id = idTail other.scenario.id →
      request.scenario.id = other.scenario.id) := by
  constructor
  · intro apart starts heads tails
    by_contra differ
    have directories := (@runDirectory_eq_iff root _ _ _ _).mpr ⟨starts, heads, tails⟩
    refine apart (fun same => differ (congrArg Prod.fst same)) _ _ _ _ (emits_made root request)
      (emits_made root other) ?_ ?_ directories
    · exact List.mem_cons_of_mem _ (List.mem_singleton_self _)
    · exact List.mem_cons_of_mem _ (List.mem_singleton_self _)
  · intro separate differ trace otherTrace path otherPath emits otherEmits made otherMade same
    rw [emits.made_eq made, otherEmits.made_eq otherMade, runDirectory_eq_iff] at same
    rcases same with ⟨starts, heads, tails⟩
    exact differ (by rw [starts, separate starts heads tails])

/-- The artifacts of runs are kept apart, each in a new directory below the root,
exactly when no id has further components and no two ids begin alike at one time. -/
theorem artifacts_contained_iff :
    request.Contained root ∧ other.Contained root ∧ request.Apart root other ↔
      idTail request.scenario.id = [] ∧ idTail other.scenario.id = [] ∧
      (request.start = other.start → idHead request.scenario.id = idHead other.scenario.id →
        request.scenario.id = other.scenario.id) := by
  rw [contained_iff, contained_iff, apart_iff]
  constructor
  · rintro ⟨alone, otherAlone, separate⟩
    exact ⟨alone, otherAlone, fun starts heads => separate starts heads (by rw [alone, otherAlone])⟩
  · rintro ⟨alone, otherAlone, separate⟩
    exact ⟨alone, otherAlone, fun starts heads _ => separate starts heads⟩

/-- A scenario whose id has two components. -/
def nestedMapping : List (Yaml × Yaml) :=
  [(.text "id", .text "amf/stopped"),
    (.text "title", .text "No fault"),
    (.text "category", .text "CONTROL_PLANE"),
    (.text "description", .text "Observe the lab without a fault."),
    (.text "preconditions", .list []),
    (.text "fault", .mapping [(.text "type", .text "none")]),
    (.text "expected_control_plane", .text "Unchanged."),
    (.text "expected_user_plane", .text "Unchanged."),
    (.text "expected_events", .list [.text "ng_setup"]),
    (.text "forbidden_events", .list []),
    (.text "recovery_action", .text "None."),
    (.text "recovery_expectation", .text "The baseline passes."),
    (.text "timeout_seconds", .int 300),
    (.text "runtime_validated", .bool false)]

omit [JsonLibrary] in
/-- Such a scenario is accepted, and its run makes no direct child of the root. -/
theorem not_contained_nested :
    ¬∀ (_ : Interpreter) (_ : JsonLibrary) data path scenario root repoRoot baselineResult
      settleSeconds
      start, parseScenario data path = .ok scenario →
        Contained root ⟨repoRoot, scenario, baselineResult, settleSeconds, start⟩ := by
  intro contained
  have accepted :
      ∃ scenario, @parseScenario asciiInterpreter nestedMapping (.ofText "nested.yaml") =
      .ok scenario ∧ scenario.id = "amf/stopped" := ⟨_, rfl, rfl⟩
  rcases accepted with ⟨scenario, parsed, named⟩
  let := JsonLibrary.ofDocuments []
  have start : DateTime := ⟨⟨2026, 9, 10, by decide⟩, ⟨14, 42, 12, 150699, by decide⟩⟩
  have alone := contained_iff.mp (contained asciiInterpreter inferInstance nestedMapping _ scenario
    (.ofText "reports/runtime") (.ofText ".") none 20 start parsed)
  rw [named] at alone
  exact absurd alone (by decide +kernel)

end RunRequest

end FivegLab
