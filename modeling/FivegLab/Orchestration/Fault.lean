import FivegLab.FaultInjection.Basic
import FivegLab.Orchestration.Basic

/-!
# Executing a fault scenario

`execute_fault_scenario` over its stages: the methods of the injector, the
commands, the recovery validation and the host.  The local variables of the
function are the state, since what was assigned before an exception is read
after it.
-/

namespace FivegLab

open Routine (state update raise attempt ofExcept)

/-- The stages of a fault scenario.  A method of the injector is called on the
attributes it has, and answers with those it leaves. -/
inductive FaultStageOp
  | apply (injector : FaultInjector)
  | verifyApplied (injector : FaultInjector)
  | remove (injector : FaultInjector)
  | verifyRemoved (injector : FaultInjector)
  | runCommand (args : List String) (timeout : ℕ) (environment : List (String × String))
  | validateRecovered (timeout : ℕ)
  | host (op : HostOp)
  deriving DecidableEq, Repr

abbrev FaultStageOp.Reply : FaultStageOp → Type
  | .apply _ => Except Raised Unit × FaultInjector
  | .verifyApplied _ => Except Raised Bool × FaultInjector
  | .remove _ => Except Raised Unit × FaultInjector
  | .verifyRemoved _ => Except Raised Bool × FaultInjector
  | .runCommand _ _ _ => Except Raised CommandOutcome
  | .validateRecovered _ => Except Raised Validated
  | .host op => op.Reply

abbrev FaultStage : Interface where
  Op := FaultStageOp
  Reply := FaultStageOp.Reply

/-- The local variables of a fault run. -/
structure FaultRun where
  injector : FaultInjector
  outcomes : List CommandOutcome := []
  faultApplied : Bool := false
  faultVerified : Bool := false
  rollbackVerified : Bool := false
  recoveryAttempted : Bool := false
  infrastructureError : Option String := none
  rollbackError : Option String := none
  deriving DecidableEq, Repr

abbrev FaultM := Routine FaultStage FaultRun Raised

/-- `FaultInjector(scenario.fault, compose_runner(repo_root))`. -/
def FaultRun.start (scenario : Scenario) : FaultRun where
  injector := { fault := scenario.fault }

namespace FaultStage

/-- A program of the host as a stage. -/
def liftProgram {α : Type} : Program Host α → Program FaultStage α
  | .done value => .done value
  | .call op next => .call (I := FaultStage) (.host op) fun reply => liftProgram (next reply)
  | .unfinished => .unfinished

/-- A routine of the host as a stage. -/
def onHost {α : Type} (routine : HostM α) : FaultM α := fun run =>
  (liftProgram (routine ())).bind fun ended => .done (ended.1, run)

/-- The injector keeps the attributes that its method left. -/
def finish {α : Type} (ended : Except Raised α × FaultInjector) : FaultM α := do
  update fun run => { run with injector := ended.2 }
  ofExcept ended.1

def apply : FaultM Unit := do
  let run ← state
  Routine.call (I := FaultStage) (.apply run.injector) >>= finish

def verifyApplied : FaultM Bool := do
  let run ← state
  Routine.call (I := FaultStage) (.verifyApplied run.injector) >>= finish

def remove : FaultM Unit := do
  let run ← state
  Routine.call (I := FaultStage) (.remove run.injector) >>= finish

def verifyRemoved : FaultM Bool := do
  let run ← state
  Routine.call (I := FaultStage) (.verifyRemoved run.injector) >>= finish

/-- Run a command and keep its outcome. -/
def runCommand (args : List String) (timeout : ℕ) (environment : List (String × String)) :
    FaultM CommandOutcome := do
  let outcome ← ofExcept (← Routine.call (I := FaultStage) (.runCommand args timeout environment))
  update fun run => { run with outcomes := run.outcomes ++ [outcome] }
  return outcome

def validateRecoveredBaseline (timeout : ℕ) : FaultM RecoveryValidation := do
  let validated ← ofExcept (← Routine.call (I := FaultStage) (.validateRecovered timeout))
  return validated.val

end FaultStage

open FaultStage

/-- The files of a fault run. -/
structure FaultFiles where
  outputDir : Path
  trafficPath : Path
  logsDir : Path

def FaultFiles.ofOutputDir (outputDir : Path) : FaultFiles where
  outputDir := outputDir
  trafficPath := outputDir / "fault_traffic_result.txt"
  logsDir := outputDir / "fault_logs"

/-- Apply the fault, and raise unless it is verified. -/
def applyFault : FaultM Unit := do
  apply
  update fun run => { run with faultApplied := run.injector.applied }
  if ← verifyApplied then
    update fun run => { run with faultVerified := true }
  else
    let run ← state
    raise (.runtimeError ("fault apply verification failed: " ++
      Text.orElse (run.injector.lastVerificationError.getD "")
        "runtime state did not match the fault"))

/-- The marker that the traffic probe prints for its exit status. -/
def trafficMarker (returncode : ℤ) : String :=
  if returncode = 0 then "USER_PLANE_SUCCESS" else "USER_PLANE_FAILURE"

/-- The probe finished, and there is a current traffic file. -/
def trafficAvailable (files : FaultFiles) (traffic : CommandOutcome) : FaultM Bool :=
  if traffic.returncode = 0 ∨ traffic.returncode = 4 then onHost (Host.isFile files.trafficPath)
  else return false

/-- Raise unless the current traffic file agrees with the probe's exit status. -/
def checkTrafficEvidence (files : FaultFiles) (traffic : CommandOutcome) : FaultM Unit := do
  if ← trafficAvailable files traffic then
    let text ← onHost (Host.readText files.trafficPath)
    if Text.Contains text (trafficMarker traffic.returncode) then return
    else raise (.runtimeError "Current traffic exit status and evidence disagree")
  else raise (.runtimeError "Current fault traffic evidence unavailable or probe failed")

/-- The probe and the log collection while the fault is applied. -/
def observeFault (scenario : Scenario) (files : FaultFiles) (boundary : String) : FaultM Unit := do
  let environment ← onHost (scenarioTrafficEnvironment files.trafficPath)
  let traffic ← FaultStage.runCommand trafficTest scenario.timeoutSeconds environment
  let environment ← onHost (collectionEnvironment files.logsDir boundary)
  let collected ← FaultStage.runCommand collectLogs scenario.timeoutSeconds environment
  if collected.returncode ≠ 0 then
    raise (.runtimeError
      "Current fault log collection failed; historical fallback forbidden")
  else checkTrafficEvidence files traffic

/-- The body of the scenario, from `apply` to the evidence check. -/
def faultBody (scenario : Scenario) (files : FaultFiles) (settleSeconds : ℤ) (boundary : String) :
    FaultM Unit := do
  applyFault
  onHost (sleep settleSeconds)
  observeFault scenario files boundary

/-- `except (RuntimeError, subprocess.SubprocessError, TimeoutError)`. -/
def Raised.isCommandFailure (error : Raised) : Bool :=
  error.isRuntimeError || error.isSubprocessError || error.kind = .timeoutError

/-- The exceptions of the body that are reported as infrastructure errors. -/
def Raised.isInfrastructureError (error : Raised) : Bool :=
  error.isCommandFailure || error.kind = .keyboardInterrupt

/-- Roll back whatever may have been changed. -/
def rollback : FaultM Unit := do
  let run ← state
  if run.injector.applied ∨ run.injector.cleanupRequired then
    update fun run => { run with recoveryAttempted := true }
    match ← attempt remove with
    | .ok () =>
        let removed ← verifyRemoved
        update fun run => { run with
          rollbackVerified := removed
          rollbackError := if removed then run.rollbackError
            else some (Text.orElse (run.injector.lastVerificationError.getD "")
              "fault removal verification did not match runtime state") }
    | .error error =>
        if error.isCommandFailure then
          update fun run => { run with rollbackError := some error.message }
        else raise error

/-- The rollback with both signals ignored, whatever the body did. -/
def protectedRollback (previousTerm : Disposition) : FaultM Unit := do
  let previousInt ← onHost (Host.setSignal .int .ignored)
  let _ ← onHost (Host.setSignal .term .ignored)
  let ended ← attempt rollback
  let _ ← onHost (Host.setSignal .int previousInt)
  let _ ← onHost (Host.setSignal .term previousTerm)
  ofExcept ended

/-- The body with its handlers: an infrastructure error is kept, any other
exception is raised again after the rollback. -/
def guardedBody (scenario : Scenario) (files : FaultFiles) (settleSeconds : ℤ)
    (boundary : String) (previousTerm : Disposition) : FaultM Unit := do
  match ← attempt (faultBody scenario files settleSeconds boundary) with
  | .ok () => protectedRollback previousTerm
  | .error error =>
      if error.isInfrastructureError then
        update fun run => { run with
          infrastructureError := some (Text.orElse error.message "Scenario interrupted") }
        protectedRollback previousTerm
      else
        protectedRollback previousTerm
        raise error

/-- The status of a fault run. -/
def FaultRun.status (run : FaultRun) (faultStatus recoveryStatus : ResultStatus) : ResultStatus :=
  let status :=
    if run.infrastructureError.getD "" ≠ "" then .error
    else if run.rollbackError.getD "" ≠ "" ∨ run.rollbackVerified = false then .fail
    else faultStatus
  if recoveryStatus ≠ .pass then
    if status ≠ .error then .fail else status
  else status

def FaultRun.notes (run : FaultRun) : List String :=
  (match run.infrastructureError with
    | some error => if error = "" then [] else ["Fault scenario infrastructure failed: " ++ error]
    | none => []) ++
  (match run.rollbackError with
    | some error =>
        if error = "" then [] else ["Rollback failed or could not be verified: " ++ error]
    | none => []) ++
  commandNotes run.outcomes

/-- Validate the recovered baseline if the fault was verified and rolled back. -/
def validateRecovery (scenario : Scenario) : FaultM RecoveryValidation := do
  let run ← state
  if run.faultVerified ∧ run.rollbackVerified then
    let recovery ← validateRecoveredBaseline scenario.timeoutSeconds
    update fun run => { run with outcomes := run.outcomes ++ recovery.outcomes }
    return recovery
  else return .skipped

/-- The result of a fault run. -/
def FaultRun.result (run : FaultRun) (scenario : Scenario) (identity : RunIdentity)
    (recovery : RecoveryValidation) (events : List String) (evidence : List EvidenceRef) :
    ScenarioResult :=
  let assertions := evaluateScenarioEvents scenario events
  let faultStatus := scenarioStatus assertions
  { scenarioId := scenario.id
    runId := identity.runId
    startedAt := identity.startedAt
    status := run.status faultStatus recovery.status
    baselineReady := true
    faultApplied := run.faultApplied
    expectedFailureObserved := run.infrastructureError = none ∧ faultStatus = .pass
    recoveryAttempted := run.recoveryAttempted
    recoveryStatus := recovery.status
    observedEvents := sortedSet events
    assertions
    baselineContextFingerprint := some identity.fingerprint
    faultVerified := run.faultVerified
    rollbackVerified := run.rollbackVerified
    recoveryAssertions := recovery.assertions
    recoveryVerified := recovery.status = .pass
    evidence
    notes := run.notes }

/-- The record of a fault run: its commands, events and evidence. -/
def reportFault (scenario : Scenario) (files : FaultFiles) (identity : RunIdentity) :
    FaultM ScenarioResult := do
  let recovery ← validateRecovery scenario
  let run ← state
  onHost (writeCommandLog run.outcomes (files.outputDir / "commands.json"))
  let events ← onHost (parseRuntimeEvents files.logsDir [files.trafficPath])
  let logs ← onHost (Host.glob files.logsDir "*.log")
  let evidence ← onHost (runtimeEvidence files.outputDir
    ([files.trafficPath, files.outputDir / "fault_boundary.json"] ++ Path.sort logs ++
      recovery.evidencePaths))
  return run.result scenario identity recovery events evidence

def mutationNotice : String :=
  "This config/subscriber mutation fault is defined and assertion-tested, " ++
    "but runtime mutation is intentionally not automated yet."

/-- The result of a fault whose mutation is not automated. -/
def mutationResult (scenario : Scenario) (identity : RunIdentity) : ScenarioResult :=
  { blockedResult scenario identity.runId identity.startedAt [mutationNotice]
      (some identity.fingerprint) with
    evidence := [⟨"scenario_definition", "scenarios/" ++ scenario.id ++ ".yaml", .staticVerified,
      "Declarative expected/forbidden event contract."⟩] }

/-- The boundary file of a run. -/
def boundaryText (boundary runId : String) : String :=
  (Json.object [("since", .string boundary), ("run_id", .string runId)]).dumps .plain 0 ++ "\n"

/-- Record the time boundary, and let `SIGTERM` interrupt the run. -/
def openBoundary (files : FaultFiles) (identity : RunIdentity) :
    FaultM (String × Disposition) := do
  let boundary ← onHost Host.utcNow
  onHost (Host.writeText (files.outputDir / "fault_boundary.json")
    (boundaryText boundary identity.runId))
  let previousTerm ← onHost (Host.setSignal .term .interrupting)
  return (boundary, previousTerm)

def executeFaultScenario (scenario : Scenario) (outputDir : Path) (identity : RunIdentity)
    (settleSeconds : ℤ) : FaultM ScenarioResult :=
  if scenario.fault.type ∈ mutationFaults then return mutationResult scenario identity
  else do
    let files := FaultFiles.ofOutputDir outputDir
    let (boundary, previousTerm) ← openBoundary files identity
    guardedBody scenario files settleSeconds boundary previousTerm
    reportFault scenario files identity

end FivegLab
