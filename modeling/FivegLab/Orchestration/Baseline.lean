import FivegLab.Orchestration.Health

/-!
# Executing the baseline

`execute_baseline`: the preparation stages, the wait for the NG setup, the start
of the UE, the checks of the running lab, and the collection of the run's logs.
-/

namespace FivegLab

open Routine (unfinished)
open Host

def stopRan : List String := ["docker", "compose", "--profile", "ran", "stop", "ue", "gnb"]

def startLab : List String := ["./scripts/start_lab.sh"]

def addSubscriber : List String := ["./scripts/add_subscriber.sh"]

/-- Recreate a RAN service. -/
def recreate (service : String) : List String :=
  ["docker", "compose", "--profile", "ran", "up", "-d", "--no-deps", "--force-recreate", service]

def startGnb : List String := recreate "gnb"

def startUe : List String := recreate "ue"

/-- The commands of the preparation, with their environments. -/
def preparation (priorLogs : List (String × String)) :
    List (List String × List (String × String)) :=
  [(collectLogs, priorLogs), (stopRan, []), (startLab, []), (addSubscriber, []), (startGnb, [])]

def setupAssertion (passed : Bool) (observed : String) : AssertionResult :=
  stateAssertion "baseline:initial_ng_setup" passed "gNB reports is-ngap-up: true" observed

/-- The gNB answered that its NGAP connection is up. -/
def setupHolds (answer : CommandOutcome) : Bool :=
  answer.returncode = 0 && (ngapUp false true).search answer.stdout

/-- The time limit of an attempt: short, so that a missing gNB cannot stall the wait. -/
def attemptTimeout (remaining : ℚ) : ℕ := (min 3 (max 1 (remaining / 2).floor)).toNat

/-- What the gNB said last. -/
def CommandOutcome.saying (answer : CommandOutcome) : String :=
  Text.orElse (Text.strip answer.stdout) (Text.orElse (Text.strip answer.stderr) "no status")

/-- The loop of `wait_for_ng_setup`, with what was observed last. -/
def pollNgSetup (deadline : ℚ) : ℕ → String → HostM (List CommandOutcome × AssertionResult)
  | 0, _ => unfinished
  | rounds + 1, observed => do
      let now ← monotonic
      if deadline - now ≤ 0 then return ([], setupAssertion false observed)
      else
        let (dump, answer) ← runUeransimCli "gnb" "status" (attemptTimeout (deadline - now))
        if setupHolds answer then return ([dump, answer], setupAssertion true answer.saying)
        else
          let now ← monotonic
          sleep (min 1 (max 0 (deadline - now)))
          let (outcomes, ready) ← pollNgSetup deadline rounds answer.saying
          return (dump :: answer :: outcomes, ready)

def waitForNgSetup (rounds : ℕ) (timeout : ℚ) : HostM (List CommandOutcome × AssertionResult) := do
  let started ← monotonic
  pollNgSetup (started + timeout) rounds "NG Setup did not become ready before the deadline"

/-- What the startup leaves for the report. -/
structure Startup where
  outcomes : List CommandOutcome
  assertions : List AssertionResult
  evidencePaths : List Path
  /-- A stage or the start of the UE failed. -/
  failed : Bool
  deriving DecidableEq, Repr

/-- Run commands until one of them fails. -/
def runStages (timeout : ℕ) :
    List (List String × List (String × String)) → HostM (List CommandOutcome × Bool)
  | [] => return ([], false)
  | (args, environment) :: stages => do
      let outcome ← runCommand args timeout environment
      if outcome.returncode ≠ 0 then return ([outcome], true)
      else
        let (outcomes, failed) ← runStages timeout stages
        return (outcome :: outcomes, failed)

/-- The preparation of the lab, up to the start of the gNB. -/
def prepare (timeout : ℕ) (outputDir : Path) : HostM (List CommandOutcome × Bool) := do
  let priorLogs ← collectionEnvironment (outputDir / "pre_start_logs") ""
  runStages timeout (preparation priorLogs)

variable [JsonLibrary]

/-- Start the UE, and check the lab if it started. -/
def bringUpUe (rounds timeout : ℕ) (outputDir : Path) (settleSeconds : ℤ) : HostM Startup := do
  let ue ← runCommand startUe timeout []
  if ue.returncode ≠ 0 then return ⟨[ue], [], [], true⟩
  else
    sleep (max 0 settleSeconds)
    let current ← validateCurrentBaseline rounds outputDir (min 30 timeout) "baseline"
    return ⟨ue :: current.outcomes, current.assertions, current.evidencePaths, false⟩

/-- Wait for the NG setup, and start the UE if the gNB is ready. -/
def bringUpRan (rounds timeout : ℕ) (outputDir : Path) (settleSeconds : ℤ) : HostM Startup := do
  let (outcomes, ready) ← waitForNgSetup rounds (min 30 timeout)
  let path := outputDir / "baseline_initial_ng_setup.json"
  writeCommandLog outcomes path
  if ready.status = .pass then
    let startup ← bringUpUe rounds timeout outputDir settleSeconds
    return ⟨outcomes ++ startup.outcomes, ready :: startup.assertions,
      path :: startup.evidencePaths, startup.failed⟩
  else return ⟨outcomes, [ready], [path], false⟩

def startBaseline (rounds timeout : ℕ) (outputDir : Path) (settleSeconds : ℤ) : HostM Startup := do
  let (outcomes, failed) ← prepare timeout outputDir
  if failed then return ⟨outcomes, [], [], true⟩
  else
    let startup ← bringUpRan rounds timeout outputDir settleSeconds
    return { startup with outcomes := outcomes ++ startup.outcomes }

/-- Collect the logs since the start of this run. -/
def collectCurrent (timeout : ℕ) (outputDir : Path) (startedAt : String) :
    HostM CommandOutcome := do
  let environment ← collectionEnvironment (outputDir / "logs") startedAt
  runCommand collectLogs timeout environment

def baselineResult (scenario : Scenario) (identity : RunIdentity) (startup : Startup)
    (collected : CommandOutcome) (events : List String) (evidence : List EvidenceRef) :
    ScenarioResult :=
  let assertions := startup.assertions ++ evaluateScenarioEvents scenario events
  let status :=
    if startup.failed ∨ collected.returncode ≠ 0 then .error else scenarioStatus assertions
  { scenarioId := scenario.id
    runId := identity.runId
    startedAt := identity.startedAt
    status
    baselineReady := status = .pass
    faultApplied := false
    expectedFailureObserved := false
    recoveryAttempted := false
    recoveryStatus := .skipped
    observedEvents := sortedSet events
    assertions
    baselineContextFingerprint := some identity.fingerprint
    evidence
    notes := commandNotes (startup.outcomes ++ [collected]) }

/-- The record of a baseline run: its commands, events and evidence. -/
def reportBaseline (scenario : Scenario) (outputDir : Path) (identity : RunIdentity)
    (startup : Startup) (collected : CommandOutcome) : HostM ScenarioResult := do
  let commandsPath := outputDir / "commands.json"
  writeCommandLog (startup.outcomes ++ [collected]) commandsPath
  let events ← parseRuntimeEvents (outputDir / "logs") [outputDir / "baseline_traffic_result.txt"]
  let logs ← glob (outputDir / "logs") "*.log"
  let evidence ← runtimeEvidence outputDir
    (commandsPath :: startup.evidencePaths ++ Path.sort logs)
  return baselineResult scenario identity startup collected events evidence

def executeBaseline (rounds : ℕ) (scenario : Scenario) (outputDir : Path) (identity : RunIdentity)
    (settleSeconds : ℤ) : HostM ScenarioResult := do
  let startup ← startBaseline rounds scenario.timeoutSeconds outputDir settleSeconds
  let collected ← collectCurrent scenario.timeoutSeconds outputDir identity.startedAt
  reportBaseline scenario outputDir identity startup collected

end FivegLab
