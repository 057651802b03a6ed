import FivegLab.Orchestration.Baseline
import FivegLab.Orchestration.Context
import FivegLab.Orchestration.Fault
import FivegLab.Orchestration.Gate
import FivegLab.Preflight

/-!
# Running a scenario

`run_runtime_scenario` on the host: the manifests, the gates, and the execution
of the baseline or of a fault.
-/

namespace FivegLab

open Host

/-- `compose_runner(repo_root)`. -/
def composeRunner (call : RunnerCall) : HostM CompletedProcess := do
  let result ← runCommand call.command call.timeout []
  return ⟨result.returncode, result.stdout, result.stderr⟩

/-- The commands of the injector on the host. -/
def runnerOnHost : Realization (Runner.observing FaultInjector) Host :=
  fun op => (composeRunner op.2).ending

/-- A validation with the status of its assertions, which is the one it has. -/
def RecoveryValidation.validated (validation : RecoveryValidation) : Validated :=
  ⟨{ validation with status := scenarioStatus validation.assertions }, rfl⟩

variable [JsonLibrary]

def validateRecoveredBaseline (rounds : ℕ) (outputDir : Path) (timeout : ℕ) : HostM Validated := do
  let validation ← validateCurrentBaseline rounds outputDir timeout "recovery"
  return validation.validated

/-- The stages of a fault run on the host. -/
def faultStageOnHost (rounds : ℕ) (outputDir : Path) : Realization FaultStage Host
  | .apply injector => FaultInjector.apply.realize runnerOnHost injector
  | .verifyApplied injector => FaultInjector.verifyApplied.realize runnerOnHost injector
  | .remove injector => FaultInjector.remove.realize runnerOnHost injector
  | .verifyRemoved injector => FaultInjector.verifyRemoved.realize runnerOnHost injector
  | .runCommand args timeout environment => (runCommand args timeout environment).ending
  | .validateRecovered timeout => (validateRecoveredBaseline rounds outputDir timeout).ending
  | .host op => .call (I := Host) op .done

def executeFaultOnHost (rounds : ℕ) (scenario : Scenario) (outputDir : Path)
    (identity : RunIdentity) (settleSeconds : ℤ) : HostM ScenarioResult :=
  Routine.within (.start scenario)
    ((executeFaultScenario scenario outputDir identity settleSeconds).realize
      (faultStageOnHost rounds outputDir))

def versionManifest (repoRoot : Path) : Json := .object
  [("compose_file", .string (repoRoot / "docker-compose.yml").text),
    ("open5gs_image_default", .string "gradiant/open5gs:2.8.0"),
    ("ueransim_image_default", .string "gradiant/ueransim:3.3.0"),
    ("mongodb_image_default", .string "mongo:8.3.8-noble"),
    ("dbctl_image_default", .string "gradiant/open5gs-dbctl:0.10.3"),
    ("dn_server_image_default", .string "busybox:1.37.0"),
    ("policy_control_mode", .string "PCF enabled for Open5GS 2.8.0"),
    ("slice_selection_mode", .string "direct NRF/SMF discovery; NSSF omitted")]

/-- A run with its directory and its manifests. -/
structure OpenedRun where
  runId : String
  startedAt : String
  outputDir : Path
  context : RuntimeContext

namespace OpenedRun

variable (opened : OpenedRun)

def fingerprint : String := opened.context.fingerprint

def identity : RunIdentity := ⟨opened.runId, opened.startedAt, opened.fingerprint⟩

/-- The result of the run when it is not executed. -/
def blocked (scenario : Scenario) (reasons : List String) : ScenarioResult :=
  blockedResult scenario opened.runId opened.startedAt reasons (some opened.fingerprint)

end OpenedRun

def writeManifests (repoRoot outputDir : Path) (scenarioId : String) (context : RuntimeContext) :
    HostM Unit := do
  let environment ← environmentManifest scenarioId
  writeText (outputDir / "environment.json") environment.pretty
  writeText (outputDir / "versions.json") (versionManifest repoRoot).pretty
  writeText (outputDir / "runtime_context.json") (context.json.dumps .sorted 0)

def openRun (repoRoot outputRoot : Path) (scenario : Scenario) : HostM OpenedRun := do
  let startedAt ← utcNow
  let runId := makeRunId scenario.id startedAt
  let outputDir := outputRoot / runId
  makeDirectory outputDir false
  let context ← runtimeContextManifest repoRoot
  writeManifests repoRoot outputDir scenario.id context
  return { runId, startedAt, outputDir, context }

/-- The failed checks as reasons. -/
def failureReasons (checks : List Check) : List String :=
  (checks.filter (·.status = .fail)).map fun check => check.name ++ ": " ++ check.detail

def blockingReason : HostM (List String) := do
  let preflight ← runPreflight
  let config ← validateRepo
  return failureReasons preflight ++ failureReasons config

/-- The reason that an unresolved configuration adds. -/
def RuntimeContext.unresolved (context : RuntimeContext) : List String :=
  if context.effectiveCompose.isAvailable then []
  else ["Effective Compose configuration could not be resolved."]

/-- Write a result and return it. -/
def finishRun (outputDir : Path) (result : ScenarioResult) : HostM ScenarioResult := do
  writeResult result outputDir
  return result

/-- The result of a fault that an unhealthy baseline blocks. -/
def blockUnhealthy (scenario : Scenario) (opened : OpenedRun) (live : RecoveryValidation) :
    HostM ScenarioResult := do
  let evidence ← runtimeEvidence opened.outputDir live.evidencePaths
  finishRun opened.outputDir
    { opened.blocked scenario ["Current baseline is unhealthy; no fault was applied."] with
      evidence }

/-- The gates of a fault: a passing baseline of the same context, and a healthy lab. -/
def runFault (rounds : ℕ) (scenario : Scenario) (opened : OpenedRun) (baselineResult : Option Path)
    (settleSeconds : ℤ) : HostM ScenarioResult := do
  let gate ← validateBaselineResult baselineResult opened.fingerprint
  if gate.passed then
    let live ← validateCurrentBaseline rounds opened.outputDir 30 "pre_fault"
    if live.status = .pass then
      let result ← executeFaultOnHost rounds scenario opened.outputDir opened.identity settleSeconds
      finishRun opened.outputDir result
    else blockUnhealthy scenario opened live
  else finishRun opened.outputDir (opened.blocked scenario [gate.reason])

def runBaseline (rounds : ℕ) (scenario : Scenario) (opened : OpenedRun) (settleSeconds : ℤ) :
    HostM ScenarioResult := do
  let result ← executeBaseline rounds scenario opened.outputDir opened.identity settleSeconds
  finishRun opened.outputDir result

/-- `run_runtime_scenario(repo_root, scenario, output_root, baseline_result, settle_seconds)`. -/
def runRuntimeScenario (rounds : ℕ) (repoRoot : Path) (scenario : Scenario) (outputRoot : Path)
    (baselineResult : Option Path) (settleSeconds : ℤ) : HostM ScenarioResult := do
  let opened ← openRun repoRoot outputRoot scenario
  let reasons ← blockingReason
  let blocked := reasons ++ opened.context.unresolved
  if blocked ≠ [] then finishRun opened.outputDir (opened.blocked scenario blocked)
  else if scenario.id ≠ "baseline_e2e" then
    runFault rounds scenario opened baselineResult settleSeconds
  else runBaseline rounds scenario opened settleSeconds

end FivegLab
