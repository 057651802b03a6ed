import FivegLab.Orchestration.Run

/-!
# Running a scenario from the command line

`5g-lab scenario run`: on fixture logs, or on the runtime.
-/

namespace FivegLab

open Host

/-- `RUNTIME_EXIT_CODES`. -/
def ResultStatus.exitCode : ResultStatus → ℕ
  | .pass => 0
  | .fail => 1
  | .blocked => 2
  | .error => 3
  | .skipped => 4

def fixtureEvidence (fixtureLogs : List Path) : EvidenceRef where
  kind := "fixture_logs"
  path := ",".intercalate (fixtureLogs.map Path.text)
  claimLevel := .fixtureVerified
  description := "Sample or fixture logs only; not real Linux runtime evidence."

/-- The result of a scenario on fixture logs. -/
def fixtureResult (scenario : Scenario) (runId startedAt : String) (fixtureLogs : List Path)
    (events : List String) : ScenarioResult :=
  let assertions := evaluateScenarioEvents scenario events
  let status := scenarioStatus assertions
  { scenarioId := scenario.id
    runId
    startedAt
    status
    baselineReady := scenario.id = "baseline_e2e" ∧ status = .pass
    faultApplied := false
    expectedFailureObserved := status = .pass ∧ scenario.fault.type ≠ "none"
    recoveryAttempted := false
    recoveryStatus := .skipped
    observedEvents := sortedSet events
    assertions
    evidence := [fixtureEvidence fixtureLogs] }

/-- `run_scenario_fixture_or_blocked`, after the scenario is loaded: the exit code. -/
def runScenarioFixtureOrBlocked [JsonLibrary] (rounds : ℕ) (repoRoot : Path) (scenario : Scenario)
    (fixtureLogs : List Path) (outputDir : Path) (baselineResult : Option Path)
    (settleSeconds : ℤ) : HostM ℕ := do
  let startedAt ← utcNow
  let runId := makeRunId scenario.id startedAt
  let events ← parseFiles fixtureLogs
  if fixtureLogs ≠ [] then
    let result ← finishRun (outputDir / runId)
      (fixtureResult scenario runId startedAt fixtureLogs events)
    return if result.status = .pass then 0 else 1
  else
    let result ← runRuntimeScenario rounds repoRoot scenario outputDir baselineResult settleSeconds
    return result.status.exitCode

end FivegLab
