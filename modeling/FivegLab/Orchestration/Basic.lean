import FivegLab.Assertions
import FivegLab.Host.Command

/-!
# Records of a scenario run

What the stages of a run hand to each other, and the result of a run that was
not executed.
-/

namespace FivegLab

open Host

/-- What identifies a run in its result. -/
structure RunIdentity where
  runId : String
  startedAt : String
  fingerprint : String
  deriving DecidableEq, Repr

structure RecoveryValidation where
  status : ResultStatus
  assertions : List AssertionResult
  outcomes : List CommandOutcome
  evidencePaths : List Path
  deriving DecidableEq, Repr

/-- A validation whose status is that of its assertions. -/
abbrev Validated := { validation : RecoveryValidation //
  validation.status = scenarioStatus validation.assertions }

/-- The validation that was not made. -/
def RecoveryValidation.skipped : RecoveryValidation := ⟨.skipped, [], [], []⟩

theorem Validated.status_ne_skipped (validated : Validated) : validated.val.status ≠ .skipped := by
  have known := scenarioStatus_mem validated.val.assertions
  rw [← validated.property] at known
  intro skipped
  simp [skipped] at known

def stateAssertion (name : String) (passed : Bool) (expected observed : String) :
    AssertionResult :=
  if passed then ⟨name, .pass, expected, observed,
    "Runtime state matched the current baseline invariant."⟩
  else ⟨name, .fail, expected, observed,
    "Runtime state did not match the current baseline invariant."⟩

@[simp]
theorem stateAssertion_name (name : String) (passed : Bool) (expected observed : String) :
    (stateAssertion name passed expected observed).name = name := by
  cases passed <;> rfl

@[simp]
theorem stateAssertion_status (name : String) (passed : Bool) (expected observed : String) :
    (stateAssertion name passed expected observed).status = if passed then .pass else .fail := by
  cases passed <;> rfl

def blockedResult (scenario : Scenario) (runId startedAt : String) (reasons : List String)
    (fingerprint : Option String) : ScenarioResult where
  scenarioId := scenario.id
  runId := runId
  startedAt := startedAt
  status := .blocked
  baselineReady := false
  faultApplied := false
  expectedFailureObserved := false
  recoveryAttempted := false
  recoveryStatus := .blocked
  observedEvents := []
  assertions := []
  baselineContextFingerprint := fingerprint
  notes := "Runtime scenario was not executed." :: reasons

def scenarioTrafficEnvironment (path : Path) : HostM (List (String × String)) := do
  let out ← resolve path
  return [("OUT", out.text), ("TARGET", "10.46.0.100"), ("UE_TUNNEL", "uesimtun0"), ("COUNT", "5")]

def collectionEnvironment (logsDir : Path) (since : String) : HostM (List (String × String)) := do
  let out ← resolve logsDir
  return [("OUT_DIR", out.text), ("SINCE", since)]

def trafficTest : List String := ["./scripts/traffic_test.sh"]

def collectLogs : List String := ["./scripts/collect_logs.sh"]

end FivegLab
