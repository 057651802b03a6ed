import Mathlib.Data.List.Basic

/-!
# Statuses and results

The records that checks, assertions and scenario runs are reported in.
-/

namespace FivegLab

inductive CheckStatus
  | pass
  | warn
  | fail
  deriving DecidableEq, Repr

inductive ResultStatus
  | pass
  | fail
  | skipped
  | blocked
  | error
  deriving DecidableEq, Repr

inductive ClaimLevel
  | staticVerified
  | fixtureVerified
  | runtimeVerified
  | runtimePending
  deriving DecidableEq, Repr

/-- The text of a status, which is also its value in a report. -/
def ResultStatus.text : ResultStatus → String
  | .pass => "PASS"
  | .fail => "FAIL"
  | .skipped => "SKIPPED"
  | .blocked => "BLOCKED"
  | .error => "ERROR"

def ClaimLevel.text : ClaimLevel → String
  | .staticVerified => "STATIC VERIFIED"
  | .fixtureVerified => "FIXTURE VERIFIED"
  | .runtimeVerified => "RUNTIME VERIFIED"
  | .runtimePending => "REAL LINUX RUNTIME PENDING"

structure Check where
  name : String
  status : CheckStatus
  detail : String
  deriving DecidableEq, Repr

structure AssertionResult where
  name : String
  status : ResultStatus
  expected : String
  observed : String
  detail : String
  deriving DecidableEq, Repr

structure EvidenceRef where
  kind : String
  path : String
  claimLevel : ClaimLevel
  description : String
  deriving DecidableEq, Repr

structure ScenarioResult where
  scenarioId : String
  runId : String
  startedAt : String
  status : ResultStatus
  baselineReady : Bool
  faultApplied : Bool
  expectedFailureObserved : Bool
  recoveryAttempted : Bool
  recoveryStatus : ResultStatus
  observedEvents : List String
  assertions : List AssertionResult
  baselineContextFingerprint : Option String := none
  faultVerified : Bool := false
  rollbackVerified : Bool := false
  recoveryAssertions : List AssertionResult := []
  recoveryVerified : Bool := false
  evidence : List EvidenceRef := []
  notes : List String := []
  deriving DecidableEq, Repr

end FivegLab
