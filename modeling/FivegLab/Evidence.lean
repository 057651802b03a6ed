import FivegLab.Host.Command

/-!
# Recording results

The identity of a run, its environment, and the files that hold its result.
-/

namespace FivegLab

open Host

/-- `make_run_id(scenario_id, started_at)`: the time without its punctuation. -/
def makeRunId (scenarioId startedAt : String) : String :=
  String.ofList (startedAt.toList.filter fun c => c ≠ '-' ∧ c ≠ ':' ∧ c ≠ '.') ++ "_" ++ scenarioId

/-- `git_commit()`. -/
def gitCommit : HostM String := do
  let result ← subprocess ["git", "rev-parse", "HEAD"] 5
  return if result.returncode ≠ 0 then "unknown" else Text.strip result.stdout

def environmentManifest (scenarioId : String) : HostM Json := do
  let timestamp ← utcNow
  let os ← fact .platform
  let kernel ← fact .release
  let python ← fact .pythonVersion
  let commit ← gitCommit
  return .object
    [("timestamp_utc", .string timestamp), ("os", .string os), ("kernel", .string kernel),
      ("python", .string python), ("git_commit", .string commit),
      ("scenario_id", .string scenarioId),
      ("runtime_claim", .string
        "REAL LINUX RUNTIME PENDING unless collected on a capable Linux host")]

def AssertionResult.json (assertion : AssertionResult) : Json := .object
  [("name", .string assertion.name), ("status", .string assertion.status.text),
    ("expected", .string assertion.expected), ("observed", .string assertion.observed),
    ("detail", .string assertion.detail)]

def EvidenceRef.json (reference : EvidenceRef) : Json := .object
  [("kind", .string reference.kind), ("path", .string reference.path),
    ("claim_level", .string reference.claimLevel.text),
    ("description", .string reference.description)]

/-- `asdict(result)`. -/
def ScenarioResult.json (result : ScenarioResult) : Json := .object
  [("scenario_id", .string result.scenarioId), ("run_id", .string result.runId),
    ("started_at", .string result.startedAt), ("status", .string result.status.text),
    ("baseline_ready", .bool result.baselineReady), ("fault_applied", .bool result.faultApplied),
    ("expected_failure_observed", .bool result.expectedFailureObserved),
    ("recovery_attempted", .bool result.recoveryAttempted),
    ("recovery_status", .string result.recoveryStatus.text),
    ("observed_events", .strings result.observedEvents),
    ("assertions", .array (result.assertions.map AssertionResult.json)),
    ("baseline_context_fingerprint", .ofOption result.baselineContextFingerprint),
    ("fault_verified", .bool result.faultVerified),
    ("rollback_verified", .bool result.rollbackVerified),
    ("recovery_assertions", .array (result.recoveryAssertions.map AssertionResult.json)),
    ("recovery_verified", .bool result.recoveryVerified),
    ("evidence", .array (result.evidence.map EvidenceRef.json)),
    ("notes", .strings result.notes)]

def AssertionResult.row (assertion : AssertionResult) : String :=
  "| " ++ assertion.name ++ " | " ++ assertion.status.text ++ " | " ++
  assertion.expected ++ " | " ++
    assertion.observed ++ " |"

def EvidenceRef.row (reference : EvidenceRef) : String :=
  "| " ++ reference.kind ++ " | " ++ reference.claimLevel.text ++ " | `" ++ reference.path ++
    "` | " ++ reference.description ++ " |"

/-- `str(flag)`. -/
def printBool (flag : Bool) : String := if flag then "True" else "False"

def renderMarkdown (result : ScenarioResult) : String :=
  let observedEvents :=
    if result.observedEvents = [] then "No runtime events were observed."
    else ", ".intercalate result.observedEvents
  "# Scenario Report: " ++ result.scenarioId ++
  "\n\nRun ID: `" ++ result.runId ++
  "`\n\nStarted: `" ++ result.startedAt ++
  "`\n\nStatus: **" ++ result.status.text ++
  "**\n\n## Runtime State\n\n- Baseline ready: " ++ printBool result.baselineReady ++
  "\n- Baseline context fingerprint: " ++
    Text.orElse (result.baselineContextFingerprint.getD "") "not recorded" ++
  "\n- Fault applied: " ++ printBool result.faultApplied ++
  "\n- Fault verified: " ++ printBool result.faultVerified ++
  "\n- Expected failure observed: " ++ printBool result.expectedFailureObserved ++
  "\n- Recovery attempted: " ++ printBool result.recoveryAttempted ++
  "\n- Recovery status: " ++ result.recoveryStatus.text ++
  "\n- Rollback verified: " ++ printBool result.rollbackVerified ++
  "\n- Recovery verified: " ++ printBool result.recoveryVerified ++
  "\n\n## Observed Events\n\n" ++ observedEvents ++
  "\n\n## Assertions\n\n| Assertion | Status | Expected | Observed |\n| --- | --- | --- | --- |\n"
    ++
    "\n".intercalate (result.assertions.map AssertionResult.row) ++
  "\n\n## Recovery Assertions\n\n| Assertion | Status | Expected | Observed |\n" ++
    "| --- | --- | --- | --- |\n" ++
    "\n".intercalate (result.recoveryAssertions.map AssertionResult.row) ++
  "\n\n## Evidence\n\n| Type | Claim level | Path | Description |\n| --- | --- | --- | --- |\n" ++
    "\n".intercalate (result.evidence.map EvidenceRef.row) ++
  "\n\n## Notes\n\n" ++
    Text.orElse ("\n".intercalate (result.notes.map fun note => "- " ++ note)) "- None" ++ "\n"

/-- `write_result(result, output_dir)`. -/
def writeResult (result : ScenarioResult) (outputDir : Path) : HostM Unit := do
  makeDirectory outputDir true
  writeText (outputDir / "scenario_result.json") result.json.pretty
  writeText (outputDir / "scenario_report.md") (renderMarkdown result)

end FivegLab
