import FivegLab.Evidence
import FivegLab.Markdown

/-!
# The tables of the report

The assertions of a result as they are read back from its report.
-/

namespace FivegLab

open Markdown

/-- The four columns of an assertion. -/
def AssertionResult.fields (assertion : AssertionResult) : List (List Char) :=
  [assertion.name.toList, assertion.status.text.toList, assertion.expected.toList,
    assertion.observed.toList]

/-- The report up to the rows of the assertions. -/
def reportHead (result : ScenarioResult) : String :=
  let observedEvents :=
    if result.observedEvents = [] then "No runtime events were observed."
    else ", ".intercalate result.observedEvents
  "# Scenario Report: " ++ result.scenarioId ++
  "\n\nRun ID: `" ++ result.runId ++
  "`\n\nStarted: `" ++ result.startedAt ++
  "`\n\nStatus: **" ++ result.status.text ++
  "**\n\n## Runtime State\n\n- Baseline ready: " ++ printBool result.baselineReady ++
  "\n- Baseline context fingerprint: " ++
    Text.orElse (result.baselineContextFingerprint.getD "") "not recorded" ++
  "\n- Fault applied: " ++ printBool result.faultApplied ++
  "\n- Fault verified: " ++ printBool result.faultVerified ++
  "\n- Expected failure observed: " ++ printBool result.expectedFailureObserved ++
  "\n- Recovery attempted: " ++ printBool result.recoveryAttempted ++
  "\n- Recovery status: " ++ result.recoveryStatus.text ++
  "\n- Rollback verified: " ++ printBool result.rollbackVerified ++
  "\n- Recovery verified: " ++ printBool result.recoveryVerified ++
  "\n\n## Observed Events\n\n" ++ observedEvents ++
  "\n\n## Assertions\n\n| Assertion | Status | Expected | Observed |\n| --- | --- | --- | --- |\n"

/-- The text of the report between the rows of its first two tables. -/
def recoveryHead : String :=
  "\n\n## Recovery Assertions\n\n| Assertion | Status | Expected | Observed |\n" ++
    "| --- | --- | --- | --- |\n"

/-- The report behind the rows of the recovery assertions. -/
def reportTail (result : ScenarioResult) : String :=
  "\n\n## Evidence\n\n| Type | Claim level | Path | Description |\n| --- | --- | --- | --- |\n" ++
    "\n".intercalate (result.evidence.map EvidenceRef.row) ++
  "\n\n## Notes\n\n" ++
    Text.orElse ("\n".intercalate (result.notes.map fun note => "- " ++ note)) "- None" ++ "\n"

def assertionRows (assertions : List AssertionResult) : String :=
  "\n".intercalate (assertions.map AssertionResult.row)

theorem renderMarkdown_eq (result : ScenarioResult) : renderMarkdown result =
    reportHead result ++ (assertionRows result.assertions ++ (recoveryHead ++
      (assertionRows result.recoveryAssertions ++ reportTail result))) := by
  unfold renderMarkdown reportHead assertionRows recoveryHead reportTail
  simp only [String.append_assoc]

/-- Each table, read behind its head, has one row for each assertion, with exactly the
fields of the assertion. -/
structure TablesFaithful (result : ScenarioResult) : Prop where
  assertions : ∃ rest, renderMarkdown result = reportHead result ++ rest ∧
    readTable rest.toList = result.assertions.map fun assertion => some assertion.fields
  recovery : ∃ rest, renderMarkdown result =
      reportHead result ++ assertionRows result.assertions ++ recoveryHead ++ rest ∧
    readTable rest.toList = result.recoveryAssertions.map fun assertion => some assertion.fields

theorem toList_row (assertion : AssertionResult) :
    assertion.row.toList = Markdown.row assertion.fields := by
  simp [AssertionResult.row, AssertionResult.fields, Markdown.row, pad]

theorem toList_assertionRows (assertions : List AssertionResult) :
    (assertionRows assertions).toList = table (assertions.map AssertionResult.fields) := by
  have rows : (assertions.map AssertionResult.row).map String.toList =
      (assertions.map AssertionResult.fields).map Markdown.row := by
    simp [toList_row]
  rw [assertionRows, String.toList_intercalate, rows, table]
  rfl

/-- The rows of assertions, read in front of an empty line. -/
theorem readTable_assertions_iff {assertions : List AssertionResult} {rest : String} :
    (readTable (assertionRows assertions ++ ("\n\n" ++ rest)).toList =
      assertions.map fun assertion => some assertion.fields) ↔
      ∀ assertion ∈ assertions, ∀ field ∈ assertion.fields, Plain field := by
  have split : (assertionRows assertions ++ ("\n\n" ++ rest)).toList =
      table (assertions.map AssertionResult.fields) ++ '\n' :: '\n' :: rest.toList := by
    simp [toList_assertionRows]
  have rows : (assertions.map fun assertion => some assertion.fields) =
      (assertions.map AssertionResult.fields).map some := by
    simp
  rw [split, rows, readTable_eq_iff]
  simp

theorem recoveryHead_eq : ∃ rest, recoveryHead = "\n\n" ++ rest :=
  ⟨"## Recovery Assertions\n\n| Assertion | Status | Expected | Observed |\n" ++
    "| --- | --- | --- | --- |\n", by decide⟩

theorem reportTail_eq (result : ScenarioResult) : ∃ rest, reportTail result = "\n\n" ++ rest := by
  have first :
      "\n\n## Evidence\n\n| Type | Claim level | Path | Description |\n| --- | --- | --- | --- |\n"
        =
        "\n\n" ++ ("## Evidence\n\n| Type | Claim level | Path | Description |\n" ++
          "| --- | --- | --- | --- |\n") := by decide
  unfold reportTail
  rw [first]
  simp only [String.append_assoc, -String.reduceAppend]
  exact ⟨_, rfl⟩

theorem read_assertions_iff (result : ScenarioResult) :
    (readTable (assertionRows result.assertions ++ (recoveryHead ++
      (assertionRows result.recoveryAssertions ++ reportTail result))).toList =
        result.assertions.map fun assertion => some assertion.fields) ↔
      ∀ assertion ∈ result.assertions, ∀ field ∈ assertion.fields, Plain field := by
  rcases recoveryHead_eq with ⟨recovery, recovery_eq⟩
  rw [recovery_eq, String.append_assoc]
  exact readTable_assertions_iff

theorem read_recovery_iff (result : ScenarioResult) :
    (readTable (assertionRows result.recoveryAssertions ++ reportTail result).toList =
      result.recoveryAssertions.map fun assertion => some assertion.fields) ↔
      ∀ assertion ∈ result.recoveryAssertions, ∀ field ∈ assertion.fields, Plain field := by
  rcases reportTail_eq result with ⟨tail, tail_eq⟩
  rw [tail_eq]
  exact readTable_assertions_iff

theorem TablesFaithful.plain {result : ScenarioResult} (faithful : TablesFaithful result) :
    ∀ assertion ∈ result.assertions ++ result.recoveryAssertions, ∀ field ∈ assertion.fields,
      Plain field := by
  rcases faithful with ⟨⟨first, firstSplit, firstRead⟩, ⟨second, secondSplit, secondRead⟩⟩
  rw [renderMarkdown_eq, String.append_right_inj] at firstSplit
  rw [renderMarkdown_eq, String.append_assoc, String.append_assoc, String.append_right_inj,
    String.append_right_inj, String.append_right_inj] at secondSplit
  subst firstSplit secondSplit
  intro assertion mem
  rcases List.mem_append.mp mem with mem | mem
  · exact (read_assertions_iff result).mp firstRead assertion mem
  · exact (read_recovery_iff result).mp secondRead assertion mem

/-- The tables of the report are faithful exactly when no field of an assertion has a
line end or an open bar. -/
theorem renderMarkdown_tables {result : ScenarioResult} : TablesFaithful result ↔
    ∀ assertion ∈ result.assertions ++ result.recoveryAssertions, ∀ field ∈ assertion.fields,
      Plain field := by
  refine ⟨TablesFaithful.plain, fun plain => ?_⟩
  refine ⟨⟨_, renderMarkdown_eq result, (read_assertions_iff result).mpr ?_⟩,
    ⟨_, ?_, (read_recovery_iff result).mpr ?_⟩⟩
  · exact fun assertion mem => plain assertion (List.mem_append_left _ mem)
  · simp only [renderMarkdown_eq, String.append_assoc]
  · exact fun assertion mem => plain assertion (List.mem_append_right _ mem)

/-- The assertion of the final health gate about the RAN, when it passes. -/
def ranAssertion : AssertionResult where
  name := "baseline:final_ran_running_without_restarts"
  status := .pass
  expected := "both RAN containers running with zero restarts"
  observed := "/ueransim-gnb|running|0\n/ueransim-ue|running|0"
  detail := "Runtime state matched the current baseline invariant."

/-- A result with one assertion. -/
def resultWith (assertion : AssertionResult) : ScenarioResult where
  scenarioId := "baseline_e2e"
  runId := "20260913T000000Z_baseline_e2e"
  startedAt := "2026-09-13T00:00:00Z"
  status := .pass
  baselineReady := true
  faultApplied := false
  expectedFailureObserved := false
  recoveryAttempted := false
  recoveryStatus := .skipped
  observedEvents := []
  assertions := [assertion]

/-- The states of the containers, as they are observed, end the row of their own
assertion. -/
theorem ranAssertion_splits : ¬∀ result, TablesFaithful result := by
  intro faithful
  have plain := (faithful (resultWith ranAssertion)).plain ranAssertion (by simp [resultWith])
  have observed := plain ranAssertion.observed.toList (by simp [AssertionResult.fields])
  exact absurd observed.closed (by decide)

end FivegLab
