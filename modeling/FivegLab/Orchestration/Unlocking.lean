import FivegLab.Cli
import FivegLab.Orchestration.BaselineVerdict
import FivegLab.Orchestration.Gates

/-!
# What unlocks a fault

Among all results that the program builds, the baseline gate accepts the passing
ones of the baseline scenario with the expected fingerprint, and no others.
-/

namespace FivegLab

open Routine Host

/-- The fields of a document that the gate accepts. -/
structure Accepted (fields : List (String × Json)) (fingerprint : String) : Prop where
  scenario : Json.field fields "scenario_id" = .string "baseline_e2e"
  status : Json.field fields "status" = .string "PASS"
  ready : Json.field fields "baseline_ready" = .bool true
  stamped : Json.field fields "baseline_context_fingerprint" = .string fingerprint
  wellFormed : IsFingerprint fingerprint

theorem typeName_eq_str_iff {value : Json} : value.typeName = "str" ↔
    ∃ text, value = .string text := by
  cases value <;> simp [Json.typeName]

theorem typeName_eq_bool_iff {value : Json} : value.typeName = "bool" ↔
    ∃ flag, value = .bool flag := by
  cases value <;> simp [Json.typeName]

theorem invalidFields_eq_nil_iff {fields : List (String × Json)} :
    invalidFields fields = [] ↔
      (∃ text, Json.field fields "scenario_id" = .string text) ∧
      (∃ text, Json.field fields "status" = .string text) ∧
      (∃ flag, Json.field fields "baseline_ready" = .bool flag) ∧
      ∃ text, Json.field fields "baseline_context_fingerprint" = .string text := by
  simp [invalidFields, requiredTypes, List.filter_eq_nil_iff, typeName_eq_str_iff,
    typeName_eq_bool_iff]

/-- The gate is passed exactly with these fields. -/
theorem judgeFields_passed_iff {fields : List (String × Json)} {fingerprint : String} :
    (judgeFields fields fingerprint).passed = true ↔ Accepted fields fingerprint := by
  constructor
  · intro passed
    unfold judgeFields at passed
    dsimp only at passed
    split_ifs at passed with invalid malformed notPassing other
    rw [not_not, invalidFields_eq_nil_iff] at invalid
    rcases invalid with ⟨⟨scenario, hasScenario⟩, ⟨status, hasStatus⟩, ⟨ready, hasReady⟩,
      ⟨stamp, hasStamp⟩⟩
    simp only [Json.textField, hasScenario, hasStatus, hasReady, hasStamp, not_or, not_not,
      ne_eq, Json.bool.injEq] at malformed notPassing other
    rcases notPassing with ⟨rfl, rfl, rfl⟩
    subst other
    exact ⟨hasScenario, hasStatus, hasReady, hasStamp, malformed⟩
  · rintro ⟨scenario, status, ready, stamped, wellFormed⟩
    have valid : invalidFields fields = [] :=
      invalidFields_eq_nil_iff.mpr ⟨⟨_, scenario⟩, ⟨_, status⟩, ⟨_, ready⟩, ⟨_, stamped⟩⟩
    simp [judgeFields, valid, Json.textField, scenario, status, ready, stamped, wellFormed]

/-- The fields of `asdict(result)`. -/
def ScenarioResult.fields (result : ScenarioResult) : List (String × Json) :=
  match result.json with
  | .object fields => fields
  | _ => []

theorem ScenarioResult.json_eq (result : ScenarioResult) :
    result.json = .object result.fields := rfl

@[simp]
theorem ResultStatus.text_eq_pass_iff {status : ResultStatus} : status.text = "PASS" ↔
    status = .pass := by
  cases status <;> decide

theorem ofOption_eq_string_iff {text : Option String} {value : String} :
    Json.ofOption text = .string value ↔ text = some value := by
  cases text <;> simp [Json.ofOption]

/-- A stored result is accepted for what it says. -/
theorem accepted_fields_iff {result : ScenarioResult} {fingerprint : String} :
    Accepted result.fields fingerprint ↔
      result.scenarioId = "baseline_e2e" ∧ result.status = .pass ∧ result.baselineReady = true ∧
        result.baselineContextFingerprint = some fingerprint ∧ IsFingerprint fingerprint := by
  have scenario : Json.field result.fields "scenario_id" = .string result.scenarioId := rfl
  have status : Json.field result.fields "status" = .string result.status.text := rfl
  have ready : Json.field result.fields "baseline_ready" = .bool result.baselineReady := rfl
  have stamp : Json.field result.fields "baseline_context_fingerprint" =
      .ofOption result.baselineContextFingerprint := rfl
  constructor
  · rintro ⟨hasScenario, hasStatus, hasReady, hasStamp, wellFormed⟩
    rw [scenario, Json.string.injEq] at hasScenario
    rw [status, Json.string.injEq, ResultStatus.text_eq_pass_iff] at hasStatus
    rw [ready, Json.bool.injEq] at hasReady
    rw [stamp, ofOption_eq_string_iff] at hasStamp
    exact ⟨hasScenario, hasStatus, hasReady, hasStamp, wellFormed⟩
  · rintro ⟨hasScenario, hasStatus, hasReady, hasStamp, wellFormed⟩
    refine ⟨?_, ?_, ?_, ?_, wellFormed⟩
    · rw [scenario, hasScenario]
    · rw [status, hasStatus]
      rfl
    · rw [ready, hasReady]
    · rw [stamp, hasStamp]
      rfl

/-- The text that a trace last wrote to a file. -/
def lastWritten (path : Path) : List (Event Host) → Option String
  | [] => none
  | ⟨.writeText written text, .ok ()⟩ :: rest =>
      (lastWritten path rest).orElse fun _ => if written = path then some text else none
  | _ :: rest => lastWritten path rest

/-- What was written is still there when it is read. -/
def Intact (writing reading : List (Event Host)) : Prop :=
  ∀ path text, lastWritten path writing = some text →
    (∀ reply, (⟨.pathExists path, reply⟩ : Event Host) ∈ reading → reply = true) ∧
    ∀ reply, (⟨.readText path, reply⟩ : Event Host) ∈ reading → reply = .ok text

theorem resultPath_ne_reportPath (outputDir : Path) :
    outputDir / "scenario_report.md" ≠ outputDir / "scenario_result.json" := by
  have report : Path.ofText "scenario_report.md" = ⟨false, ["scenario_report.md"]⟩ := by decide
  have result : Path.ofText "scenario_result.json" = ⟨false, ["scenario_result.json"]⟩ := by decide
  simp [HDiv.hDiv, report, result]

theorem writeResult_lastWritten {result : ScenarioResult} {outputDir : Path} {before after : Unit}
    {writing : List (Event Host)}
    (writes : (writeResult result outputDir).Runs before writing (.ok ()) after) :
    lastWritten (outputDir / "scenario_result.json") writing = some result.json.pretty := by
  rw [writeResult, runs_bind_ok_iff] at writes
  rcases writes with ⟨first, _, _, _, rfl, made, writes⟩
  rw [runs_bind_ok_iff] at writes
  rcases writes with ⟨second, _, _, third, rfl, wrote, reported⟩
  rw [runs_makeDirectory_iff] at made
  rw [runs_writeText_iff] at wrote reported
  simp [made, wrote, reported, lastWritten, resultPath_ne_reportPath]

section

variable [JsonLibrary]

/-- A stored result is judged by what it says. -/
theorem validateBaselineResult_stored {result : ScenarioResult} {outputDir : Path}
    {fingerprint : String} {writing reading : List (Event Host)}
      {ended : Except Raised BaselineGate}
    (writes : (writeResult result outputDir).Runs () writing (.ok ()) ())
    (faithful : JsonLibrary.loads result.json.pretty = .ok result.json)
    (intact : Intact writing reading)
    (reads : (validateBaselineResult (some (outputDir / "scenario_result.json"))
      fingerprint).Runs ()
      reading ended ()) :
    ended = .ok (judgeFields result.fields fingerprint) := by
  rcases intact _ _ (writeResult_lastWritten writes) with ⟨there, kept⟩
  rw [validateBaselineResult, runs_bind_iff] at reads
  rcases reads with ⟨_, _, asked⟩ | ⟨_, present, _, _, rfl, asked, reads⟩
  · simp at asked
  rcases runs_pathExists_iff.mp asked with ⟨_, rfl, same⟩
  rw [Except.ok.injEq] at same
  subst same
  rw [there present (by simp), if_pos rfl, judgeFile, runs_bind_iff] at reads
  rcases reads with ⟨_, _, attempted⟩ | ⟨loading, loaded, _, _, rfl, attempted, reads⟩
  · simp at attempted
  rw [runs_attempt_iff] at attempted
  rcases attempted with ⟨_, same, attempted⟩
  rw [Except.ok.injEq] at same
  subst same
  have loaded_eq : loaded = .ok result.json := by
    rw [loadFile, runs_bind_iff] at attempted
    rcases attempted with ⟨error, _, failed⟩ | ⟨_, text, _, _, rfl, returned, parsed⟩
    · rw [runs_readText_iff] at failed
      have impossible := kept (.error error) (by simp [failed])
      simp at impossible
    · rw [runs_readText_iff] at returned
      have text_eq := kept (.ok text) (by simp [returned])
      rw [Except.ok.injEq] at text_eq
      rw [runs_ofExcept_iff, text_eq, faithful] at parsed
      exact parsed.2.1
  subst loaded_eq
  rw [runs_pure_iff] at reads
  exact reads.2.1

/-- Where a result comes from. -/
inductive Origin
  | baseline (scenario : Scenario) (identity : RunIdentity)
  | blocked
  | fault
  | fixture

/-- The results that the program builds, with their origin.  Only other scenarios
than the baseline are executed as faults. -/
inductive Built : Origin → ScenarioResult → Prop
  | baseline {rounds : ℕ} {scenario : Scenario} {outputDir : Path} {identity : RunIdentity}
      {settleSeconds : ℤ} {trace : List (Event Host)} {result : ScenarioResult}
      (runs : (executeBaseline rounds scenario outputDir identity settleSeconds).Runs () trace
        (.ok result) ()) : Built (.baseline scenario identity) result
  | blocked (scenario : Scenario) (runId startedAt : String) (reasons : List String)
      (fingerprint : Option String) (evidence : List EvidenceRef) :
      Built .blocked { blockedResult scenario runId startedAt reasons fingerprint with evidence }
  | fault {rounds : ℕ} {scenario : Scenario} {outputDir : Path} {identity : RunIdentity}
      {settleSeconds : ℤ} {trace : List (Event Host)} {result : ScenarioResult}
      (different : scenario.id ≠ "baseline_e2e")
      (runs : (executeFaultOnHost rounds scenario outputDir identity settleSeconds).Runs () trace
        (.ok result) ()) : Built .fault result
  | fixture (scenario : Scenario) (runId startedAt : String) (fixtureLogs : List Path)
      (events : List String) :
      Built .fixture (fixtureResult scenario runId startedAt fixtureLogs events)

/-- A result of the baseline tells its scenario and its context, and is ready when
it passes. -/
theorem executeBaseline_result {rounds : ℕ} {scenario : Scenario} {outputDir : Path}
    {identity : RunIdentity} {settleSeconds : ℤ} {before after : Unit} {trace : List (Event Host)}
    {result : ScenarioResult}
    (runs : (executeBaseline rounds scenario outputDir identity settleSeconds).Runs before trace
      (.ok result) after) :
    result.scenarioId = scenario.id ∧ (result.baselineReady = true ↔ result.status = .pass) ∧
      result.baselineContextFingerprint = some identity.fingerprint := by
  rw [executeBaseline, runs_bind_ok_iff] at runs
  rcases runs with ⟨_, startup, _, _, rfl, _, runs⟩
  rw [runs_bind_ok_iff] at runs
  rcases runs with ⟨_, outcome, _, _, rfl, _, reporting⟩
  rcases reportBaseline_runs reporting with ⟨_, evidence, rfl⟩
  exact ⟨rfl, by simp [baselineResult], rfl⟩

theorem executeFaultOnHost_scenarioId {rounds : ℕ} {scenario : Scenario} {outputDir : Path}
    {identity : RunIdentity} {settleSeconds : ℤ} {before after : Unit} {trace : List (Event Host)}
    {result : ScenarioResult}
    (runs : (executeFaultOnHost rounds scenario outputDir identity settleSeconds).Runs before trace
      (.ok result) after) : result.scenarioId = scenario.id := by
  by_cases automated : scenario.fault.type ∈ mutationFaults
  · rw [executeFaultOnHost_mutation automated, runs_pure_iff, Except.ok.injEq] at runs
    rw [runs.2.1]
    rfl
  · rcases executeFaultOnHost_runs automated runs with ⟨run, recovery, events, evidence, rfl⟩
    rfl

/-- Of all built results, those of a passing baseline are accepted. -/
theorem Built.accepted_iff {origin : Origin} {result : ScenarioResult} {fingerprint : String}
    (built : Built origin result) (wellFormed : IsFingerprint fingerprint) :
    Accepted result.fields fingerprint ↔ ∃ scenario identity,
      origin = .baseline scenario identity ∧ scenario.id = "baseline_e2e" ∧
        result.status = .pass ∧ identity.fingerprint = fingerprint := by
  rw [accepted_fields_iff]
  cases built with
  | baseline runs =>
      rename_i rounds scenario outputDir identity settleSeconds trace
      rcases executeBaseline_result runs with ⟨sameScenario, ready, stamped⟩
      rw [sameScenario, ready, stamped, Option.some.injEq]
      constructor
      · rintro ⟨isBaseline, passed, _, stamp, _⟩
        exact ⟨scenario, identity, rfl, isBaseline, passed, stamp⟩
      · rintro ⟨_, _, ⟨rfl, rfl⟩, isBaseline, passed, stamp⟩
        exact ⟨isBaseline, passed, passed, stamp, wellFormed⟩
  | blocked => simp [blockedResult]
  | fault different runs => simp [executeFaultOnHost_scenarioId runs, different]
  | fixture => simp [fixtureResult]

/-- Only a genuine passing baseline unlocks faults: of all results that the program
builds, stores and reads back, the gate accepts exactly the passing results of the
baseline that carry the expected fingerprint. -/
theorem validateBaselineResult_unlocks (origin : Origin) (result : ScenarioResult)
    (built : Built origin result) (fingerprint : String) (wellFormed : IsFingerprint fingerprint)
    (outputDir : Path) (writing reading : List (Event Host)) (ended : Except Raised BaselineGate)
    (writes : (writeResult result outputDir).Runs () writing (.ok ()) ())
    (faithful : JsonLibrary.loads result.json.pretty = .ok result.json)
    (intact : Intact writing reading)
    (reads : (validateBaselineResult (some (outputDir / "scenario_result.json"))
      fingerprint).Runs ()
      reading ended ()) :
    (∃ gate, ended = .ok gate ∧ gate.passed = true) ↔ ∃ scenario identity,
      origin = .baseline scenario identity ∧ scenario.id = "baseline_e2e" ∧
        result.status = .pass ∧ identity.fingerprint = fingerprint := by
  rw [validateBaselineResult_stored writes faithful intact reads, ← built.accepted_iff wellFormed,
    ← judgeFields_passed_iff]
  simp

end

/-- A list and a mapping have no text in common. -/
theorem coreDocument_text_ne {layout layout' : Json.Layout} {depth depth' : ℕ}
    (result : ScenarioResult) :
    coreDocument.dumps layout depth ≠ result.json.dumps layout' depth' := by
  intro same
  have someItems : Json.dumpItems layout (depth + 1)
      (initContainer :: coreServices.map runningContainer) ≠ [] := by
    simp [Json.dumpItems]
  have someFields : (layout'.order (Json.dumpFields layout' (depth' + 1) result.fields)).map
      (fun field => Json.quote field.1 ++ layout'.keySeparator ++ field.2) ≠ [] := by
    rw [← List.length_pos_iff, List.length_map, (layout'.order_perm _).length_eq]
    exact Nat.zero_lt_succ _
  have bracket : ("[" : String).toList = ['['] := rfl
  have bracket' : ("]" : String).toList = [']'] := rfl
  have brace : ("\x7b" : String).toList = ['\x7b'] := rfl
  have brace' : ("\x7d" : String).toList = ['\x7d'] := rfl
  rcases Json.enclose_ends layout depth someItems bracket bracket' with ⟨items, itemChars⟩
  rcases Json.enclose_ends layout' depth' someFields brace brace' with ⟨fields, fieldChars⟩
  rw [coreDocument, result.json_eq, Json.dumps, Json.dumps] at same
  rw [← String.toList_inj, itemChars, fieldChars, List.cons.injEq] at same
  exact absurd same.1 (by decide)

/-- A result can be stored and read back. -/
theorem exists_stored [JsonLibrary] {result : ScenarioResult} (fingerprint : String)
    (faithful : JsonLibrary.loads result.json.pretty = .ok result.json) (outputDir : Path) :
    ∃ writing reading, Intact writing reading ∧
      (writeResult result outputDir).Runs () writing (.ok ()) () ∧
      (validateBaselineResult (some (outputDir / "scenario_result.json")) fingerprint).Runs ()
        reading (.ok (judgeFields result.fields fingerprint)) () := by
  have made : (makeDirectory outputDir true).Runs ()
      [⟨.makeDirectory outputDir true, .ok ()⟩] (.ok ()) () := by
    simp
  have stored : (writeText (outputDir / "scenario_result.json") result.json.pretty).Runs ()
      [⟨.writeText (outputDir / "scenario_result.json") result.json.pretty, .ok ()⟩]
        (.ok ()) () := by
    simp
  have reported : (writeText (outputDir / "scenario_report.md") (renderMarkdown result)).Runs ()
      [⟨.writeText (outputDir / "scenario_report.md") (renderMarkdown result), .ok ()⟩]
      (.ok ()) () := by
    simp
  have found : (pathExists (outputDir / "scenario_result.json")).Runs ()
      [⟨.pathExists (outputDir / "scenario_result.json"), true⟩] (.ok true) () := by
    simp
  have opened : (readText (outputDir / "scenario_result.json")).Runs ()
      [⟨.readText (outputDir / "scenario_result.json"), .ok result.json.pretty⟩]
      (.ok result.json.pretty) () := by
    simp
  have parsed : (ofExcept (JsonLibrary.loads result.json.pretty) : HostM Json).Runs () []
      (.ok result.json) () := by
    simp [faithful]
  have judged : (judgeFile (outputDir / "scenario_result.json") fingerprint).Runs () _
      (.ok (judgeFields result.fields fingerprint)) () :=
    runs_bind_iff.mpr (.inr ⟨_, .ok result.json, (), [], rfl,
      runs_attempt_iff.mpr ⟨_, rfl, opened.bind parsed⟩, runs_pure_iff.mpr ⟨rfl, rfl, rfl⟩⟩)
  refine ⟨_, _, ?_, made.bind (stored.bind reported), found.bind judged⟩
  intro path text last
  have next := resultPath_ne_reportPath outputDir
  by_cases same : outputDir / "scenario_result.json" = path
  · subst same
    simp [lastWritten, next] at last
    simp [last]
  · simp [Ne.symm same]

/-- A passing result of the baseline, with a library that loads its text. -/
theorem exists_passing_baseline :
    ∃ (library : JsonLibrary) (result : ScenarioResult) (trace : List (Event Host)),
      result.status = .pass ∧ JsonLibrary.loads result.json.pretty = .ok result.json ∧
        (healthyBaseline library).Runs () trace (.ok result) () := by
  rcases played_of_returns healthyBaseline_passes with ⟨result, after, final, played, passes⟩
  rw [← healthyBaseline_playsAs [result.json] () 0] at played
  refine ⟨.ofDocuments [coreDocument, result.json], result, _, by simpa using passes, ?_,
    (Program.runs_of_play played).1⟩
  unfold JsonLibrary.loads
  simp [Json.pretty, coreDocument_text_ne]

theorem validateBaselineResult_unlocks_healthy :
    ∃ (_ : JsonLibrary) (result : ScenarioResult) (writing reading : List (Event Host))
      (gate : BaselineGate),
      (writeResult result (.ofText "out")).Runs () writing (.ok ()) () ∧
      (validateBaselineResult (some (Path.ofText "out" / "scenario_result.json"))
        healthyIdentity.fingerprint).Runs () reading (.ok gate) () ∧ gate.passed = true := by
  rcases exists_passing_baseline with ⟨_, result, trace, passes, faithful, runs⟩
  have built : Built (.baseline baselineE2e healthyIdentity) result := .baseline runs
  have wellFormed : IsFingerprint healthyIdentity.fingerprint := by
    simp [IsFingerprint, healthyIdentity]
  rcases exists_stored healthyIdentity.fingerprint faithful (.ofText "out") with
    ⟨writing, reading, intact, writes, reads⟩
  have unlocked := (validateBaselineResult_unlocks _ result built _ wellFormed _ writing reading _
    writes faithful intact reads).mpr ⟨baselineE2e, healthyIdentity, rfl, rfl, passes, rfl⟩
  rcases unlocked with ⟨gate, same, passed⟩
  rw [Except.ok.injEq] at same
  subst same
  exact ⟨_, result, writing, reading, _, writes, reads, passed⟩

end FivegLab
