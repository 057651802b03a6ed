import FivegLab.JsonRoundTrip
import FivegLab.Orchestration.Identity
import FivegLab.Orchestration.StoredResult

/-!
# Results that are stored and read back

The file that `write_result` leaves for a result holds all of it: no other result
has the same file, and what the baseline gate reads there is the result itself.
-/

namespace FivegLab

open Routine Host JsonDecoder

namespace Json

theorem return_notMem_escapeChar (c : Char) : '\r' ∉ escapeChar c := by
  have digit : ∀ n < 16, '\r' ≠ hexDigit n := by decide
  have unit (n : ℕ) : '\r' ∉ escapeUnit n := by
    simp only [escapeUnit, List.mem_cons, List.not_mem_nil, or_false, not_or]
    exact ⟨by decide, by decide, digit _ (Nat.mod_lt _ (by omega)),
      digit _ (Nat.mod_lt _ (by omega)), digit _ (Nat.mod_lt _ (by omega)),
      digit _ (Nat.mod_lt _ (by omega))⟩
  rw [escapeChar]
  split_ifs with isQuote isSlash isNewline isReturn isTab isBackspace isFeed isPlain isUnit
  · decide
  · decide
  · decide
  · decide
  · decide
  · decide
  · decide
  · rw [List.mem_singleton]
    exact Ne.symm isReturn
  · exact unit _
  · rw [List.mem_append, not_or]
    exact ⟨unit _, unit _⟩

theorem return_notMem_quote (text : String) : '\r' ∉ (quote text).toList := by
  rw [toList_quote, List.mem_cons, List.mem_append, List.mem_flatMap, not_or, not_or]
  refine ⟨by decide, ?_, by decide⟩
  intro inside
  rcases inside with ⟨c, -, member⟩
  exact return_notMem_escapeChar c member

theorem return_notMem_break (depth : ℕ) : '\r' ∉ (Layout.indented.break depth).toList := by
  simp [Layout.break, Layout.indented]

theorem notMem_intercalate {c : Char} {separator : List Char} {texts : List (List Char)}
    (between : c ∉ separator) (each : ∀ text ∈ texts, c ∉ text) :
    c ∉ separator.intercalate texts := by
  induction texts with
  | nil => exact List.not_mem_nil
  | cons text texts ih =>
      rw [List.forall_mem_cons] at each
      rcases texts with _ | ⟨second, texts⟩
      · rw [List.intercalate_singleton]
        exact each.1
      · rw [List.intercalate_cons_cons, List.mem_append, List.mem_append, not_or, not_or]
        exact ⟨⟨each.1, between⟩, ih each.2⟩

theorem return_notMem_enclose {depth : ℕ} {left right : String} {texts : List String}
    (opening : '\r' ∉ left.toList) (closing : '\r' ∉ right.toList)
    (each : ∀ text ∈ texts, '\r' ∉ text.toList) :
    '\r' ∉ (enclose .indented depth left right texts).toList := by
  have separator : '\r' ∉ Layout.indented.itemSeparator.toList := by decide
  have between : '\r' ∉ ((Layout.indented.itemSeparator ++
      Layout.indented.break (depth + 1)).intercalate texts).toList := by
    rw [String.toList_intercalate]
    refine notMem_intercalate ?_ (List.forall_mem_map.mpr each)
    rw [String.toList_append, List.mem_append, not_or]
    exact ⟨separator, return_notMem_break _⟩
  rw [enclose]
  split
  · rw [String.toList_append, List.mem_append, not_or]
    exact ⟨opening, closing⟩
  · simp only [String.toList_append, List.mem_append, not_or]
    exact ⟨⟨⟨⟨opening, return_notMem_break _⟩, between⟩, return_notMem_break _⟩, closing⟩

theorem return_notMem_numeric {text : String} (numeric : ∀ c ∈ text.toList, IsNumeric c) :
    '\r' ∉ text.toList := fun member => absurd (numeric _ member) (by decide)

/-- Nothing in an indented document is taken for the end of a line but its own breaks. -/
theorem return_notMem_dumps (value : Json) : ∀ depth, value.ProperFloats →
    '\r' ∉ (value.dumps .indented depth).toList := by
  induction value using Json.induction with
  | null =>
      intro depth proper
      exact (by decide : '\r' ∉ "null".toList)
  | bool value =>
      intro depth proper
      cases value with
      | true => exact (by decide : '\r' ∉ "true".toList)
      | false => exact (by decide : '\r' ∉ "false".toList)
  | int value =>
      intro depth proper
      exact return_notMem_numeric (int_numeric value)
  | float printed =>
      intro depth proper
      exact return_notMem_numeric proper.1
  | string value =>
      intro depth proper
      exact return_notMem_quote value
  | array items ih =>
      intro depth proper
      rw [ProperFloats, properItems_iff] at proper
      rw [dumps, dumpItems_eq]
      refine return_notMem_enclose (by decide) (by decide) ?_
      intro text member
      rcases List.mem_map.mp member with ⟨item, known, rfl⟩
      exact ih item known _ (proper item known)
  | object fields ih =>
      intro depth proper
      rw [ProperFloats, properFields_iff] at proper
      rw [dumps]
      refine return_notMem_enclose (by decide) (by decide) ?_
      intro text member
      rcases List.mem_map.mp member with ⟨printed, known, rfl⟩
      rw [(Layout.order_perm _ _).mem_iff, dumpFields_eq, List.mem_map] at known
      rcases known with ⟨field, known, rfl⟩
      simp only [String.toList_append, List.mem_append, not_or]
      exact ⟨⟨return_notMem_quote _, by decide⟩, ih field known _ (proper field known)⟩

end Json

theorem ResultStatus.text_injective : Function.Injective ResultStatus.text := by
  intro status other same
  cases status <;> cases other <;> first | rfl | exact absurd same (by decide)

theorem ClaimLevel.text_injective : Function.Injective ClaimLevel.text := by
  intro level other same
  cases level <;> cases other <;> first | rfl | exact absurd same (by decide)

theorem AssertionResult.json_injective : Function.Injective AssertionResult.json := by
  intro assertion other same
  cases assertion
  cases other
  simp_all [AssertionResult.json, ResultStatus.text_injective.eq_iff]

theorem EvidenceRef.json_injective : Function.Injective EvidenceRef.json := by
  intro reference other same
  cases reference
  cases other
  simp_all [EvidenceRef.json, ClaimLevel.text_injective.eq_iff]

theorem ofOption_injective : Function.Injective Json.ofOption := by
  intro text other same
  cases text <;> cases other <;> simp_all [Json.ofOption]

/-- A result is known by its document. -/
theorem ScenarioResult.json_injective : Function.Injective ScenarioResult.json := by
  intro result other same
  have strings : Function.Injective Json.string := fun _ _ same => Json.string.inj same
  cases result
  cases other
  simp_all [ScenarioResult.json, Json.strings, ResultStatus.text_injective.eq_iff,
    (List.map_injective_iff.mpr strings).eq_iff, ofOption_injective.eq_iff,
    (List.map_injective_iff.mpr AssertionResult.json_injective).eq_iff,
    (List.map_injective_iff.mpr EvidenceRef.json_injective).eq_iff]

variable {printFloat : String → String} {limits : Limits}

/-- The document of a result has no numbers, and is nested three deep. -/
theorem ScenarioResult.json_readable (deep : 3 ≤ limits.depth) (result : ScenarioResult) :
    Readable printFloat limits 0 result.json := by
  have three : 1 ≤ limits.depth ∧ 2 ≤ limits.depth ∧ 3 ≤ limits.depth := by omega
  have strings (texts : List String) :
      ReadableItems printFloat limits 2 (texts.map Json.string) := by
    rw [readableItems_iff]
    simp [Readable]
  have assertions (assertions : List AssertionResult) :
      ReadableItems printFloat limits 2 (assertions.map AssertionResult.json) := by
    rw [readableItems_iff]
    simp [AssertionResult.json, Readable, ReadableFields, three]
  have evidence : ReadableItems printFloat limits 2 (result.evidence.map EvidenceRef.json) := by
    rw [readableItems_iff]
    simp [EvidenceRef.json, Readable, ReadableFields, three]
  have stamp : Readable printFloat limits 1 (.ofOption result.baselineContextFingerprint) := by
    cases result.baselineContextFingerprint <;> trivial
  simp [ScenarioResult.json, Readable, ReadableFields, Json.strings, strings, assertions, evidence,
    stamp, three]

/-- `json.loads` reads a stored result back. -/
theorem loads_stored (deep : 3 ≤ limits.depth) (result : ScenarioResult) :
    loads printFloat limits result.json.pretty = .ok result.json := by
  have readable : Readable printFloat limits 0 result.json := result.json_readable deep
  have blank : ∀ c ∈ "".toList, isSpace c = true := by simp
  have read := loads_dumps standard_indented readable blank
  rwa [ordered_of_unsorted rfl, String.append_empty] at read

/-- The file in which `write_result` leaves a result. -/
def ScenarioResult.stored (result : ScenarioResult) : Stored := .file (encode result.json.pretty)

/-- What is loaded from the file of a result is its document. -/
theorem ScenarioResult.stored_loaded (deep : 3 ≤ limits.depth) (undecodable : Bytes → String)
    (path : Path) (result : ScenarioResult) :
    result.stored.loaded printFloat limits undecodable path = .ok result.json := by
  have decoded : decodeUtf8 (encode result.json.pretty) = some result.json.pretty :=
    decodeUtf8_eq_some_iff.mpr rfl
  have plain : '\r' ∉ result.json.pretty.toList :=
    Json.return_notMem_dumps result.json 0 result.json_proper
  simp only [Stored.loaded, ScenarioResult.stored, Stored.readText, decoded,
    universalNewlines_eq plain, String.ofList_toList, Except.bind]
  exact loads_stored deep result

/-- Different results have different files. -/
theorem ScenarioResult.stored_injective : Function.Injective ScenarioResult.stored := by
  intro result other same
  have unlimited : 3 ≤ (⟨0, 3⟩ : Limits).depth := Nat.le_refl _
  have loaded : result.stored.loaded id ⟨0, 3⟩ (fun _ => "") (.ofText "") = .ok result.json :=
    result.stored_loaded unlimited _ _
  rw [same, other.stored_loaded unlimited, Except.ok.injEq] at loaded
  exact (ScenarioResult.json_injective loaded).symm

/-- The gate on a stored result: its file is that of no other result, and the verdict
of the gate, which raises nothing, is that on the result itself. -/
theorem validateBaselineResult_readsBack (result : ScenarioResult) (outputDir : Path)
    (writing : List (Event Host)) (fingerprint : String) (undecodable : Bytes → String)
    (writes : (writeResult result outputDir).Runs () writing (.ok ()) ())
    (deep : 3 ≤ limits.depth) :
    ∃ text, lastWritten (outputDir / "scenario_result.json") writing = some text ∧
      (∀ other : ScenarioResult, encode other.json.pretty = encode text → other = result) ∧
      ∃ gate : BaselineGate,
        (∀ outcome : Except Raised BaselineGate,
          (@validateBaselineResult (decoder printFloat limits)
              (some (outputDir / "scenario_result.json")) fingerprint).Runs ()
            ((Stored.file (encode text)).reading undecodable (outputDir / "scenario_result.json"))
            outcome () ↔ outcome = .ok gate) ∧
        (gate.passed = true ↔
          result.scenarioId = "baseline_e2e" ∧ result.status = .pass ∧
            result.baselineReady = true ∧
            result.baselineContextFingerprint = some fingerprint ∧ IsFingerprint fingerprint) := by
  refine ⟨result.json.pretty, writeResult_lastWritten writes, ?_, judgeFields result.fields
    fingerprint, ?_, ?_⟩
  · intro other same
    exact ScenarioResult.stored_injective (congrArg Stored.file same)
  · intro outcome
    have runs : (@validateBaselineResult (decoder printFloat limits)
          (some (outputDir / "scenario_result.json")) fingerprint).Runs ()
        (result.stored.reading undecodable (outputDir / "scenario_result.json")) outcome () ↔
        outcome = judgeLoaded fingerprint (result.stored.loaded printFloat limits undecodable
          (outputDir / "scenario_result.json")) := runs_validateBaselineResult_iff
    rw [result.stored_loaded deep] at runs
    exact runs
  · rw [judgeFields_passed_iff, accepted_fields_iff]

/-- A passing baseline is read back, and passes the gate. -/
theorem validateBaselineResult_readsBack_healthy :
    ∃ (library : JsonLibrary) (result : ScenarioResult) (trace writing : List (Event Host))
      (text : String) (gate : BaselineGate),
      (healthyBaseline library).Runs () trace (.ok result) () ∧
      (writeResult result (.ofText "out")).Runs () writing (.ok ()) () ∧
      lastWritten (Path.ofText "out" / "scenario_result.json") writing = some text ∧
      (@validateBaselineResult (decoder id ⟨4300, 1000⟩)
          (some (Path.ofText "out" / "scenario_result.json")) healthyIdentity.fingerprint).Runs ()
        ((Stored.file (encode text)).reading (fun _ => "")
          (Path.ofText "out" / "scenario_result.json")) (.ok gate) () ∧
      gate.passed = true := by
  rcases exists_passing_baseline with ⟨library, result, trace, passes, faithful, runs⟩
  rcases exists_stored healthyIdentity.fingerprint faithful (.ofText "out") with
    ⟨writing, _, _, writes, _⟩
  have wellFormed : IsFingerprint healthyIdentity.fingerprint := by
    simp [IsFingerprint, healthyIdentity]
  have deep : 3 ≤ (⟨4300, 1000⟩ : Limits).depth := by decide
  have told := executeBaseline_result runs
  have verdict : ∃ text gate, lastWritten (Path.ofText "out" / "scenario_result.json") writing =
      some text ∧
      (@validateBaselineResult (decoder id ⟨4300, 1000⟩)
          (some (Path.ofText "out" / "scenario_result.json")) healthyIdentity.fingerprint).Runs ()
        ((Stored.file (encode text)).reading (fun _ => "")
          (Path.ofText "out" / "scenario_result.json")) (.ok gate) () ∧
      gate.passed = true := by
    rcases validateBaselineResult_readsBack result (.ofText "out") writing
      healthyIdentity.fingerprint (fun _ => "") writes deep with
      ⟨text, written, -, gate, only, passed⟩
    exact ⟨text, gate, written, (only _).mpr rfl,
      passed.mpr ⟨told.1, passes, told.2.1.mpr passes, told.2.2, wellFormed⟩⟩
  rcases verdict with ⟨text, gate, written, reads, passed⟩
  exact ⟨library, result, trace, writing, text, gate, runs, writes, written, reads, passed⟩

end FivegLab
