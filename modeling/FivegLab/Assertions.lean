import FivegLab.Models
import FivegLab.Scenario

/-!
# Assertions

The event assertions of a scenario, and the status of a list of assertions.
-/

namespace FivegLab

/-- The assertion that an expected event was observed. -/
def expectedEvent (observedEvents : List String) (event : String) : AssertionResult :=
  if event ∈ observedEvents then
    ⟨"expected_event:" ++ event, .pass, event ++ " observed", "observed",
      "Expected event evidence was present."⟩
  else
    ⟨"expected_event:" ++ event, .fail, event ++ " observed", "missing",
      "Expected event was absent."⟩

/-- The assertion that a forbidden event was not observed. -/
def forbiddenEvent (observedEvents : List String) (event : String) : AssertionResult :=
  if event ∈ observedEvents then
    ⟨"forbidden_event:" ++ event, .fail, event ++ " absent", "observed",
      "Forbidden event was observed."⟩
  else
    ⟨"forbidden_event:" ++ event, .pass, event ++ " absent", "absent",
      "Forbidden event was not observed."⟩

def evaluateScenarioEvents (scenario : Scenario) (observedEvents : List String) :
    List AssertionResult :=
  scenario.expectedEvents.map (expectedEvent observedEvents) ++
    scenario.forbiddenEvents.map (forbiddenEvent observedEvents)

def scenarioStatus (assertions : List AssertionResult) : ResultStatus :=
  if ∃ result ∈ assertions, result.status = .error then .error
  else if ∃ result ∈ assertions, result.status = .fail then .fail
  else .pass

theorem scenarioStatus_eq_pass_iff {assertions : List AssertionResult} :
    scenarioStatus assertions = .pass ↔
      ∀ result ∈ assertions, result.status ≠ .error ∧ result.status ≠ .fail := by
  unfold scenarioStatus
  split
  · rename_i failed
    rcases failed with ⟨result, member, status⟩
    refine ⟨by simp, fun passed => absurd status (passed result member).1⟩
  · rename_i noError
    split
    · rename_i failed
      rcases failed with ⟨result, member, status⟩
      refine ⟨by simp, fun passed => absurd status (passed result member).2⟩
    · rename_i noFail
      push Not at noError noFail
      exact ⟨fun _ result member => ⟨noError result member, noFail result member⟩, fun _ => rfl⟩

theorem scenarioStatus_eq_error_iff {assertions : List AssertionResult} :
    scenarioStatus assertions = .error ↔ ∃ result ∈ assertions, result.status = .error := by
  unfold scenarioStatus
  split
  case isTrue failed => simpa using failed
  case isFalse noError =>
    split <;> simpa using noError

/-- The status of a list of assertions is one of three. -/
theorem scenarioStatus_mem (assertions : List AssertionResult) :
    scenarioStatus assertions ∈ [ResultStatus.error, .fail, .pass] := by
  unfold scenarioStatus
  split
  · simp
  · split <;> simp

theorem expectedEvent_status (observedEvents : List String) (event : String) :
    (expectedEvent observedEvents event).status =
      if event ∈ observedEvents then .pass else .fail := by
  unfold expectedEvent
  split <;> rfl

theorem forbiddenEvent_status (observedEvents : List String) (event : String) :
    (forbiddenEvent observedEvents event).status =
      if event ∈ observedEvents then .fail else .pass := by
  unfold forbiddenEvent
  split <;> rfl

/-- An event assertion passes or fails. -/
theorem evaluateScenarioEvents_status {scenario : Scenario} {observedEvents : List String}
    {result : AssertionResult} (member : result ∈ evaluateScenarioEvents scenario observedEvents) :
    result.status = .pass ∨ result.status = .fail := by
  simp only [evaluateScenarioEvents, List.mem_append, List.mem_map] at member
  rcases member with ⟨event, _, rfl⟩ | ⟨event, _, rfl⟩
  · rw [expectedEvent_status]
    split <;> simp
  · rw [forbiddenEvent_status]
    split <;> simp

/-- The expected events were observed and the forbidden ones were not. -/
def Scenario.MetBy (scenario : Scenario) (observedEvents : List String) : Prop :=
  (∀ event ∈ scenario.expectedEvents, event ∈ observedEvents) ∧
    ∀ event ∈ scenario.forbiddenEvents, event ∉ observedEvents

instance (scenario : Scenario) (observedEvents : List String) :
    Decidable (scenario.MetBy observedEvents) :=
  inferInstanceAs (Decidable (_ ∧ _))

theorem forall_evaluateScenarioEvents_pass_iff {scenario : Scenario}
    {observedEvents : List String} :
    (∀ result ∈ evaluateScenarioEvents scenario observedEvents, result.status = .pass) ↔
      scenario.MetBy observedEvents := by
  simp only [evaluateScenarioEvents, List.forall_mem_append, List.forall_mem_map,
    expectedEvent_status, forbiddenEvent_status, Scenario.MetBy]
  refine and_congr (forall₂_congr fun event _ => ?_) (forall₂_congr fun event _ => ?_) <;>
    split <;> simp_all

/-- The event assertions of a scenario pass when it is met, and fail otherwise. -/
theorem scenarioStatus_evaluate (scenario : Scenario) (observedEvents : List String) :
    scenarioStatus (evaluateScenarioEvents scenario observedEvents) = .pass ∧
        scenario.MetBy observedEvents ∨
      scenarioStatus (evaluateScenarioEvents scenario observedEvents) = .fail ∧
        ¬scenario.MetBy observedEvents := by
  have noError : ¬∃ result ∈ evaluateScenarioEvents scenario observedEvents,
      result.status = .error := by
    rintro ⟨result, member, status⟩
    rcases evaluateScenarioEvents_status member with passed | failed <;> simp_all
  by_cases met : scenario.MetBy observedEvents
  · refine .inl ⟨?_, met⟩
    rw [scenarioStatus_eq_pass_iff]
    intro result member
    rw [forall_evaluateScenarioEvents_pass_iff.mpr met result member]
    simp
  · refine .inr ⟨?_, met⟩
    have failed : ∃ result ∈ evaluateScenarioEvents scenario observedEvents,
        result.status = .fail := by
      by_contra noFail
      push Not at noFail
      refine met (forall_evaluateScenarioEvents_pass_iff.mp fun result member => ?_)
      exact (evaluateScenarioEvents_status member).resolve_right (noFail result member)
    rw [scenarioStatus, if_neg noError, if_pos failed]

end FivegLab
