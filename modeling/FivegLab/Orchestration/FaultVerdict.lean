import FivegLab.Orchestration.Fault

/-!
# The verdict of a fault run

What the result of a fault run says about the stages it went through, for every
outcome of every stage in which the run returns.
-/

namespace FivegLab

open Routine (runs_bind_iff runs_bind_ok_iff runs_state_bind_iff runs_update_bind_iff
  runs_pure_iff runs_state_iff runs_update_iff runs_call_iff
  runs_ofExcept_iff runs_attempt_iff runs_raise_iff)

/-- A call of the host as a call of a stage. -/
def Event.onHost (event : Event Host) : Event FaultStage := ⟨.host event.op, event.reply⟩

namespace FaultStage

variable {α : Type} {before after : FaultRun} {trace : List (Event FaultStage)}

theorem runs_liftProgram_iff {program : Program Host α} {value : α} :
    (liftProgram program).Runs trace value ↔
      ∃ hosted, program.Runs hosted value ∧ trace = hosted.map Event.onHost := by
  induction program generalizing trace with
  | done result => simp [liftProgram, and_comm]
  | call op next ih =>
      simp only [liftProgram, Program.runs_call_iff, ih]
      constructor
      · rintro ⟨reply, _, rfl, hosted, runs, rfl⟩
        exact ⟨⟨op, reply⟩ :: hosted, ⟨reply, hosted, rfl, runs⟩, rfl⟩
      · rintro ⟨_, ⟨reply, hosted, rfl, runs⟩, rfl⟩
        exact ⟨reply, _, rfl, hosted, runs, rfl⟩
  | unfinished => simp [liftProgram]

@[simp]
theorem runs_onHost_iff {routine : HostM α} {outcome : Except Raised α} :
    (onHost routine).Runs before trace outcome after ↔ after = before ∧
      ∃ hosted, routine.Runs () hosted outcome () ∧ trace = hosted.map Event.onHost := by
  simp only [Routine.Runs, onHost, Program.runs_bind_iff, Program.runs_done_iff,
    runs_liftProgram_iff, Prod.mk.injEq]
  constructor
  · rintro ⟨_, ⟨ended, _⟩, _, rfl, ⟨hosted, runs, rfl⟩, rfl, rfl, rfl⟩
    exact ⟨rfl, hosted, runs, List.append_nil _⟩
  · rintro ⟨rfl, hosted, runs, rfl⟩
    exact ⟨_, (outcome, ()), [], (List.append_nil _).symm, ⟨hosted, runs, rfl⟩, rfl, rfl, rfl⟩

/-- A method of the injector is one call, which leaves new attributes. -/
theorem runs_finish_iff {op : FaultStageOp} {next : op.Reply → Except Raised α × FaultInjector}
    {outcome : Except Raised α} :
    (Routine.call (I := FaultStage) op >>= fun reply => finish (next reply)).Runs before trace
        outcome after ↔
      ∃ reply, trace = [⟨op, reply⟩] ∧ outcome = (next reply).1 ∧
        after = { before with injector := (next reply).2 } := by
  rw [runs_bind_iff]
  constructor
  · rintro (⟨error, _, called⟩ | ⟨_, reply, _, _, rfl, called, ended⟩)
    · rw [runs_call_iff] at called
      rcases called with ⟨_, _, ⟨⟩, _⟩
    · rw [runs_call_iff] at called
      simp only [finish, runs_bind_iff, runs_update_iff, runs_ofExcept_iff, reduceCtorEq,
        false_and, and_false, exists_false, false_or] at ended
      rcases called with ⟨_, rfl, ⟨⟩, rfl⟩
      rcases ended with ⟨_, _, _, _, rfl, ⟨rfl, _, rfl⟩, rfl, rfl, rfl⟩
      exact ⟨reply, rfl, rfl, rfl⟩
  · rintro ⟨reply, rfl, rfl, rfl⟩
    refine .inr ⟨[⟨op, reply⟩], reply, before, [], rfl,
      runs_call_iff.mpr ⟨reply, rfl, rfl, rfl⟩, ?_⟩
    simp [finish, runs_bind_iff]

theorem runs_remove_iff {outcome : Except Raised Unit} :
    remove.Runs before trace outcome after ↔ ∃ injector,
      trace = [⟨.remove before.injector, (outcome, injector)⟩] ∧
        after = { before with injector } := by
  rw [remove, runs_state_bind_iff]
  refine runs_finish_iff.trans ⟨?_, ?_⟩
  · rintro ⟨⟨_, injector⟩, rfl, rfl, rfl⟩
    exact ⟨injector, rfl, rfl⟩
  · rintro ⟨injector, rfl, rfl⟩
    exact ⟨(outcome, injector), rfl, rfl, rfl⟩

theorem runs_verifyRemoved_iff {outcome : Except Raised Bool} :
    verifyRemoved.Runs before trace outcome after ↔ ∃ injector,
      trace = [⟨.verifyRemoved before.injector, (outcome, injector)⟩] ∧
        after = { before with injector } := by
  rw [verifyRemoved, runs_state_bind_iff]
  refine runs_finish_iff.trans ⟨?_, ?_⟩
  · rintro ⟨⟨_, injector⟩, rfl, rfl, rfl⟩
    exact ⟨injector, rfl, rfl⟩
  · rintro ⟨injector, rfl, rfl⟩
    exact ⟨(outcome, injector), rfl, rfl, rfl⟩

theorem runs_runCommand_ok {args : List String} {timeout : ℕ}
    {environment : List (String × String)} {outcome : CommandOutcome}
    (runs : (FaultStage.runCommand args timeout environment).Runs before trace
      (.ok outcome) after) :
    trace = [⟨.runCommand args timeout environment, .ok outcome⟩] ∧
      after = { before with outcomes := before.outcomes ++ [outcome] } := by
  rw [FaultStage.runCommand, runs_bind_ok_iff] at runs
  rcases runs with ⟨_, reply, _, _, rfl, called, runs⟩
  rw [runs_call_iff] at called
  rcases called with ⟨_, rfl, ⟨⟩, rfl⟩
  simp only [runs_bind_ok_iff, runs_ofExcept_iff, runs_update_iff, runs_pure_iff] at runs
  rcases runs with ⟨_, _, _, _, rfl, ⟨rfl, rfl, rfl⟩, _, _, _, _, rfl, ⟨rfl, _, rfl⟩, rfl, ⟨⟩, rfl⟩
  exact ⟨rfl, rfl⟩

theorem runs_validateRecoveredBaseline_ok {timeout : ℕ} {recovery : RecoveryValidation}
    (runs : (validateRecoveredBaseline timeout).Runs before trace (.ok recovery) after) :
    ∃ validated : Validated, recovery = validated.val ∧ after = before ∧
      trace = [⟨.validateRecovered timeout, .ok validated⟩] := by
  rw [validateRecoveredBaseline, runs_bind_ok_iff] at runs
  rcases runs with ⟨_, reply, _, _, rfl, called, runs⟩
  rw [runs_call_iff] at called
  rcases called with ⟨_, rfl, ⟨⟩, rfl⟩
  simp only [runs_bind_ok_iff, runs_ofExcept_iff, runs_pure_iff] at runs
  rcases runs with ⟨_, validated, _, _, rfl, ⟨rfl, rfl, rfl⟩, rfl, ⟨⟩, rfl⟩
  exact ⟨validated, rfl, rfl, rfl⟩

end FaultStage

/-- The number of calls of `remove()`. -/
def removals (trace : List (Event FaultStage)) : ℕ :=
  trace.countP fun event => match event.op with
    | .remove _ => true
    | _ => false

def RemoveReturned (trace : List (Event FaultStage)) : Prop :=
  ∃ injector left, ⟨.remove injector, (.ok (), left)⟩ ∈ trace

def RemovalVerified (trace : List (Event FaultStage)) : Prop :=
  ∃ injector left, ⟨.verifyRemoved injector, (.ok true, left)⟩ ∈ trace

def RecoveryPassed (trace : List (Event FaultStage)) : Prop :=
  ∃ timeout, ∃ validated : Validated,
    ⟨.validateRecovered timeout, .ok validated⟩ ∈ trace ∧ validated.val.status = .pass

/-- The calls of the host in a trace. -/
def hostedBy (trace : List (Event FaultStage)) : List (Event Host) :=
  trace.filterMap fun
    | ⟨.host op, reply⟩ => some ⟨op, reply⟩
    | _ => none

/-- The log collection returned, the probe ended with a status that it gives to a
finished probe, and the traffic file holds the marker of that status. -/
def EvidenceAgrees (files : FaultFiles) (trace : List (Event FaultStage)) : Prop :=
  ∃ timeout environment traffic timeout' environment' collected text,
    ⟨.runCommand trafficTest timeout environment, .ok traffic⟩ ∈ trace ∧
    ⟨.runCommand collectLogs timeout' environment', .ok collected⟩ ∈ trace ∧
    ⟨.host (.readText files.trafficPath), .ok text⟩ ∈ trace ∧
    collected.returncode = 0 ∧ (traffic.returncode = 0 ∨ traffic.returncode = 4) ∧
    Text.Contains text (trafficMarker traffic.returncode)

section

variable {before after : FaultRun} {trace : List (Event FaultStage)} {scenario : Scenario}
  {files : FaultFiles} {boundary : String}

@[simp]
theorem removals_nil : removals [] = 0 := rfl

@[simp]
theorem removals_append (first rest : List (Event FaultStage)) :
    removals (first ++ rest) = removals first + removals rest := by
  simp [removals, List.countP_append]

@[simp]
theorem removals_onHost (hosted : List (Event Host)) :
    removals (hosted.map Event.onHost) = 0 := by
  simp [removals, List.countP_map, Function.comp_def, Event.onHost]

@[simp]
theorem removeReturned_append {first rest : List (Event FaultStage)} :
    RemoveReturned (first ++ rest) ↔ RemoveReturned first ∨ RemoveReturned rest := by
  simp [RemoveReturned, exists_or]

@[simp]
theorem removalVerified_append {first rest : List (Event FaultStage)} :
    RemovalVerified (first ++ rest) ↔ RemovalVerified first ∨ RemovalVerified rest := by
  simp [RemovalVerified, exists_or]

@[simp]
theorem recoveryPassed_append {first rest : List (Event FaultStage)} :
    RecoveryPassed (first ++ rest) ↔ RecoveryPassed first ∨ RecoveryPassed rest := by
  simp only [RecoveryPassed, List.mem_append, or_and_right, exists_or]

@[simp]
theorem hostedBy_append (first rest : List (Event FaultStage)) :
    hostedBy (first ++ rest) = hostedBy first ++ hostedBy rest := by
  simp [hostedBy]

variable (hosted : List (Event Host))

@[simp]
theorem not_removeReturned_onHost : ¬RemoveReturned (hosted.map Event.onHost) := by
  simp [RemoveReturned, Event.onHost]

@[simp]
theorem not_removalVerified_onHost : ¬RemovalVerified (hosted.map Event.onHost) := by
  simp [RemovalVerified, Event.onHost]

@[simp]
theorem not_recoveryPassed_onHost : ¬RecoveryPassed (hosted.map Event.onHost) := by
  simp [RecoveryPassed, Event.onHost]

@[simp]
theorem hostedBy_onHost : hostedBy (hosted.map Event.onHost) = hosted := by
  simp [hostedBy, Event.onHost, List.filterMap_map, Function.comp_def]

@[simp]
theorem hostedBy_cons_onHost (event : Event Host) :
    hostedBy (event.onHost :: trace) = event :: hostedBy trace := rfl

theorem checkTrafficEvidence_runs {traffic : CommandOutcome}
    (runs : (checkTrafficEvidence files traffic).Runs before trace (.ok ()) after) :
    (traffic.returncode = 0 ∨ traffic.returncode = 4) ∧
      ∃ text, ⟨.host (.readText files.trafficPath), .ok text⟩ ∈ trace ∧
        Text.Contains text (trafficMarker traffic.returncode) := by
  rw [checkTrafficEvidence, runs_bind_ok_iff] at runs
  rcases runs with ⟨_, available, _, _, rfl, asked, runs⟩
  cases available with
  | false => simp at runs
  | true =>
      have finished : traffic.returncode = 0 ∨ traffic.returncode = 4 := by
        by_contra unfinished
        simp [trafficAvailable, unfinished] at asked
      simp only [if_true, runs_bind_ok_iff, FaultStage.runs_onHost_iff,
        Host.runs_readText_iff] at runs
      rcases runs with ⟨_, text, _, _, rfl, ⟨_, _, rfl, rfl⟩, runs⟩
      split at runs
      · exact ⟨finished, text, by simp [Event.onHost], by assumption⟩
      · simp at runs

/-- A body that returned has gathered evidence that agrees. -/
theorem faultBody_evidence {settleSeconds : ℤ}
    (runs : (faultBody scenario files settleSeconds boundary).Runs before trace (.ok ()) after) :
    EvidenceAgrees files trace := by
  simp only [faultBody, observeFault, runs_bind_ok_iff, FaultStage.runs_onHost_iff] at runs
  rcases runs with ⟨_, _, _, _, rfl, _, _, _, _, _, rfl, _, _, environment, _, _, rfl, _,
    _, traffic, _, _, rfl, probed, _, environment', _, _, rfl, _, _, collected, _, _, rfl,
    gathered, runs⟩
  rcases FaultStage.runs_runCommand_ok probed with ⟨rfl, rfl⟩
  rcases FaultStage.runs_runCommand_ok gathered with ⟨rfl, rfl⟩
  split at runs
  · simp at runs
  · rename_i succeeded
    rcases checkTrafficEvidence_runs runs with ⟨finished, text, read, contains⟩
    refine ⟨scenario.timeoutSeconds, environment, traffic, scenario.timeoutSeconds, environment',
      collected, text, ?_, ?_, ?_, by simpa using succeeded, finished, contains⟩
    · simp
    · simp
    · simp [read]

/-- An operation other than `remove()`. -/
def NotRemove (op : FaultStageOp) : Prop := ∀ injector, op ≠ .remove injector

/-- What only the rollback and the handlers of the body write. -/
def FaultRun.endings (run : FaultRun) : Bool × Option String × Option String :=
  (run.rollbackVerified, run.rollbackError, run.infrastructureError)

theorem removals_eq_zero {α : Type} {routine : FaultM α} {outcome : Except Raised α}
    (calls : routine.Calls NotRemove) (runs : routine.Runs before trace outcome after) :
    removals trace = 0 := by
  rw [removals, List.countP_eq_zero]
  intro event member
  have allowed := calls.of_emits runs.emits event member
  unfold NotRemove at allowed
  split
  · exact absurd (by assumption) (allowed _)
  · simp

section

open Routine (confined_bind confined_pure confined_raise confined_state confined_update
  confined_ofExcept confined_call)

theorem confined_onHost {α : Type} (routine : HostM α) :
    (FaultStage.onHost routine).Confined NotRemove FaultRun.endings where
  calls := by
    refine fun run => Program.calls_bind ?_ fun _ => trivial
    generalize routine () = program
    induction program with
    | done value => trivial
    | call op next ih => exact ⟨fun _ => by simp, ih⟩
    | unfinished => trivial
  keeps runs := by rw [(FaultStage.runs_onHost_iff.mp runs).1]

theorem confined_finish {α : Type} (ended : Except Raised α × FaultInjector) :
    (FaultStage.finish ended).Confined NotRemove FaultRun.endings :=
  confined_bind (confined_update fun _ => rfl) fun _ => confined_ofExcept _

theorem confined_runCommand (args : List String) (timeout : ℕ)
    (environment : List (String × String)) :
    (FaultStage.runCommand args timeout environment).Confined NotRemove FaultRun.endings := by
  refine confined_bind (confined_call (by simp [NotRemove])) fun reply => ?_
  refine confined_bind (confined_ofExcept _) fun outcome => ?_
  exact confined_bind (confined_update fun _ => rfl) fun _ => confined_pure _

theorem confined_applyFault : applyFault.Confined NotRemove FaultRun.endings := by
  refine confined_bind (confined_bind confined_state fun run => ?_) fun _ => ?_
  · exact confined_bind (confined_call (by simp [NotRemove])) confined_finish
  · refine confined_bind (confined_update fun _ => rfl) fun _ => ?_
    refine confined_bind (confined_bind confined_state fun run => ?_) fun verified => ?_
    · exact confined_bind (confined_call (by simp [NotRemove])) confined_finish
    · cases verified with
      | true => exact confined_update fun _ => rfl
      | false => exact confined_bind confined_state fun _ => confined_raise _

theorem confined_checkTrafficEvidence (files : FaultFiles) (traffic : CommandOutcome) :
    (checkTrafficEvidence files traffic).Confined NotRemove FaultRun.endings := by
  refine confined_bind ?_ fun available => ?_
  · unfold trafficAvailable
    split
    · exact confined_onHost _
    · exact confined_pure _
  · split
    · refine confined_bind (confined_onHost _) fun text => ?_
      split
      · exact confined_pure _
      · exact confined_raise _
    · exact confined_raise _

/-- The body never calls `remove()` and writes none of the endings. -/
theorem confined_faultBody (scenario : Scenario) (files : FaultFiles) (settleSeconds : ℤ)
    (boundary : String) :
    (faultBody scenario files settleSeconds boundary).Confined NotRemove FaultRun.endings := by
  refine confined_bind confined_applyFault fun _ => ?_
  refine confined_bind (confined_onHost _) fun _ => ?_
  refine confined_bind (confined_onHost _) fun environment => ?_
  refine confined_bind (confined_runCommand _ _ _) fun traffic => ?_
  refine confined_bind (confined_onHost _) fun environment' => ?_
  refine confined_bind (confined_runCommand _ _ _) fun collected => ?_
  split
  · exact confined_raise _
  · exact confined_checkTrafficEvidence _ _

end

/-- What a rollback that returned did and recorded. -/
structure RolledBack (before after : FaultRun) (trace : List (Event FaultStage)) : Prop where
  infrastructure_eq : after.infrastructureError = before.infrastructureError
  verified_eq : after.faultVerified = before.faultVerified
  removals_eq : removals trace =
    if before.injector.applied ∨ before.injector.cleanupRequired then 1 else 0
  attempted : after.rollbackVerified = true → after.recoveryAttempted = true
  rollbackVerified_iff : after.rollbackVerified = true ↔
    RemoveReturned trace ∧ RemovalVerified trace
  rollbackError_eq : after.rollbackVerified = true → after.rollbackError = none

theorem rollback_runs (unverified : before.rollbackVerified = false)
    (noError : before.rollbackError = none)
    (runs : rollback.Runs before trace (.ok ()) after) : RolledBack before after trace := by
  rw [rollback, runs_state_bind_iff] at runs
  split at runs
  · rename_i armed
    rw [runs_update_bind_iff] at runs
    simp only [runs_bind_ok_iff, runs_attempt_iff] at runs
    rcases runs with ⟨_, ended, _, _, rfl, ⟨_, ⟨⟩, removed⟩, runs⟩
    rw [FaultStage.runs_remove_iff] at removed
    rcases removed with ⟨left, rfl, rfl⟩
    cases ended with
    | ok _ =>
        simp only [runs_bind_ok_iff, FaultStage.runs_verifyRemoved_iff, runs_update_iff] at runs
        rcases runs with ⟨_, verified, _, _, rfl, ⟨left', rfl, rfl⟩, rfl, _, rfl⟩
        refine ⟨rfl, rfl, ?_, fun _ => rfl, ?_, ?_⟩
        · simp [removals, armed]
        · simp only [RemoveReturned, RemovalVerified]
          cases verified with
          | true =>
              exact ⟨fun _ => ⟨⟨before.injector, left, by simp⟩, ⟨left, left', by simp⟩⟩,
                fun _ => rfl⟩
          | false => simp
        · intro verified
          simp only at verified
          simp [verified, noError]
    | error error =>
        dsimp only at runs
        split at runs
        · simp only [runs_update_iff] at runs
          rcases runs with ⟨rfl, _, rfl⟩
          refine ⟨rfl, rfl, ?_, fun _ => rfl, ?_, ?_⟩
          · simp [removals, armed]
          · simp [unverified, RemoveReturned]
          · simp [unverified]
        · simp at runs
  · rename_i idle
    simp only [runs_pure_iff] at runs
    rcases runs with ⟨rfl, _, rfl⟩
    refine ⟨rfl, rfl, by simp [removals, idle], by simp [unverified], ?_, by simp [unverified]⟩
    simp [unverified, RemoveReturned]

theorem protectedRollback_runs {previousTerm : Disposition}
    (unverified : before.rollbackVerified = false) (noError : before.rollbackError = none)
    (runs : (protectedRollback previousTerm).Runs before trace (.ok ()) after) :
    RolledBack before after trace := by
  simp only [protectedRollback, runs_bind_ok_iff, FaultStage.runs_onHost_iff, runs_attempt_iff,
    runs_ofExcept_iff] at runs
  rcases runs with ⟨_, _, _, _, rfl, ⟨rfl, ignoring, _, rfl⟩, _, _, _, _, rfl,
    ⟨rfl, ignoringToo, _, rfl⟩, inner, ended, middle, _, rfl, ⟨_, ⟨⟩, runs⟩, _, _, _, _, rfl,
    ⟨rfl, restoring, _, rfl⟩, _, _, _, _, rfl, ⟨rfl, restoringToo, _, rfl⟩, rfl, rfl, rfl⟩
  have rolledBack := rollback_runs unverified noError runs
  refine ⟨rolledBack.infrastructure_eq, rolledBack.verified_eq, ?_, rolledBack.attempted, ?_,
    rolledBack.rollbackError_eq⟩
  · simpa using rolledBack.removals_eq
  · simpa using rolledBack.rollbackVerified_iff

theorem status_of_error (run : FaultRun) (faultStatus recoveryStatus : ResultStatus)
    (failed : run.infrastructureError.getD "" ≠ "") :
    run.status faultStatus recoveryStatus = .error := by
  simp [FaultRun.status, failed]

theorem status_of_noError (run : FaultRun) (faultStatus recoveryStatus : ResultStatus)
    (succeeded : run.infrastructureError.getD "" = "")
    (judged : faultStatus = .pass ∨ faultStatus = .fail) :
    run.status faultStatus recoveryStatus =
      if run.rollbackError.getD "" = "" ∧ run.rollbackVerified = true ∧
        recoveryStatus = .pass ∧ faultStatus = .pass then .pass else .fail := by
  rcases judged with rfl | rfl <;> cases verified : run.rollbackVerified <;>
    by_cases silent : run.rollbackError.getD "" = "" <;>
    by_cases recovered : recoveryStatus = .pass <;>
    simp [FaultRun.status, succeeded, verified, silent, recovered]

/-- The status of a run without an infrastructure error. -/
theorem status_of_verdict (scenario : Scenario) (run : FaultRun) (events : List String)
    (recoveryStatus : ResultStatus) (succeeded : run.infrastructureError.getD "" = "")
    (silent : run.rollbackVerified = true → run.rollbackError = none) :
    run.status (scenarioStatus (evaluateScenarioEvents scenario events)) recoveryStatus =
      if run.rollbackVerified = true ∧ recoveryStatus = .pass ∧ scenario.MetBy events then .pass
      else .fail := by
  have judged := scenarioStatus_evaluate scenario events
  rw [status_of_noError run _ _ succeeded (judged.imp (·.1) (·.1))]
  have met_iff : scenarioStatus (evaluateScenarioEvents scenario events) = .pass ↔
      scenario.MetBy events := by
    rcases judged with ⟨status, met⟩ | ⟨status, unmet⟩
    · simp [status, met]
    · simp [status, unmet]
  congr 1
  rw [met_iff, eq_iff_iff]
  constructor
  · rintro ⟨_, verified, recovered, met⟩
    exact ⟨verified, recovered, met⟩
  · rintro ⟨verified, recovered, met⟩
    exact ⟨by simp [silent verified], verified, recovered, met⟩

theorem openBoundary_runs {identity : RunIdentity} {opened : String × Disposition}
    (runs : (openBoundary files identity).Runs before trace (.ok opened) after) :
    after = before ∧ removals trace = 0 := by
  simp only [openBoundary, runs_bind_ok_iff, FaultStage.runs_onHost_iff, runs_pure_iff] at runs
  rcases runs with ⟨_, _, _, _, rfl, ⟨rfl, asked, _, rfl⟩, _, _, _, _, rfl,
    ⟨rfl, written, _, rfl⟩, _, _, _, _, rfl, ⟨rfl, set, _, rfl⟩, rfl, _, rfl⟩
  simp

/-- The body of a run that reaches its report: how it ended, what it left, and
the rollback after it. -/
theorem guardedBody_runs {settleSeconds : ℤ} {previousTerm : Disposition}
    (fresh : before.endings = (false, none, none))
    (runs : (guardedBody scenario files settleSeconds boundary previousTerm).Runs before trace
      (.ok ()) after) :
    ∃ body cleanup ended atEnd, trace = body ++ cleanup ∧
      (faultBody scenario files settleSeconds boundary).Runs before body ended atEnd ∧
      ∃ guarded : FaultRun, guarded.injector = atEnd.injector ∧
        (guarded.infrastructureError.getD "" = "" ↔ ended = .ok ()) ∧
        (guarded.infrastructureError = none ↔ ended = .ok ()) ∧
        RolledBack guarded after cleanup := by
  simp only [guardedBody, runs_bind_ok_iff, runs_attempt_iff] at runs
  rcases runs with ⟨body, ended, atEnd, cleanup, rfl, ⟨_, ⟨⟩, bodyRuns⟩, runs⟩
  have kept := (confined_faultBody scenario files settleSeconds boundary).keeps bodyRuns
  rw [fresh] at kept
  simp only [FaultRun.endings, Prod.mk.injEq] at kept
  rcases kept with ⟨unverified, noError, noInfrastructure⟩
  refine ⟨body, cleanup, ended, atEnd, rfl, bodyRuns, ?_⟩
  cases ended with
  | ok _ =>
      exact ⟨atEnd, rfl, by simp [noInfrastructure], by simp [noInfrastructure],
        protectedRollback_runs unverified noError runs⟩
  | error error =>
      dsimp only at runs
      split at runs
      · rw [runs_update_bind_iff] at runs
        have rolledBack := protectedRollback_runs (by exact unverified) (by exact noError) runs
        refine ⟨_, ?_, ?_, ?_, rolledBack⟩
        · rfl
        · simp only [Option.getD_some, reduceCtorEq, iff_false, Text.orElse]
          split <;> simp_all
        · simp
      · rw [runs_bind_ok_iff] at runs
        rcases runs with ⟨_, _, _, _, _, _, raised⟩
        simp at raised

/-- The recovery is validated when the fault was verified and rolled back. -/
theorem validateRecovery_runs {recovery : RecoveryValidation}
    (runs : (validateRecovery scenario).Runs before trace (.ok recovery) after) :
    after.endings = before.endings ∧ after.faultVerified = before.faultVerified ∧
      after.recoveryAttempted = before.recoveryAttempted ∧ hostedBy trace = [] ∧
      removals trace = 0 ∧ ¬RemoveReturned trace ∧ ¬RemovalVerified trace ∧
      (recovery.status = .pass ↔ RecoveryPassed trace) ∧
      (recovery.status ≠ .skipped ↔
        before.faultVerified = true ∧ before.rollbackVerified = true) := by
  rw [validateRecovery, runs_state_bind_iff] at runs
  split at runs
  · rename_i due
    simp only [runs_bind_ok_iff, runs_update_iff, runs_pure_iff] at runs
    rcases runs with ⟨_, _, _, _, rfl, validating, _, _, _, _, rfl, ⟨rfl, _, rfl⟩, rfl, ⟨⟩, rfl⟩
    rcases FaultStage.runs_validateRecoveredBaseline_ok validating with ⟨validated, rfl, rfl, rfl⟩
    refine ⟨rfl, rfl, rfl, rfl, rfl, by simp [RemoveReturned], by simp [RemovalVerified], ?_, ?_⟩
    · constructor
      · intro passed
        exact ⟨scenario.timeoutSeconds, validated, by simp, passed⟩
      · rintro ⟨timeout, other, member, passed⟩
        simp only [List.append_nil, List.mem_singleton, Event.mk.injEq,
          FaultStageOp.validateRecovered.injEq] at member
        rcases member with ⟨rfl, same⟩
        cases eq_of_heq same
        exact passed
    · exact ⟨fun _ => due, fun _ => validated.status_ne_skipped⟩
  · rename_i notDue
    simp only [runs_pure_iff, Except.ok.injEq] at runs
    rcases runs with ⟨rfl, rfl, rfl⟩
    simp [hostedBy, removals, RemoveReturned, RemovalVerified, RecoveryPassed,
      RecoveryValidation.skipped, notDue]

/-- What the report of a run says. -/
theorem reportFault_runs {identity : RunIdentity} {result : ScenarioResult}
    (runs : (reportFault scenario files identity).Runs before trace (.ok result) after) :
    ∃ (recovery : RecoveryValidation) (run : FaultRun) (evidence : List EvidenceRef),
      result = run.result scenario identity recovery (parsedEvents (hostedBy trace)) evidence ∧
      run.endings = before.endings ∧ run.faultVerified = before.faultVerified ∧
      run.recoveryAttempted = before.recoveryAttempted ∧ removals trace = 0 ∧
      ¬RemoveReturned trace ∧ ¬RemovalVerified trace ∧
      (recovery.status = .pass ↔ RecoveryPassed trace) ∧
      (recovery.status ≠ .skipped ↔
        before.faultVerified = true ∧ before.rollbackVerified = true) := by
  simp only [reportFault, runs_bind_ok_iff, runs_state_iff, FaultStage.runs_onHost_iff,
    runs_pure_iff, Except.ok.injEq] at runs
  rcases runs with ⟨_, recovery, run, _, rfl, validated, _, _, _, _, rfl, ⟨rfl, rfl, rfl⟩,
    _, _, _, _, rfl, ⟨rfl, written, writing, rfl⟩, _, events, _, _, rfl,
      ⟨rfl, parsed, parsing, rfl⟩,
    _, logs, _, _, rfl, ⟨rfl, globbed, globbing, rfl⟩, _, evidence, _, _, rfl,
    ⟨rfl, checked, checking, rfl⟩, rfl, rfl, rfl⟩
  rcases validateRecovery_runs validated with
    ⟨endings, verified, attempted, hosted, removed, noRemove, noVerify, passed, skipped⟩
  refine ⟨recovery, after, evidence, ?_, endings, verified, attempted, by simp [removed],
    by simp [noRemove], by simp [noVerify], by simpa using passed, skipped⟩
  rw [writeCommandLog, Host.runs_writeText_iff] at writing
  rcases Host.runs_glob_iff.mp globbing with ⟨_, rfl, _⟩
  simp [hosted, writing, parsedBy, parseRuntimeEvents_parsedEvents parsing,
    runtimeEvidence_parsedEvents checking]

end

/-- What the result of a fault run says of its stages.  The run opens its time
boundary, executes the body, which leaves `atEnd`, cleans up, and reports. -/
structure FaultVerdict (scenario : Scenario) (files : FaultFiles)
    (opening body cleanup report : List (Event FaultStage)) (bodyEnded : Except Raised Unit)
    (atEnd : FaultRun) (result : ScenarioResult) : Prop where
  /-- `remove()` is called once if a cleanup is due when the body ends, else never. -/
  removals_eq : removals (opening ++ body ++ cleanup ++ report) =
    if atEnd.injector.applied ∨ atEnd.injector.cleanupRequired then 1 else 0
  error_iff : result.status = .error ↔ ∃ error, bodyEnded = .error error
  pass_iff : bodyEnded = .ok () →
    (result.status = .pass ↔ RemoveReturned cleanup ∧ RemovalVerified cleanup ∧
      RecoveryPassed report ∧ scenario.MetBy (parsedEvents (hostedBy report)))
  fail_otherwise : bodyEnded = .ok () → result.status ≠ .pass → result.status = .fail
  observed_iff : ∀ event, event ∈ result.observedEvents ↔ event ∈ parsedEvents (hostedBy report)
  rollback_attempted : result.rollbackVerified = true → result.recoveryAttempted = true
  recovery_iff : result.recoveryStatus ≠ .skipped ↔
    result.faultVerified = true ∧ result.rollbackVerified = true
  evidence_agrees : result.expectedFailureObserved = true → EvidenceAgrees files body

/-- Every fault run that returns has the verdict of its stages. -/
theorem executeFaultScenario_verdict (scenario : Scenario)
    (automated : scenario.fault.type ∉ mutationFaults) (outputDir : Path) (identity : RunIdentity)
    (settleSeconds : ℤ) (trace : List (Event FaultStage)) (result : ScenarioResult)
    (after : FaultRun)
    (runs : (executeFaultScenario scenario outputDir identity settleSeconds).Runs
      (.start scenario) trace (.ok result) after) :
    ∃ opening body cleanup report boundary bodyEnded atEnd,
      trace = opening ++ body ++ cleanup ++ report ∧
      (faultBody scenario (.ofOutputDir outputDir) settleSeconds boundary).Runs
        (.start scenario) body bodyEnded atEnd ∧
      FaultVerdict scenario (.ofOutputDir outputDir) opening body cleanup report bodyEnded atEnd
        result := by
  rw [executeFaultScenario, if_neg automated, runs_bind_ok_iff] at runs
  rcases runs with ⟨opening, ⟨boundary, previousTerm⟩, started, _, rfl, opened, runs⟩
  rw [runs_bind_ok_iff] at runs
  rcases runs with ⟨middle, _, rolled, report, rfl, guardedRuns, reported⟩
  rcases openBoundary_runs opened with ⟨rfl, opening_unremoved⟩
  rcases guardedBody_runs rfl guardedRuns with ⟨body, cleanup, bodyEnded, atEnd, rfl, bodyRuns,
    guarded, injector_eq, silent_iff, none_iff, rolledBack⟩
  rcases reportFault_runs reported with ⟨recovery, run, evidence, rfl, endings, verified, attempted,
    unremoved, noRemove, noVerify, passed, skipped⟩
  have body_unremoved := removals_eq_zero (confined_faultBody _ _ _ _).calls bodyRuns
  simp only [FaultRun.endings, Prod.mk.injEq] at endings
  rcases endings with ⟨rollback_eq, rollbackError_eq, infrastructure_eq⟩
  rw [rolledBack.infrastructure_eq] at infrastructure_eq
  rw [← infrastructure_eq] at silent_iff none_iff
  rw [← rollback_eq] at skipped
  rw [← verified] at skipped
  have status_of_ok (returned : bodyEnded = .ok ()) := status_of_verdict scenario run
    (parsedEvents (hostedBy report)) recovery.status (silent_iff.mpr returned)
    (by rw [rollback_eq, rollbackError_eq]; exact rolledBack.rollbackError_eq)
  refine ⟨opening, body, cleanup, report, boundary, bodyEnded, atEnd, by simp, bodyRuns, ?_⟩
  constructor
  · simp [opening_unremoved, body_unremoved, unremoved, rolledBack.removals_eq, injector_eq]
  · cases bodyEnded with
    | ok _ =>
        simp only [FaultRun.result, status_of_ok rfl, reduceCtorEq, exists_false, iff_false]
        split <;> simp
    | error error =>
        have failed : run.infrastructureError.getD "" ≠ "" := mt silent_iff.mp (by simp)
        simp [FaultRun.result, status_of_error _ _ _ failed]
  · intro returned
    simp only [FaultRun.result, status_of_ok returned, ite_eq_left_iff, reduceCtorEq, imp_false,
      not_not, rollback_eq, rolledBack.rollbackVerified_iff, passed, and_assoc]
  · intro returned
    simp only [FaultRun.result, status_of_ok returned]
    split <;> simp
  · simp [FaultRun.result]
  · simp only [FaultRun.result, attempted, rollback_eq]
    exact rolledBack.attempted
  · exact skipped
  · intro observed
    have returned : bodyEnded = .ok () := by
      simp only [FaultRun.result, decide_eq_true_eq] at observed
      exact none_iff.mp observed.1
    subst returned
    exact faultBody_evidence bodyRuns

/-- Stages that all succeed, with the probe failing while the fault is applied. -/
def smoothStages : Responder FaultStage ℚ := fun clock op =>
  match op with
  | .apply injector => ((.ok (), { injector with applied := true }), clock)
  | .verifyApplied injector => ((.ok true, injector), clock)
  | .remove injector => ((.ok (), { injector with applied := false }), clock)
  | .verifyRemoved injector => ((.ok true, injector), clock)
  | .runCommand args _ _ => (.ok ⟨args, if args = trafficTest then 4 else 0, "", ""⟩, clock)
  | .validateRecovered _ => (.ok ⟨⟨.pass, [], [], []⟩, rfl⟩, clock)
  | .host op =>
      Host.calm (fun _ => .exited 0 "" "") "USER_PLANE_FAILURE" ["user_plane_failure"] clock op

/-- The N3 impairment, executed after a settling time of twenty seconds. -/
def n3Execution : FaultM ScenarioResult :=
  executeFaultScenario n3Impairment (.ofText "out") ⟨"run", "start", "fingerprint"⟩ 20

theorem n3Execution_passes :
    n3Execution.returns smoothStages (.start n3Impairment) 0
      (fun result => result.status = .pass) := by
  decide +kernel

theorem executeFaultScenario_verdict_n3 :
    ∃ opening body cleanup report bodyEnded atEnd result,
      result.status = .pass ∧
      FaultVerdict n3Impairment (.ofOutputDir (.ofText "out")) opening body cleanup report
        bodyEnded atEnd result := by
  rcases Routine.runs_of_returns n3Execution_passes with ⟨result, after, runs, passes⟩
  rcases executeFaultScenario_verdict n3Impairment (by decide) (.ofText "out")
      ⟨"run", "start", "fingerprint"⟩ 20 _ result after runs with
    ⟨opening, body, cleanup, report, _, bodyEnded, atEnd, _, _, verdict⟩
  exact ⟨opening, body, cleanup, report, bodyEnded, atEnd, result, by simpa using passes, verdict⟩

end FivegLab
