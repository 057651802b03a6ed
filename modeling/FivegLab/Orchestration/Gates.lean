import FivegLab.JsonDecoder
import FivegLab.Orchestration.Checks
import FivegLab.Orchestration.FaultVerdict
import FivegLab.Orchestration.PassedChecks
import FivegLab.Orchestration.Run

/-!
# The gates before a fault

A fault run changes the state of the lab only after all of its gates; a run that
does not pass them is blocked.
-/

namespace FivegLab

open Routine Host

/-- A command that stops or starts services, or adds or deletes a queueing
discipline or a filter. -/
def StateChanging (args : List String) : Prop :=
  (∃ verb ∈ ["stop", "start", "restart"], ["docker", "compose", verb] <+: args ∨
    ["docker", "compose", "--profile", "ran", verb] <+: args) ∨
  args.take 4 = ["docker", "compose", "exec", "-T"] ∧
    ∃ object ∈ ["qdisc", "filter"], ∃ verb ∈ ["add", "del"],
      ["tc", object, verb] <+: args.drop 5

instance (args : List String) : Decidable (StateChanging args) :=
  inferInstanceAs (Decidable ((∃ verb ∈ _, _) ∨ _ ∧ ∃ object ∈ _, ∃ verb ∈ _, _))

/-- The operation is a command that changes the lab. -/
def HostOp.ChangesState : HostOp → Prop
  | .spawn args _ _ => StateChanging args
  | .subprocess args _ => StateChanging args
  | _ => False

/-- The routine does not change the lab. -/
def Steady {α : Type} (routine : HostM α) : Prop := Issues (¬StateChanging ·) routine

theorem HostOp.not_changesState {op : HostOp} (steady : op.Issues (¬StateChanging ·)) :
    ¬op.ChangesState := by
  cases op with
  | spawn | subprocess => exact steady
  | _ => exact fun changes => changes

section

variable {args : List String}

theorem steady_cli (cli : CliCommand args) : ¬StateChanging args := by
  rcases cli with ⟨service, rfl | ⟨node, subcommand, rfl⟩⟩
  · simp [StateChanging, cliDump]
  · simp [StateChanging, cliExec]

theorem steady_current (current : CurrentCommand args) : ¬StateChanging args := by
  rcases current with rfl | ⟨service, rfl⟩ | cli | rfl
  · simp [StateChanging, composePs]
  · simp [StateChanging, psRunning]
  · exact steady_cli cli
  · simp [StateChanging, ueTunnel]

theorem steady_final (final : FinalCommand args) : ¬StateChanging args := by
  rcases final with (rfl | ⟨rest, rfl⟩ | ⟨rest, rfl⟩) | cli | rfl
  · simp [StateChanging, listCore]
  · simp [StateChanging]
  · simp [StateChanging]
  · exact steady_cli cli
  · simp [StateChanging, inspectRan]

end

theorem steady_preflight : Steady runPreflight := by
  have device (path : Path) : Steady (isDevice path) :=
    Issues.bind (issues_call trivial) fun _ => Issues.ite (issues_call trivial) (Issues.pure _)
  have lookup (name command : String) (required : Bool) :
      Steady (commandCheck name command required) :=
    Issues.bind (issues_call trivial) fun _ => Issues.ite (Issues.pure _) (Issues.pure _)
  have lookups (entries : List (String × String × Bool)) : Steady (commandChecks entries) := by
    induction entries with
    | nil => exact Issues.pure _
    | cons entry entries ih =>
        exact Issues.bind (lookup _ _ _) fun _ => Issues.bind ih fun _ => Issues.pure _
  have conflicts (ports : List ℕ) : Steady (findConflicts ports) := by
    induction ports with
    | nil => exact Issues.pure _
    | cons port ports ih =>
        exact Issues.bind (issues_call trivial) fun _ => Issues.bind ih fun _ => Issues.pure _
  have compose : ¬StateChanging ["docker", "compose", "version"] := by decide
  have modinfo : ¬StateChanging ["modinfo", "sctp"] := by decide
  refine Issues.bind ?_ fun system => Issues.bind (lookups _) fun _ => Issues.bind ?_ fun _ =>
    Issues.bind ?_ fun _ => Issues.bind ?_ fun _ => Issues.bind ?_ fun _ => Issues.bind ?_ fun _ =>
    Issues.bind ?_ fun _ => Issues.pure _
  · exact Issues.bind (issues_call trivial) fun _ => Issues.bind (issues_call trivial) fun _ =>
      Issues.bind (issues_call trivial) fun _ => Issues.pure _
  · refine Issues.bind (issues_call trivial) fun _ => Issues.ite ?_ (Issues.pure _)
    exact Issues.bind (issues_subprocess compose) fun _ => Issues.pure _
  · exact Issues.bind (device _) fun _ => Issues.bind (issues_call trivial) fun _ => Issues.pure _
  · refine Issues.ite (Issues.pure _) (Issues.bind ?_ fun _ => Issues.ite (Issues.pure _) ?_)
    · refine Issues.bind (issues_call trivial) fun _ => Issues.ite ?_ (Issues.pure _)
      exact Issues.bind (issues_readText _) fun _ => Issues.pure _
    · refine Issues.bind ?_ fun _ => Issues.ite (Issues.pure _) (Issues.pure _)
      refine Issues.bind (issues_call trivial) fun _ => Issues.ite ?_ (Issues.pure _)
      exact Issues.bind (issues_subprocess modinfo) fun _ => Issues.pure _
  · refine Issues.ite (Issues.pure _) (Issues.bind (issues_call trivial) fun _ => ?_)
    refine Issues.ite (Issues.bind (issues_readText _) fun _ => ?_) (Issues.pure _)
    exact Issues.ite (Issues.pure _) (Issues.pure _)
  · exact Issues.bind (conflicts _) fun _ => Issues.pure _
  · exact Issues.bind (issues_call trivial) fun _ => Issues.bind (issues_call trivial) fun _ =>
      Issues.pure _

theorem steady_blockingReason : Steady blockingReason :=
  Issues.bind steady_preflight fun _ => Issues.bind (issues_fallible trivial) fun _ => Issues.pure _

theorem steady_gitCommit : Steady gitCommit :=
  Issues.bind (issues_subprocess (by decide)) fun _ => Issues.pure _

theorem steady_writeManifests (repoRoot outputDir : Path) (scenarioId : String)
    (context : RuntimeContext) : Steady (writeManifests repoRoot outputDir scenarioId context) := by
  refine Issues.bind ?_ fun _ => Issues.bind (issues_writeText _ _) fun _ =>
    Issues.bind (issues_writeText _ _) fun _ => issues_writeText _ _
  exact Issues.bind (issues_call trivial) fun _ => Issues.bind (issues_call trivial) fun _ =>
    Issues.bind (issues_call trivial) fun _ => Issues.bind (issues_call trivial) fun _ =>
    Issues.bind steady_gitCommit fun _ => Issues.pure _

theorem steady_configDigests (repoRoot : Path) (paths : List Path) :
    Steady (configDigests repoRoot paths) := by
  induction paths with
  | nil => exact Issues.pure _
  | cons path paths ih =>
      refine Issues.bind (calls_ofExcept _) fun _ => Issues.bind ?_ fun _ =>
        Issues.bind ih fun _ => Issues.pure _
      exact Issues.bind (issues_fallible trivial) fun _ => Issues.pure _

theorem steady_dockerEngineIdentity : Steady dockerEngineIdentity := by
  refine Issues.bind (calls_attempt (issues_subprocess (by decide))) fun ended => ?_
  split
  · exact Issues.pure _
  · exact Issues.ite (Issues.pure _) (calls_raise _)

theorem steady_finishRun (outputDir : Path) (result : ScenarioResult) :
    Steady (finishRun outputDir result) := by
  refine Issues.bind (Issues.bind (issues_makeDirectory _ _) fun _ => ?_) fun _ => Issues.pure _
  exact Issues.bind (issues_writeText _ _) fun _ => issues_writeText _ _

variable [JsonLibrary]

theorem steady_openRun (repoRoot outputRoot : Path) (scenario : Scenario) :
    Steady (openRun repoRoot outputRoot scenario) := by
  refine Issues.bind (issues_call trivial) fun _ => Issues.bind (issues_makeDirectory _ _) fun _ =>
    Issues.bind ?_ fun _ => Issues.bind (steady_writeManifests _ _ _ _) fun _ => Issues.pure _
  refine Issues.bind ?_ fun _ => Issues.bind ?_ fun _ => Issues.bind ?_ fun _ =>
    Issues.bind (steady_configDigests _ _) fun _ => ?_
  · exact Issues.bind (issues_call trivial) fun _ => Issues.bind (issues_call trivial) fun _ =>
      Issues.pure _
  · refine Issues.bind (issues_runCommand (by decide)) fun _ => ?_
    split
    · exact Issues.pure _
    · exact Issues.ite (Issues.pure _) (calls_raise _)
  · exact Issues.bind (issues_subprocess (by decide)) fun _ => Issues.pure _
  · exact Issues.bind (issues_call trivial) fun _ => Issues.bind (issues_call trivial) fun _ =>
      Issues.bind (issues_call trivial) fun _ => Issues.bind (issues_call trivial) fun _ =>
      Issues.bind steady_dockerEngineIdentity fun _ => Issues.pure _

theorem steady_validateBaselineResult (path : Option Path) (expectedFingerprint : String) :
    Steady (validateBaselineResult path expectedFingerprint) := by
  cases path with
  | none => exact Issues.pure _
  | some path =>
      refine Issues.bind (issues_call trivial) fun _ => Issues.ite ?_ (Issues.pure _)
      refine Issues.bind (calls_attempt ?_) fun ended => ?_
      · exact Issues.bind (issues_readText _) fun _ => calls_ofExcept _
      · split
        · exact Issues.pure _
        · exact Issues.ite (Issues.pure _) (calls_raise _)

theorem steady_validateCurrentBaseline (rounds : ℕ) (outputDir : Path) (timeout : ℕ)
    (phase : String) : Steady (validateCurrentBaseline rounds outputDir timeout phase) := by
  have traffic : ¬StateChanging trafficTest := by decide
  refine Issues.bind ((issues_checkCurrent _ _ _).mono fun _ => steady_current) fun _ => ?_
  refine Issues.bind ((issues_checkTraffic _ _ _).mono fun _ probes => probes ▸ traffic) fun _ => ?_
  refine Issues.bind ((issues_validateFinalHealth _ _ _ _).mono fun _ => steady_final) fun _ => ?_
  exact Issues.bind (issues_writeText _ _) fun _ => Issues.pure _

omit [JsonLibrary] in
theorem steady_blockUnhealthy (scenario : Scenario) (opened : OpenedRun)
    (live : RecoveryValidation) : Steady (blockUnhealthy scenario opened live) :=
  Issues.bind (issues_runtimeEvidence _ _) fun _ => steady_finishRun _ _

omit [JsonLibrary] in
/-- The status of an executed fault is that of its verdict. -/
theorem FaultRun.status_ne_blocked (run : FaultRun) (assertions : List AssertionResult)
    (recoveryStatus : ResultStatus) :
    run.status (scenarioStatus assertions) recoveryStatus ≠ .blocked := by
  have known := scenarioStatus_mem assertions
  simp only [List.mem_cons, List.not_mem_nil, or_false] at known
  unfold FaultRun.status
  rcases known with status | status | status <;> rw [status] <;> split_ifs <;> simp_all

omit [JsonLibrary] in
/-- An executed fault has the result of its local variables. -/
theorem executeFaultScenario_runs {scenario : Scenario} {outputDir : Path} {identity : RunIdentity}
    {settleSeconds : ℤ} {before after : FaultRun} {trace : List (Event FaultStage)}
    {result : ScenarioResult} (automated : scenario.fault.type ∉ mutationFaults)
    (runs : (executeFaultScenario scenario outputDir identity settleSeconds).Runs before trace
      (.ok result) after) :
    ∃ (run : FaultRun) (recovery : RecoveryValidation) (events : List String)
      (evidence : List EvidenceRef),
      result = run.result scenario identity recovery events evidence := by
  rw [executeFaultScenario, if_neg automated, runs_bind_ok_iff] at runs
  rcases runs with ⟨_, ⟨boundary, previousTerm⟩, _, _, rfl, _, runs⟩
  rw [runs_bind_ok_iff] at runs
  rcases runs with ⟨_, _, _, _, rfl, _, reported⟩
  rcases reportFault_runs reported with ⟨recovery, run, evidence, rfl, _⟩
  exact ⟨run, recovery, _, evidence, rfl⟩

section

variable {rounds : ℕ} {scenario : Scenario} {outputDir : Path} {identity : RunIdentity}
  {settleSeconds : ℤ}

/-- A fault that is not automated is not executed. -/
theorem executeFaultOnHost_mutation (mutates : scenario.fault.type ∈ mutationFaults) :
    executeFaultOnHost rounds scenario outputDir identity settleSeconds =
      Pure.pure (mutationResult scenario identity) := by
  rw [executeFaultOnHost, executeFaultScenario, if_pos mutates]
  rfl

variable {before after : Unit} {trace : List (Event Host)} {result : ScenarioResult}

theorem executeFaultOnHost_runs (automated : scenario.fault.type ∉ mutationFaults)
    (runs : (executeFaultOnHost rounds scenario outputDir identity settleSeconds).Runs before trace
      (.ok result) after) :
    ∃ (run : FaultRun) (recovery : RecoveryValidation) (events : List String)
      (evidence : List EvidenceRef),
      result = run.result scenario identity recovery events evidence := by
  rw [executeFaultOnHost, runs_within_iff] at runs
  rcases runs with ⟨_, final, runs⟩
  rcases Program.runs_realize_iff.mp runs with ⟨abstract, runs, _⟩
  exact executeFaultScenario_runs automated runs

end

/-- The trace starts with the gates of a fault, in order, and all are passed. -/
inductive GatesPassed (rounds : ℕ) (repoRoot outputRoot : Path) (scenario : Scenario)
    (baselineResult : Option Path) : List (Event Host) → Prop
  | passed {opening preflight gating validating rest : List (Event Host)} {opened : OpenedRun}
      {checks config : List Check} {gate : BaselineGate} {live : RecoveryValidation}
      (opens : (openRun repoRoot outputRoot scenario).Runs () opening (.ok opened) ())
      (preflights : runPreflight.Runs () preflight (.ok checks) ())
      (preflight_passed : ChecksPass checks)
      (config_passed : ChecksPass config)
      (resolved : opened.context.effectiveCompose.isAvailable = true)
      (gates : (validateBaselineResult baselineResult opened.fingerprint).Runs () gating
        (.ok gate) ())
      (gate_passed : gate.passed = true)
      (validates : (validateCurrentBaseline rounds opened.outputDir 30 "pre_fault").Runs ()
        validating (.ok live) ())
      (live_named : List.Forall₂ AssertionResult.Tells live.assertions (checkNames "pre_fault"))
      (live_passed : ∀ assertion ∈ live.assertions, assertion.status = .pass)
      (automated : scenario.fault.type ∉ mutationFaults) :
      GatesPassed rounds repoRoot outputRoot scenario baselineResult
        (opening ++
          (preflight ++ (⟨.validateRepo, .ok config⟩ :: (gating ++ (validating ++ rest)))))

/-- Faults are gated: a run that changes the state of the lab has passed the gates
before, and a run that does not pass them is blocked without an effect. -/
structure FaultsGated (rounds : ℕ) (repoRoot outputRoot : Path) (scenario : Scenario)
    (baselineResult : Option Path) (settleSeconds : ℤ) : Prop where
  changes_gated : ∀ before event after,
    (runRuntimeScenario rounds repoRoot scenario outputRoot baselineResult settleSeconds).Emits ()
      (before ++ event :: after) → event.op.ChangesState →
    GatesPassed rounds repoRoot outputRoot scenario baselineResult before
  blocked_iff : ∀ trace result,
    (runRuntimeScenario rounds repoRoot scenario outputRoot baselineResult settleSeconds).Runs ()
      trace (.ok result) () →
    (result.status = .blocked ↔
      ¬GatesPassed rounds repoRoot outputRoot scenario baselineResult trace)
  blocked_inert : ∀ trace result,
    (runRuntimeScenario rounds repoRoot scenario outputRoot baselineResult settleSeconds).Runs ()
      trace (.ok result) () → result.status = .blocked →
    result.faultApplied = false ∧ result.faultVerified = false ∧ result.recoveryAttempted = false

section

variable {rounds : ℕ} {repoRoot outputRoot : Path} {scenario : Scenario}
  {baselineResult : Option Path} {settleSeconds : ℤ}

omit [JsonLibrary] in
theorem failureReasons_eq_nil_iff {checks : List Check} :
    failureReasons checks = [] ↔ ChecksPass checks := by
  simp [failureReasons, ChecksPass, List.filter_eq_nil_iff]

omit [JsonLibrary] in
/-- What blocks a run is read off the checks that were made. -/
theorem blockingReason_runs {before after : Unit} {trace : List (Event Host)}
    {reasons : List String} (runs : blockingReason.Runs before trace (.ok reasons) after) :
    ∃ preflight checks config, trace = preflight ++ [⟨.validateRepo, .ok config⟩] ∧
      runPreflight.Runs () preflight (.ok checks) () ∧
      (reasons = [] ↔ ChecksPass checks ∧ ChecksPass config) := by
  rw [blockingReason, runs_bind_ok_iff] at runs
  rcases runs with ⟨preflight, checks, _, _, rfl, preflights, runs⟩
  rw [runs_bind_ok_iff] at runs
  rcases runs with ⟨validating, config, _, _, rfl, validates, runs⟩
  rw [runs_pure_iff, Except.ok.injEq] at runs
  rcases runs with ⟨rfl, rfl, _⟩
  rw [runs_validateRepo_iff] at validates
  refine ⟨preflight, checks, config, by rw [validates, List.append_nil], preflights, ?_⟩
  rw [List.append_eq_nil_iff, failureReasons_eq_nil_iff, failureReasons_eq_nil_iff]

omit [JsonLibrary] in
theorem RuntimeContext.unresolved_eq_nil_iff {context : RuntimeContext} :
    context.unresolved = [] ↔ context.effectiveCompose.isAvailable = true := by
  simp [RuntimeContext.unresolved]

/-- All assertions of a validation pass when its status is PASS. -/
theorem validation_passed_iff {timeout : ℕ} {outputDir : Path} {phase : String}
    {before after : Unit}
    {trace : List (Event Host)} {live : RecoveryValidation}
    (validates : (validateCurrentBaseline rounds outputDir timeout phase).Runs before trace
      (.ok live) after) :
    live.status = .pass ↔ ∀ assertion ∈ live.assertions, assertion.status = .pass := by
  rcases validateCurrentBaseline_runs validates with
    ⟨_, _, _, _, _, _, _, _, _, _, _, _, status, tells, _⟩
  rw [status, scenarioStatus_eq_pass_iff]
  refine forall₂_congr fun assertion member => ?_
  rcases decided_of_tells tells assertion member with status | status <;> simp [status]

/-- The gates of a fault after the manifests and the preflight. -/
structure FaultUnlocked (rounds : ℕ) (scenario : Scenario) (opened : OpenedRun)
    (baselineResult : Option Path) (gating validating : List (Event Host)) : Prop where
  gates : ∃ gate, (validateBaselineResult baselineResult opened.fingerprint).Runs () gating
    (.ok gate) () ∧ gate.passed = true
  validates : ∃ live, (validateCurrentBaseline rounds opened.outputDir 30 "pre_fault").Runs ()
    validating (.ok live) () ∧ live.status = .pass
  automated : scenario.fault.type ∉ mutationFaults

theorem GatesPassed.of_unlocked (rest : List (Event Host))
    {opening preflight gating validating : List (Event Host)}
    {opened : OpenedRun} {checks config : List Check}
    (opens : (openRun repoRoot outputRoot scenario).Runs () opening (.ok opened) ())
    (preflights : runPreflight.Runs () preflight (.ok checks) ())
    (passed : ChecksPass checks ∧ ChecksPass config)
    (resolved : opened.context.effectiveCompose.isAvailable = true)
    (unlocked : FaultUnlocked rounds scenario opened baselineResult gating validating) :
    GatesPassed rounds repoRoot outputRoot scenario baselineResult
      (opening ++
        (preflight ++ (⟨.validateRepo, .ok config⟩ :: (gating ++ (validating ++ rest))))) := by
  rcases unlocked with ⟨⟨gate, gates, gatePassed⟩, ⟨live, validates, livePassed⟩, automated⟩
  have allPassed := (validation_passed_iff validates).mp livePassed
  rcases validateCurrentBaseline_runs validates with
    ⟨_, _, _, _, _, _, _, _, _, _, _, _, _, tells, _⟩
  exact .passed opens preflights passed.1 passed.2 resolved gates gatePassed validates tells
    allPassed automated

/-- A fault run that changes the lab has been unlocked before. -/
theorem runFault_emits {opened : OpenedRun} {before after : List (Event Host)} {event : Event Host}
    (emits : (runFault rounds scenario opened baselineResult settleSeconds).Emits ()
      (before ++ event :: after)) (changes : event.op.ChangesState) :
    ∃ gating validating rest, before = gating ++ (validating ++ rest) ∧
      FaultUnlocked rounds scenario opened baselineResult gating validating := by
  have forbidden : ¬event.op.Issues (¬StateChanging ·) := fun steady =>
    HostOp.not_changesState steady changes
  have notSteady {routine : HostM ScenarioResult} {start : List (Event Host)}
      (steady : Steady routine) (emitted : routine.Emits () (start ++ event :: after)) : False :=
    forbidden (Calls.of_emits steady emitted event (by simp))
  rw [runFault] at emits
  rcases emits_bind_of_calls (steady_validateBaselineResult _ _) emits forbidden with
    ⟨gating, gate, _, more, rfl, gates, emits⟩
  split at emits
  case isFalse => exact (notSteady (steady_finishRun _ _) emits).elim
  case isTrue gatePassed =>
    rcases emits_bind_of_calls (steady_validateCurrentBaseline _ _ _ _) emits forbidden with
      ⟨validating, live, _, rest, rfl, validates, emits⟩
    split at emits
    case isFalse => exact (notSteady (steady_blockUnhealthy _ _ _) emits).elim
    case isTrue livePassed =>
      refine ⟨gating, validating, rest, rfl, ⟨gate, gates, gatePassed⟩,
        ⟨live, validates, livePassed⟩, fun mutates => ?_⟩
      rw [executeFaultOnHost_mutation mutates] at emits
      exact notSteady (Issues.bind (Issues.pure _) fun _ => steady_finishRun _ _) emits

omit [JsonLibrary] in
theorem finishRun_runs {outputDir : Path} {written result : ScenarioResult}
    {before after : Unit} {trace : List (Event Host)}
    (runs : (finishRun outputDir written).Runs before trace (.ok result) after) :
    result = written := by
  rw [finishRun, runs_bind_ok_iff] at runs
  rcases runs with ⟨_, _, _, _, _, _, runs⟩
  rw [runs_pure_iff, Except.ok.injEq] at runs
  exact runs.2.1

/-- A result of a run that was blocked. -/
def ScenarioResult.Inert (result : ScenarioResult) : Prop :=
  result.status = .blocked ∧ result.faultApplied = false ∧ result.faultVerified = false ∧
    result.recoveryAttempted = false

omit [JsonLibrary] in
theorem OpenedRun.blocked_inert (opened : OpenedRun) (scenario : Scenario) (reasons : List String) :
    (opened.blocked scenario reasons).Inert :=
  ⟨rfl, rfl, rfl, rfl⟩

/-- A fault run that returns was blocked, or it was unlocked and is not blocked. -/
theorem runFault_runs {opened : OpenedRun} {before after : Unit} {trace : List (Event Host)}
    {result : ScenarioResult}
    (runs : (runFault rounds scenario opened baselineResult settleSeconds).Runs before trace
      (.ok result) after) :
    (result.Inert ∧ ∀ gating validating rest, trace = gating ++ (validating ++ rest) →
      ¬FaultUnlocked rounds scenario opened baselineResult gating validating) ∨
    (result.status ≠ .blocked ∧ ∃ gating validating rest,
      trace = gating ++ (validating ++ rest) ∧
      FaultUnlocked rounds scenario opened baselineResult gating validating) := by
  rw [runFault, runs_bind_ok_iff] at runs
  rcases runs with ⟨gating, gate, _, more, rfl, gates, runs⟩
  split at runs
  case isFalse failed =>
    rw [finishRun_runs runs]
    refine .inl ⟨opened.blocked_inert scenario _, ?_⟩
    rintro gating' validating rest split ⟨⟨gate', gates', passed⟩, _, _⟩
    rcases gates.unique gates' split with ⟨_, same, _⟩
    rw [Except.ok.injEq] at same
    exact failed (same ▸ passed)
  case isTrue gatePassed =>
    rw [runs_bind_ok_iff] at runs
    rcases runs with ⟨validating, live, _, rest, rfl, validates, runs⟩
    have onlyLive {gating' validating' rest' : List (Event Host)}
        (split : gating ++ (validating ++ rest) = gating' ++ (validating' ++ rest'))
        (unlocked : FaultUnlocked rounds scenario opened baselineResult gating' validating') :
        live.status = .pass := by
      rcases unlocked with ⟨⟨gate', gates', _⟩, ⟨live', validates', passed⟩, _⟩
      rcases gates.unique gates' split with ⟨_, _, _, split⟩
      rcases validates.unique validates' split with ⟨_, same, _⟩
      rw [Except.ok.injEq] at same
      exact same ▸ passed
    split at runs
    case isFalse unhealthy =>
      rw [blockUnhealthy, runs_bind_ok_iff] at runs
      rcases runs with ⟨_, evidence, _, _, rfl, _, runs⟩
      rw [finishRun_runs runs]
      exact .inl ⟨⟨rfl, rfl, rfl, rfl⟩, fun _ _ _ split unlocked =>
        unhealthy (onlyLive split unlocked)⟩
    case isTrue livePassed =>
      rw [runs_bind_ok_iff] at runs
      rcases runs with ⟨execution, executed, _, _, rfl, executes, runs⟩
      rw [finishRun_runs runs]
      by_cases automated : scenario.fault.type ∈ mutationFaults
      · rw [executeFaultOnHost_mutation automated, runs_pure_iff, Except.ok.injEq] at executes
        rw [executes.2.1]
        exact .inl ⟨⟨rfl, rfl, rfl, rfl⟩, fun _ _ _ _ unlocked => unlocked.automated automated⟩
      · rcases executeFaultOnHost_runs automated executes with
          ⟨run, recovery, events, evidence, rfl⟩
        refine .inr ⟨run.status_ne_blocked _ _, gating, validating, _, rfl, ?_⟩
        exact ⟨⟨gate, gates, gatePassed⟩, ⟨live, validates, livePassed⟩, automated⟩

/-- The gates of a trace are the ones that its run went through. -/
theorem GatesPassed.unlocked {opening preflight more : List (Event Host)} {opened : OpenedRun}
    {checks config : List Check}
    (passed : GatesPassed rounds repoRoot outputRoot scenario baselineResult
      (opening ++ (preflight ++ (⟨.validateRepo, .ok config⟩ :: more))))
    (opens : (openRun repoRoot outputRoot scenario).Runs () opening (.ok opened) ())
    (preflights : runPreflight.Runs () preflight (.ok checks) ()) :
    ChecksPass checks ∧ ChecksPass config ∧ opened.context.effectiveCompose.isAvailable = true ∧
      ∃ gating validating rest, more = gating ++ (validating ++ rest) ∧
        FaultUnlocked rounds scenario opened baselineResult gating validating := by
  generalize whole_eq : opening ++ (preflight ++ (⟨.validateRepo, .ok config⟩ :: more)) = whole
    at passed
  cases passed with
  | passed opens' preflights' checksPassed configPassed resolved gates gatePassed validates named
      livePassed automated =>
      rcases opens.unique opens' whole_eq with ⟨_, sameOpened, _, split⟩
      rcases preflights.unique preflights' split with ⟨_, sameChecks, _, split⟩
      simp only [Except.ok.injEq] at sameOpened sameChecks
      simp only [List.cons.injEq, Event.mk.injEq, heq_eq_eq, Except.ok.injEq, true_and] at split
      rcases split with ⟨rfl, more_eq⟩
      subst sameOpened sameChecks
      exact ⟨checksPassed, configPassed, resolved, _, _, _, more_eq, ⟨_, gates, gatePassed⟩,
        ⟨_, validates, (validation_passed_iff validates).mpr livePassed⟩, automated⟩

theorem runRuntimeScenario_changes (different : scenario.id ≠ "baseline_e2e")
    {before after : List (Event Host)} {event : Event Host}
    (emits : (runRuntimeScenario rounds repoRoot scenario outputRoot baselineResult
      settleSeconds).Emits () (before ++ event :: after)) (changes : event.op.ChangesState) :
    GatesPassed rounds repoRoot outputRoot scenario baselineResult before := by
  have forbidden : ¬event.op.Issues (¬StateChanging ·) := fun steady =>
    HostOp.not_changesState steady changes
  rw [runRuntimeScenario] at emits
  rcases emits_bind_of_calls (steady_openRun _ _ _) emits forbidden with
    ⟨opening, opened, _, _, rfl, opens, opened_emits⟩
  rcases emits_bind_of_calls steady_blockingReason opened_emits forbidden with
    ⟨blocking, reasons, _, _, rfl, blocks, emitted⟩
  rcases blockingReason_runs blocks with ⟨preflight, checks, config, rfl, preflights, none_iff⟩
  dsimp only at emitted
  split at emitted
  case isTrue =>
    exact absurd (Calls.of_emits (steady_finishRun _ _) emitted event (by simp)) forbidden
  case isFalse unblocked =>
    rw [ne_eq, not_not, List.append_eq_nil_iff, none_iff, RuntimeContext.unresolved_eq_nil_iff]
      at unblocked
    rcases runFault_emits emitted changes with ⟨gating, validating, rest, rfl, unlocked⟩
    have gated := GatesPassed.of_unlocked rest opens preflights unblocked.1 unblocked.2
      unlocked
    simpa using gated

theorem runRuntimeScenario_blocked (different : scenario.id ≠ "baseline_e2e")
    {trace : List (Event Host)} {result : ScenarioResult}
    (runs : (runRuntimeScenario rounds repoRoot scenario outputRoot baselineResult
      settleSeconds).Runs () trace (.ok result) ()) :
    (result.Inert ∧ ¬GatesPassed rounds repoRoot outputRoot scenario baselineResult trace) ∨
    (result.status ≠ .blocked ∧
      GatesPassed rounds repoRoot outputRoot scenario baselineResult trace) := by
  rw [runRuntimeScenario, runs_bind_ok_iff] at runs
  rcases runs with ⟨opening, opened, _, _, rfl, opens, runs⟩
  rw [runs_bind_ok_iff] at runs
  rcases runs with ⟨blocking, reasons, _, more, rfl, blocks, runs⟩
  rcases blockingReason_runs blocks with ⟨preflight, checks, config, rfl, preflights, none_iff⟩
  have onlyUnlocked (passed : GatesPassed rounds repoRoot outputRoot scenario baselineResult
      (opening ++ (preflight ++ [⟨.validateRepo, .ok config⟩] ++ more))) :=
    GatesPassed.unlocked (by simpa using passed) opens preflights
  dsimp only at runs
  split at runs
  case isTrue blocked =>
    rw [ne_eq, List.append_eq_nil_iff, none_iff, RuntimeContext.unresolved_eq_nil_iff] at blocked
    rw [finishRun_runs runs]
    refine .inl ⟨opened.blocked_inert scenario _, fun passed => blocked ?_⟩
    rcases onlyUnlocked passed with ⟨checksPassed, configPassed, resolved, _⟩
    exact ⟨⟨checksPassed, configPassed⟩, resolved⟩
  case isFalse unblocked =>
    rw [ne_eq, not_not, List.append_eq_nil_iff, none_iff, RuntimeContext.unresolved_eq_nil_iff]
      at unblocked
    rcases runFault_runs runs with ⟨inert, locked⟩ | ⟨executed, gating, validating, rest, rfl,
      unlocked⟩
    · refine .inl ⟨inert, fun passed => ?_⟩
      rcases onlyUnlocked passed with ⟨_, _, _, gating, validating, rest, split, unlocked⟩
      exact locked gating validating rest split unlocked
    · have gated := GatesPassed.of_unlocked rest opens preflights unblocked.1 unblocked.2
        unlocked
      exact .inr ⟨executed, by simpa using gated⟩

end

/-- No fault changes the lab before its gates. -/
theorem runRuntimeScenario_gated (rounds : ℕ) (repoRoot outputRoot : Path) (scenario : Scenario)
    (different : scenario.id ≠ "baseline_e2e") (baselineResult : Option Path)
    (settleSeconds : ℤ) :
    FaultsGated rounds repoRoot outputRoot scenario baselineResult settleSeconds := by
  constructor
  · intro before event after emits changes
    exact runRuntimeScenario_changes different emits changes
  · intro trace result runs
    rcases runRuntimeScenario_blocked different runs with ⟨inert, locked⟩ | ⟨executed, passed⟩
    · exact ⟨fun _ => locked, fun _ => inert.1⟩
    · exact ⟨fun blocked => absurd blocked executed, fun locked => absurd passed locked⟩
  · intro trace result runs blocked
    rcases runRuntimeScenario_blocked different runs with ⟨inert, _⟩ | ⟨executed, _⟩
    · exact inert.2
    · exact absurd blocked executed

omit [JsonLibrary] in
theorem runRuntimeScenario_gated_n3 :
    @FaultsGated (decoder (fun _ => "0.0") ⟨4300, 1000⟩) 3 (.ofText ".")
      (.ofText "reports") n3Impairment (some (.ofText "baseline.json")) 20 :=
  @runRuntimeScenario_gated (decoder (fun _ => "0.0") ⟨4300, 1000⟩) 3 (.ofText ".")
    (.ofText "reports") n3Impairment (by decide) (some (.ofText "baseline.json")) 20

end FivegLab
