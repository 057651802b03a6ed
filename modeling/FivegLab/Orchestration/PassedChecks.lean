import FivegLab.Orchestration.Checks

/-!
# What passed checks have seen

The assertions that the checks of the running lab make, and what a run of them
has seen when all assertions pass.
-/

namespace FivegLab

open Routine Host

/-- The command exited with zero and printed a text with a property. -/
def HostCommand.Printed (command : HostCommand) (args : List String) (holds : String → Prop) :
    Prop :=
  command.args = args ∧ ∃ stdout stderr, command.ended = .exited 0 stdout stderr ∧ holds stdout

/-- A node's answer matches. -/
def CliCheck.Answered (check : CliCheck) (commands : List HostCommand) : Prop :=
  ∃ node, ∃ command ∈ commands,
    command.Printed (cliExec check.service node check.subcommand) (check.pattern.search · = true)

/-- What passed checks of the current state have seen. -/
structure CurrentState (phase : String) (commands : List HostCommand) : Prop where
  services : ∀ service ∈ requiredRuntimeServices, ∃ command ∈ commands,
    command.Printed (psRunning service) (Text.strip · ≠ "")
  answers : ∀ check ∈ currentCliChecks phase, check.Answered commands
  tunnel : ∃ command ∈ commands, command.Printed ueTunnel (Text.Contains · "uesimtun0")

/-- What a passed check of the traffic has seen. -/
structure TrafficSucceeded (path : Path) (trace : List (Event Host)) : Prop where
  probe : ∃ command ∈ issued trace, command.Printed trafficTest fun _ => True
  evidence : ∃ text, (⟨.readText path, .ok text⟩ : Event Host) ∈ trace ∧
    Text.Contains text "USER_PLANE_SUCCESS"

variable {before after : Unit} {trace : List (Event Host)} {outcome : CommandOutcome}
  {findings : Findings}

theorem ofEnd_succeeds {args : List String} {timeout : ℕ} {ended : ProcessEnd}
    (ok : .ok outcome = CommandOutcome.ofEnd args timeout ended) (zero : outcome.returncode = 0) :
    ended = .exited 0 outcome.stdout outcome.stderr := by
  cases ended with
  | exited returncode stdout stderr =>
      simp only [CommandOutcome.ofEnd, Except.ok.injEq] at ok
      subst ok
      simp only at zero
      rw [zero]
  | timedOut stdout stderr =>
      simp only [CommandOutcome.ofEnd, Except.ok.injEq] at ok
      subst ok
      simp at zero
  | raised error => simp [CommandOutcome.ofEnd] at ok

/-- A command that succeeded was issued and printed its output. -/
theorem runCommand_printed (holds : String → Prop) {args : List String} {timeout : ℕ}
    {environment : List (String × String)}
    (runs : (runCommand args timeout environment).Runs before trace (.ok outcome) after)
    (zero : outcome.returncode = 0) (held : holds outcome.stdout) :
    ∃ command ∈ issued trace, command.Printed args holds := by
  rcases runCommand_issued runs with ⟨ended, commands, ok⟩
  rw [commands]
  exact ⟨_, List.mem_singleton_self _, rfl, _, _, ofEnd_succeeds ok zero, held⟩

theorem runUeransimCli_printed (holds : String → Prop) {service subcommand : String}
    {timeout : ℕ} {dump answer : CommandOutcome}
    (runs : (runUeransimCli service subcommand timeout).Runs before trace
      (.ok (dump, answer)) after)
    (zero : answer.returncode = 0) (held : holds answer.stdout) :
    ∃ node, ∃ command ∈ issued trace,
      command.Printed (cliExec service node subcommand) holds := by
  rw [runUeransimCli, runs_bind_ok_iff] at runs
  rcases runs with ⟨first, dump', _, rest, rfl, dumped, runs⟩
  split at runs
  · rw [runs_pure_iff, Except.ok.injEq, Prod.mk.injEq] at runs
    rcases runs with ⟨_, ⟨_, rfl⟩, _⟩
    simp only [CommandOutcome.noNode] at zero
    split at zero
    · simp at zero
    case isFalse nonzero => exact absurd zero nonzero
  · rename_i node _
    rw [runs_bind_ok_iff] at runs
    rcases runs with ⟨second, answer', _, _, rfl, answered, runs⟩
    rw [runs_pure_iff, Except.ok.injEq, Prod.mk.injEq] at runs
    rcases runs with ⟨rfl, ⟨_, rfl⟩, _⟩
    rcases runCommand_printed holds answered zero held with ⟨command, member, printed⟩
    exact ⟨node, command, by simp [member], printed⟩

/-- An assertion of that name, which passes or fails. -/
structure AssertionResult.Tells (assertion : AssertionResult) (name : String) : Prop where
  name_eq : assertion.name = name
  decided : assertion.status = .pass ∨ assertion.status = .fail

/-- Assertions that tell of their names pass or fail. -/
theorem decided_of_tells {assertions : List AssertionResult} {names : List String}
    (tells : List.Forall₂ AssertionResult.Tells assertions names) :
    ∀ assertion ∈ assertions, assertion.status = .pass ∨ assertion.status = .fail := by
  induction tells with
  | nil => simp
  | cons first _ ih => exact List.forall_mem_cons.mpr ⟨first.decided, ih⟩

theorem stateAssertion_tells (name expected observed : String) (passed : Bool) :
    (stateAssertion name passed expected observed).Tells name := by
  constructor
  · exact stateAssertion_name _ _ _ _
  · cases passed <;> simp

theorem stateAssertion_pass_iff {name expected observed : String} {passed : Bool} :
    (stateAssertion name passed expected observed).status = .pass ↔ passed = true := by
  cases passed <;> simp

/-- One answer of a node, and the assertion about it. -/
theorem cliCheck_runs {check : CliCheck} {outputDir : Path} {timeout : ℕ}
    (runs : (check.make outputDir timeout).Runs before trace (.ok findings) after) :
    ∃ assertion, findings.assertions = [assertion] ∧ assertion.Tells check.name ∧
      (assertion.status = .pass → check.Answered (issued trace)) := by
  rw [CliCheck.make, runs_bind_ok_iff] at runs
  rcases runs with ⟨first, ⟨dump, answer⟩, _, _, rfl, asked, runs⟩
  rw [runs_bind_ok_iff] at runs
  rcases runs with ⟨second, _, _, _, rfl, written, runs⟩
  rw [runs_pure_iff, Except.ok.injEq] at runs
  rcases runs with ⟨rfl, rfl, _⟩
  refine ⟨check.assertion answer, rfl, stateAssertion_tells _ _ _ _, fun passed => ?_⟩
  rw [CliCheck.assertion, stateAssertion_pass_iff, CliCheck.holds, Bool.and_eq_true,
    decide_eq_true_iff] at passed
  rcases runUeransimCli_printed (check.pattern.search · = true) asked passed.1 passed.2 with
    ⟨node, command, member, printed⟩
  exact ⟨node, command, by simp [member], printed⟩

theorem CliCheck.Answered.mono {check : CliCheck} {commands more : List HostCommand}
    (answered : check.Answered commands) (within : commands ⊆ more) : check.Answered more := by
  rcases answered with ⟨node, command, member, printed⟩
  exact ⟨node, command, within member, printed⟩

theorem makeCliChecks_runs {outputDir : Path} {timeout : ℕ} {checks : List CliCheck}
    {results : List Findings}
    (runs : (makeCliChecks outputDir timeout checks).Runs before trace (.ok results) after) :
    List.Forall₂ AssertionResult.Tells (results.flatMap Findings.assertions)
        (checks.map CliCheck.name) ∧
      ((∀ assertion ∈ results.flatMap Findings.assertions, assertion.status = .pass) →
        ∀ check ∈ checks, check.Answered (issued trace)) := by
  induction checks generalizing trace results before with
  | nil =>
      rw [makeCliChecks, runs_pure_iff, Except.ok.injEq] at runs
      simp [runs.2.1]
  | cons check checks ih =>
      rw [makeCliChecks, runs_bind_ok_iff] at runs
      rcases runs with ⟨first, made, _, _, rfl, making, runs⟩
      rw [runs_bind_ok_iff] at runs
      rcases runs with ⟨second, more, _, _, rfl, makingMore, runs⟩
      rw [runs_pure_iff, Except.ok.injEq] at runs
      rcases runs with ⟨rfl, rfl, _⟩
      rcases cliCheck_runs making with ⟨assertion, made_eq, tells, answered⟩
      rcases ih makingMore with ⟨othersTell, others⟩
      constructor
      · rw [List.flatMap_cons, made_eq]
        exact .cons tells othersTell
      · intro passed
        simp only [List.flatMap_cons, made_eq, List.singleton_append,
          List.forall_mem_cons] at passed
        rw [List.forall_mem_cons]
        refine ⟨(answered passed.1).mono (by simp), fun other member => ?_⟩
        exact (others passed.2 other member).mono (by simp)

/-- The services that were not found missing run. -/
theorem findMissing_runs {timeout : ℕ} {services : List String}
    {found : List CommandOutcome × List String}
    (runs : (findMissing timeout services).Runs before trace (.ok found) after)
    (none : found.2 = []) : ∀ service ∈ services, ∃ command ∈ issued trace,
      command.Printed (psRunning service) (Text.strip · ≠ "") := by
  induction services generalizing trace found before with
  | nil => simp
  | cons service services ih =>
      rw [findMissing, runs_bind_ok_iff] at runs
      rcases runs with ⟨first, asked, _, _, rfl, asking, runs⟩
      rw [runs_bind_ok_iff] at runs
      rcases runs with ⟨second, ⟨outcomes, missing⟩, _, _, rfl, more, runs⟩
      simp only [runs_pure_iff, Except.ok.injEq] at runs
      rcases runs with ⟨rfl, rfl, _⟩
      dsimp only at none
      split at none
      · simp at none
      case isFalse present =>
        push Not at present
        rw [List.forall_mem_cons]
        constructor
        · rcases runCommand_printed (Text.strip · ≠ "") asking present.1 present.2 with
            ⟨command, member, printed⟩
          exact ⟨command, by simp [member], printed⟩
        · intro other member
          rcases ih more none other member with ⟨command, member, printed⟩
          exact ⟨command, by simp [member], printed⟩

/-- The names of the assertions about the current state. -/
def currentNames (phase : String) : List String :=
  [phase ++ ":required_lab_services_running", phase ++ ":n2_ready", phase ++ ":ue_registered",
    phase ++ ":pdu_session_active", phase ++ ":ue_tunnel_exists"]

theorem checkServices_runs {outputDir : Path} {timeout : ℕ} {phase : String}
    (runs : (checkServices outputDir timeout phase).Runs before trace (.ok findings) after) :
    ∃ assertion, findings.assertions = [assertion] ∧
      assertion.Tells (phase ++ ":required_lab_services_running") ∧
      (assertion.status = .pass → ∀ service ∈ requiredRuntimeServices,
        ∃ command ∈ issued trace, command.Printed (psRunning service) (Text.strip · ≠ "")) := by
  rw [checkServices, runs_bind_ok_iff] at runs
  rcases runs with ⟨first, listed, _, _, rfl, listing, runs⟩
  rw [runs_bind_ok_iff] at runs
  rcases runs with ⟨second, _, _, _, rfl, writing, runs⟩
  rw [runs_bind_ok_iff] at runs
  rcases runs with ⟨third, ⟨outcomes, missing⟩, _, _, rfl, asking, runs⟩
  simp only [runs_pure_iff, Except.ok.injEq] at runs
  rcases runs with ⟨rfl, rfl, _⟩
  refine ⟨servicesAssertion phase missing, rfl, stateAssertion_tells _ _ _ _, ?_⟩
  intro passed service member
  rw [servicesAssertion, stateAssertion_pass_iff, decide_eq_true_iff] at passed
  rcases findMissing_runs asking passed service member with ⟨command, found, printed⟩
  exact ⟨command, by simp [found], printed⟩

theorem checkTunnel_runs {outputDir : Path} {timeout : ℕ} {phase : String}
    (runs : (checkTunnel outputDir timeout phase).Runs before trace (.ok findings) after) :
    ∃ assertion, findings.assertions = [assertion] ∧
      assertion.Tells (phase ++ ":ue_tunnel_exists") ∧
      (assertion.status = .pass →
        ∃ command ∈ issued trace, command.Printed ueTunnel (Text.Contains · "uesimtun0")) := by
  rw [checkTunnel, runs_bind_ok_iff] at runs
  rcases runs with ⟨first, tunnel, _, _, rfl, asking, runs⟩
  rw [runs_bind_ok_iff] at runs
  rcases runs with ⟨second, _, _, _, rfl, writing, runs⟩
  simp only [runs_pure_iff, Except.ok.injEq] at runs
  rcases runs with ⟨rfl, rfl, _⟩
  refine ⟨_, rfl, stateAssertion_tells _ _ _ _, fun passed => ?_⟩
  rw [stateAssertion_pass_iff, tunnelHolds, Bool.and_eq_true, decide_eq_true_iff,
    decide_eq_true_iff] at passed
  rcases runCommand_printed (Text.Contains · "uesimtun0") asking passed.1 passed.2 with
    ⟨command, member, printed⟩
  exact ⟨command, by simp [member], printed⟩

/-- The checks of the current state. -/
theorem checkCurrent_runs {outputDir : Path} {timeout : ℕ} {phase : String}
    (runs : (checkCurrent outputDir timeout phase).Runs before trace (.ok findings) after) :
    List.Forall₂ AssertionResult.Tells findings.assertions (currentNames phase) ∧
      ((∀ assertion ∈ findings.assertions, assertion.status = .pass) →
        CurrentState phase (issued trace)) := by
  rw [checkCurrent, runs_bind_ok_iff] at runs
  rcases runs with ⟨first, services, _, _, rfl, checkingServices, runs⟩
  rw [runs_bind_ok_iff] at runs
  rcases runs with ⟨second, answers, _, _, rfl, asking, runs⟩
  rw [runs_bind_ok_iff] at runs
  rcases runs with ⟨third, tunnel, _, _, rfl, checkingTunnel, runs⟩
  rw [runs_pure_iff, Except.ok.injEq] at runs
  rcases runs with ⟨rfl, rfl, _⟩
  rcases checkServices_runs checkingServices with ⟨services', services_eq, servicesTell, running⟩
  rcases makeCliChecks_runs asking with ⟨answersTell, answered⟩
  rcases checkTunnel_runs checkingTunnel with ⟨tunnel', tunnel_eq, tunnelTells, exists_⟩
  constructor
  · have all := List.rel_append (List.rel_append (.cons servicesTell .nil) answersTell)
      (List.Forall₂.cons tunnelTells .nil)
    simpa [Findings.concat, services_eq, tunnel_eq, currentNames, currentCliChecks] using all
  · intro passed
    simp only [Findings.concat, List.flatMap_append, List.flatMap_cons, List.flatMap_nil,
      List.append_nil, services_eq, tunnel_eq, List.forall_mem_append, List.forall_mem_singleton]
      at passed
    rcases passed with ⟨⟨servicesPassed, answersPassed⟩, tunnelPassed⟩
    constructor
    · intro service member
      rcases running servicesPassed service member with ⟨command, found, printed⟩
      exact ⟨command, by simp [found], printed⟩
    · intro check member
      exact (answered answersPassed check member).mono (by simp)
    · rcases exists_ tunnelPassed with ⟨command, found, printed⟩
      exact ⟨command, by simp [found], printed⟩

theorem trafficHolds_runs {path : Path} {traffic : CommandOutcome}
    (runs : (trafficHolds path traffic).Runs before trace (.ok true) after) :
    traffic.returncode = 0 ∧ ∃ text, (⟨.readText path, .ok text⟩ : Event Host) ∈ trace ∧
      Text.Contains text "USER_PLANE_SUCCESS" := by
  unfold trafficHolds at runs
  split at runs
  case isFalse => simp at runs
  case isTrue zero =>
    rw [runs_bind_ok_iff] at runs
    rcases runs with ⟨first, present, _, _, rfl, _, runs⟩
    cases present with
    | false => simp at runs
    | true =>
        simp only [if_true, runs_bind_ok_iff, runs_readText_iff, runs_pure_iff, Except.ok.injEq]
          at runs
        rcases runs with ⟨_, text, _, _, rfl, rfl, rfl, contained, _⟩
        exact ⟨zero, text, by simp, by simpa using contained.symm⟩

theorem checkTraffic_runs {outputDir : Path} {timeout : ℕ} {phase : String}
    (runs : (checkTraffic outputDir timeout phase).Runs before trace (.ok findings) after) :
    ∃ assertion, findings.assertions = [assertion] ∧
      assertion.Tells (phase ++ ":user_plane_dn_traffic") ∧
      (∃ command ∈ issued trace, command.args = trafficTest) ∧
      (assertion.status = .pass → TrafficSucceeded (trafficPath outputDir phase) trace) := by
  rw [checkTraffic, runs_bind_ok_iff] at runs
  rcases runs with ⟨first, traffic, _, _, rfl, probing, runs⟩
  rw [runs_bind_ok_iff] at runs
  rcases runs with ⟨second, held, _, _, rfl, reading, runs⟩
  simp only [runs_pure_iff, Except.ok.injEq] at runs
  rcases runs with ⟨rfl, rfl, _⟩
  rw [probeTraffic, runs_bind_ok_iff] at probing
  rcases probing with ⟨third, environment, _, fourth, rfl, _, probing⟩
  rcases runCommand_issued probing with ⟨ended, commands, _⟩
  refine ⟨_, rfl, stateAssertion_tells _ _ _ _,
    ⟨⟨trafficTest, environment, ended⟩, by simp [commands], rfl⟩,
    fun passed => ?_⟩
  rw [stateAssertion_pass_iff] at passed
  subst passed
  rcases trafficHolds_runs reading with ⟨zero, text, member, contained⟩
  constructor
  · rcases runCommand_printed (fun _ => True) probing zero trivial with ⟨command, found, printed⟩
    exact ⟨command, by simp [found], printed⟩
  · exact ⟨text, by simp [member], contained⟩

theorem ranHolds_iff {ran : CommandOutcome} :
    ranHolds ran = true ↔ ran.returncode = 0 ∧
      ∀ line, line ∈ Text.splitlines ran.stdout ↔ line ∈ ranRunning := by
  simp only [ranHolds, decide_eq_true_iff]
  constructor
  · rintro ⟨zero, only, all⟩
    exact ⟨zero, fun line => ⟨only line, all line⟩⟩
  · rintro ⟨zero, same⟩
    exact ⟨zero, fun line => (same line).mp, fun line => (same line).mpr⟩

theorem checkRan_runs {outputDir : Path} {timeout : ℕ} {phase : String}
    (runs : (checkRan outputDir timeout phase).Runs before trace (.ok findings) after) :
    ∃ assertion, findings.assertions = [assertion] ∧
      assertion.Tells (phase ++ ":final_ran_running_without_restarts") ∧
      (assertion.status = .pass → ∃ command ∈ issued trace, command.Printed inspectRan fun stdout =>
        ∀ line, line ∈ Text.splitlines stdout ↔ line ∈ ranRunning) := by
  rw [checkRan, runs_bind_ok_iff] at runs
  rcases runs with ⟨first, ran, _, _, rfl, asking, runs⟩
  rw [runs_bind_ok_iff] at runs
  rcases runs with ⟨second, _, _, _, rfl, writing, runs⟩
  simp only [runs_pure_iff, Except.ok.injEq] at runs
  rcases runs with ⟨rfl, rfl, _⟩
  refine ⟨_, rfl, stateAssertion_tells _ _ _ _, fun passed => ?_⟩
  rw [stateAssertion_pass_iff, ranHolds_iff] at passed
  rcases runCommand_printed
      (fun stdout => ∀ line, line ∈ Text.splitlines stdout ↔ line ∈ ranRunning)
      asking passed.1 passed.2 with
    ⟨command, found, printed⟩
  exact ⟨command, by simp [found], printed⟩

section

variable [JsonLibrary]

/-- What passed final checks have seen. -/
structure FinalHealth (rounds : ℕ) (phase : String) (trace : List (Event Host)) : Prop where
  core : ∃ earlier wait later result, trace = earlier ++ wait ++ later ∧
    (waitCoreReadyOnHost rounds).Runs () wait (.ok result) () ∧ result.passed = true
  answers : ∀ check ∈ finalCliChecks phase, check.Answered (issued trace)
  ran : ∃ command ∈ issued trace, command.Printed inspectRan fun stdout =>
    ∀ line, line ∈ Text.splitlines stdout ↔ line ∈ ranRunning

/-- The names of the final assertions. -/
def finalNames (phase : String) : List String :=
  [phase ++ ":final_core_ready", phase ++ ":final_gnb_status", phase ++ ":final_ue_status",
    phase ++ ":final_ue_ps-list", phase ++ ":final_ran_running_without_restarts"]

theorem checkCore_runs {rounds : ℕ} {outputDir : Path} {phase : String}
    (runs : (checkCore rounds outputDir phase).Runs before trace (.ok findings) after) :
    ∃ assertion, findings.assertions = [assertion] ∧
      assertion.Tells (phase ++ ":final_core_ready") ∧
      (assertion.status = .pass → ∃ wait later result, trace = wait ++ later ∧
        (waitCoreReadyOnHost rounds).Runs () wait (.ok result) () ∧ result.passed = true) := by
  rw [checkCore, runs_bind_ok_iff] at runs
  rcases runs with ⟨wait, core, _, _, rfl, waited, runs⟩
  rw [runs_bind_ok_iff] at runs
  rcases runs with ⟨second, _, _, _, rfl, writing, runs⟩
  simp only [runs_pure_iff, Except.ok.injEq] at runs
  rcases runs with ⟨rfl, rfl, _⟩
  refine ⟨_, rfl, stateAssertion_tells _ _ _ _, fun passed => ?_⟩
  rw [stateAssertion_pass_iff] at passed
  exact ⟨wait, _, core, rfl, waited, passed⟩

/-- The final checks. -/
theorem validateFinalHealth_runs {rounds : ℕ} {outputDir : Path} {timeout : ℕ} {phase : String}
    {health : RecoveryValidation}
    (runs : (validateFinalHealth rounds outputDir timeout phase).Runs before trace (.ok health)
      after) :
    List.Forall₂ AssertionResult.Tells health.assertions (finalNames phase) ∧
      ((∀ assertion ∈ health.assertions, assertion.status = .pass) →
        FinalHealth rounds phase trace) := by
  rw [validateFinalHealth, runs_bind_ok_iff] at runs
  rcases runs with ⟨first, started, _, _, rfl, starting, runs⟩
  rw [runs_bind_ok_iff] at runs
  rcases runs with ⟨second, core, _, _, rfl, waiting, runs⟩
  rw [runs_bind_ok_iff] at runs
  rcases runs with ⟨third, answers, _, _, rfl, asking, runs⟩
  rw [runs_bind_ok_iff] at runs
  rcases runs with ⟨fourth, ran, _, _, rfl, inspecting, runs⟩
  rw [runs_bind_ok_iff] at runs
  rcases runs with ⟨fifth, timing, _, _, rfl, timed, runs⟩
  rw [runs_pure_iff, Except.ok.injEq] at runs
  rcases runs with ⟨rfl, rfl, _⟩
  rcases checkCore_runs waiting with ⟨core', core_eq, coreTells, ready⟩
  rcases makeCliChecks_runs asking with ⟨answersTell, answered⟩
  rcases checkRan_runs inspecting with ⟨ran', ran_eq, ranTells, running⟩
  constructor
  · have all := List.rel_append (List.rel_append (.cons coreTells .nil) answersTell)
      (List.Forall₂.cons ranTells .nil)
    simpa [Findings.concat, core_eq, ran_eq, finalNames, finalCliChecks, finalCliCheck,
      String.append_assoc] using all
  · intro passed
    simp only [Findings.concat, List.flatMap_append, List.flatMap_cons, List.flatMap_nil,
      List.append_nil, core_eq, ran_eq, List.forall_mem_append, List.forall_mem_singleton]
      at passed
    rcases passed with ⟨⟨corePassed, answersPassed⟩, ranPassed⟩
    constructor
    · rcases ready corePassed with ⟨wait, later, result, rfl, waited, passed⟩
      exact ⟨first, wait, later ++ (third ++ (fourth ++ (fifth ++ []))), result, by simp, waited,
        passed⟩
    · intro check member
      exact (answered answersPassed check member).mono fun command found => by simp [found]
    · rcases running ranPassed with ⟨command, found, printed⟩
      exact ⟨command, by simp [found], printed⟩

/-- The names of all assertions of a validation. -/
def checkNames (phase : String) : List String :=
  currentNames phase ++ [phase ++ ":user_plane_dn_traffic"] ++ finalNames phase

/-- What a passed validation has seen: the current state, then the traffic, then
the final health. -/
structure LabChecked (rounds : ℕ) (outputDir : Path) (phase : String)
    (current probe final : List (Event Host)) : Prop where
  current : CurrentState phase (issued current)
  traffic : TrafficSucceeded (trafficPath outputDir phase) probe
  final : FinalHealth rounds phase final

/-- A run of the validation is a run of its parts, in order. -/
theorem validateCurrentBaseline_runs {rounds : ℕ} {outputDir : Path} {timeout : ℕ} {phase : String}
    {validation : RecoveryValidation}
    (runs : (validateCurrentBaseline rounds outputDir timeout phase).Runs before trace
      (.ok validation) after) :
    ∃ current probe final record findings traffic health,
      trace = current ++ probe ++ final ++ record ∧
      (checkCurrent outputDir timeout phase).Runs () current (.ok findings) () ∧
      (checkTraffic outputDir timeout phase).Runs () probe (.ok traffic) () ∧
      (validateFinalHealth rounds outputDir timeout phase).Runs () final (.ok health) () ∧
      issued record = [] ∧
      validation.status = scenarioStatus validation.assertions ∧
      List.Forall₂ AssertionResult.Tells validation.assertions (checkNames phase) ∧
      ((∀ assertion ∈ validation.assertions, assertion.status = .pass) →
        LabChecked rounds outputDir phase current probe final) := by
  rw [validateCurrentBaseline, runs_bind_ok_iff] at runs
  rcases runs with ⟨current, findings, _, _, rfl, checking, runs⟩
  rw [runs_bind_ok_iff] at runs
  rcases runs with ⟨probe, traffic, _, _, rfl, probing, runs⟩
  rw [runs_bind_ok_iff] at runs
  rcases runs with ⟨final, health, _, _, rfl, finishing, runs⟩
  rw [runs_bind_ok_iff] at runs
  rcases runs with ⟨record, _, _, _, rfl, writing, runs⟩
  rw [runs_pure_iff, Except.ok.injEq] at runs
  rcases runs with ⟨rfl, rfl, _⟩
  rcases checkCurrent_runs checking with ⟨currentTells, currentState⟩
  rcases checkTraffic_runs probing with ⟨assertion, traffic_eq, trafficTells, _, succeeded⟩
  rcases validateFinalHealth_runs finishing with ⟨finalTells, finalHealth⟩
  refine ⟨current, probe, final, record, findings, traffic, health, by simp, checking, probing,
    finishing, (issues_writeText _ _).silent writing, rfl, ?_, ?_⟩
  · rw [traffic_eq]
    exact List.rel_append (List.rel_append currentTells (.cons trafficTells .nil)) finalTells
  · intro passed
    simp only [traffic_eq, List.forall_mem_append, List.forall_mem_singleton] at passed
    exact ⟨currentState passed.1.1, succeeded passed.1.2, finalHealth passed.2⟩

end

end FivegLab
