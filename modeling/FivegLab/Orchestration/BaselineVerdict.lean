import FivegLab.Orchestration.Baseline
import FivegLab.Orchestration.PassedChecks

/-!
# The verdict of a baseline run

In which order a baseline run issues its commands, and what its result says of
them.  A run of the startup ends in one of four ways; all results go through
these.
-/

namespace FivegLab

open Routine Host

/-- Whenever a command of the first kind is issued, the commands before it have a
property. -/
def Preceded (commands : List HostCommand) (later : HostCommand → Prop)
    (earlier : List HostCommand → Prop) : Prop :=
  ∀ before command after, commands = before ++ command :: after → later command → earlier before

theorem preceded_of_none {commands : List HostCommand} {later : HostCommand → Prop}
    {earlier : List HostCommand → Prop} (none : ∀ command ∈ commands, ¬later command) :
    Preceded commands later earlier := by
  rintro before command after rfl isLater
  exact absurd isLater (none command (by simp))

/-- It is enough that a first part has no such command, and has the property. -/
theorem preceded_of_first {first rest : List HostCommand} {later : HostCommand → Prop}
    {earlier : List HostCommand → Prop} (none : ∀ command ∈ first, ¬later command)
    (holds : earlier first)
    (grows : ∀ before more : List HostCommand, before <+: more → earlier before → earlier more) :
    Preceded (first ++ rest) later earlier := by
  intro before command after split isLater
  have absent : command ∉ first := fun member => none command member isLater
  exact grows first before (prefix_of_split split absent) holds

/-- The commands of the preparation. -/
def preparationCommands : List (List String) :=
  [collectLogs, stopRan, startLab, addSubscriber, startGnb]

/-- The commands whose failure is an error of the run. -/
def startupCommands : List (List String) := preparationCommands ++ [startUe]

/-- A command of the startup that did not exit with zero. -/
def HostCommand.FailedStage (command : HostCommand) : Prop :=
  command.args ∈ startupCommands ∧ ¬command.Succeeded

/-- The preparation succeeded, and later the gNB answered that it is connected. -/
def Prepared (commands : List HostCommand) : Prop :=
  ∃ stages answer, (stages ++ [answer]).Sublist commands ∧
    List.Forall₂ (fun args command => command.args = args ∧ command.Succeeded)
      preparationCommands stages ∧
    ∃ node, answer.Printed (cliExec "gnb" node "status") ((ngapUp false true).search · = true)

/-- A command of neither the startup, the traffic probe nor the final checks. -/
def Neutral (args : List String) : Prop :=
  args ∉ startupCommands ∧ args ≠ trafficTest ∧ args ≠ listCore ∧ args ≠ inspectRan

theorem neutral_of_cliCommand {args : List String} (cli : CliCommand args) : Neutral args := by
  rcases cli with ⟨service, rfl | ⟨node, subcommand, rfl⟩⟩
  · simp [Neutral, cliDump, startupCommands, preparationCommands, collectLogs, stopRan, startLab,
      addSubscriber, startGnb, startUe, recreate, trafficTest, listCore, inspectRan]
  · simp [Neutral, cliExec, startupCommands, preparationCommands, collectLogs, stopRan, startLab,
      addSubscriber, startGnb, startUe, recreate, trafficTest, listCore, inspectRan]

theorem neutral_of_currentCommand {args : List String} (current : CurrentCommand args) :
    Neutral args := by
  rcases current with rfl | ⟨service, rfl⟩ | cli | rfl
  · simp [Neutral, composePs, startupCommands, preparationCommands, collectLogs, stopRan, startLab,
      addSubscriber, startGnb, startUe, recreate, trafficTest, listCore, inspectRan]
  · simp [Neutral, psRunning, startupCommands, preparationCommands, collectLogs, stopRan, startLab,
      addSubscriber, startGnb, startUe, recreate, trafficTest, listCore, inspectRan]
  · exact neutral_of_cliCommand cli
  · simp [Neutral, ueTunnel, startupCommands, preparationCommands, collectLogs, stopRan, startLab,
      addSubscriber, startGnb, startUe, recreate, trafficTest, listCore, inspectRan]

/-- A final command belongs neither to the startup nor to the traffic probe. -/
theorem not_startup_of_finalCommand {args : List String} (final : FinalCommand args) :
    args ∉ startupCommands ∧ args ≠ trafficTest := by
  rcases final with (rfl | ⟨rest, rfl⟩ | ⟨rest, rfl⟩) | cli | rfl
  · simp [listCore, startupCommands, preparationCommands, collectLogs, stopRan, startLab,
      addSubscriber, startGnb, startUe, recreate, trafficTest]
  · simp [startupCommands, preparationCommands, collectLogs, stopRan, startLab, addSubscriber,
      startGnb, startUe, recreate, trafficTest]
  · simp [startupCommands, preparationCommands, collectLogs, stopRan, startLab, addSubscriber,
      startGnb, startUe, recreate, trafficTest]
  · exact ⟨(neutral_of_cliCommand cli).1, (neutral_of_cliCommand cli).2.1⟩
  · simp [inspectRan, startupCommands, preparationCommands, collectLogs, stopRan, startLab,
      addSubscriber, startGnb, startUe, recreate, trafficTest]

variable {before after : Unit} {trace : List (Event Host)}

theorem runCommand_succeeded_iff {args : List String} {timeout : ℕ}
    {environment : List (String × String)} {outcome : CommandOutcome}
    (runs : (runCommand args timeout environment).Runs before trace (.ok outcome) after) :
    ∃ ended, issued trace = [⟨args, environment, ended⟩] ∧
      ((⟨args, environment, ended⟩ : HostCommand).Succeeded ↔ outcome.returncode = 0) := by
  rcases runCommand_issued runs with ⟨ended, commands, ok⟩
  refine ⟨ended, commands, ?_⟩
  constructor
  · rintro ⟨stdout, stderr, rfl⟩
    simp only [CommandOutcome.ofEnd, Except.ok.injEq] at ok
    rw [ok]
  · intro zero
    exact ⟨_, _, ofEnd_succeeds ok zero⟩

/-- The command of a stage. -/
def HostCommand.Serves (command : HostCommand)
    (stage : List String × List (String × String)) : Prop :=
  command.args = stage.1 ∧ command.environment = stage.2

/-- The stages are run in order, up to the first that fails. -/
theorem runStages_runs {timeout : ℕ} {stages : List (List String × List (String × String))}
    {ended : List CommandOutcome × Bool}
    (runs : (runStages timeout stages).Runs before trace (.ok ended) after) :
    (∀ command ∈ issued trace, ∃ stage ∈ stages, command.Serves stage) ∧
    (ended.2 = true → ∃ command ∈ issued trace, ¬command.Succeeded) ∧
    (ended.2 = false → List.Forall₂ (fun stage command => command.Serves stage ∧ command.Succeeded)
      stages (issued trace)) := by
  induction stages generalizing trace ended before with
  | nil =>
      rw [runStages, runs_pure_iff, Except.ok.injEq] at runs
      rcases runs with ⟨rfl, rfl, _⟩
      simp
  | cons stage stages ih =>
      rcases stage with ⟨args, environment⟩
      rw [runStages, runs_bind_ok_iff] at runs
      rcases runs with ⟨first, outcome, _, _, rfl, running, runs⟩
      rcases runCommand_succeeded_iff running with ⟨end_, commands, succeeded⟩
      split at runs
      case isTrue failed =>
        rw [runs_pure_iff, Except.ok.injEq] at runs
        rcases runs with ⟨rfl, rfl, _⟩
        have notSucceeded := mt succeeded.mp failed
        simp [commands, notSucceeded, HostCommand.Serves]
      case isFalse zero =>
        rw [ne_eq, not_not] at zero
        rw [runs_bind_ok_iff] at runs
        rcases runs with ⟨second, ⟨outcomes, failed⟩, _, _, rfl, more, runs⟩
        simp only [runs_pure_iff, Except.ok.injEq] at runs
        rcases runs with ⟨rfl, rfl, _⟩
        rcases ih more with ⟨served, failing, succeeding⟩
        simp only [issued_append, commands, List.append_nil, List.singleton_append,
          List.forall_mem_cons]
        refine ⟨⟨⟨_, List.mem_cons_self, rfl, rfl⟩, ?_⟩, ?_, ?_⟩
        · intro command member
          rcases served command member with ⟨stage, found, serves⟩
          exact ⟨stage, List.mem_cons_of_mem _ found, serves⟩
        · intro isFailed
          rcases failing isFailed with ⟨command, member, failed⟩
          exact ⟨command, List.mem_cons_of_mem _ member, failed⟩
        · intro isFine
          exact .cons ⟨⟨rfl, rfl⟩, succeeded.mpr zero⟩ (succeeding isFine)

theorem preparation_args (priorLogs : List (String × String)) :
    (preparation priorLogs).map Prod.fst = preparationCommands := rfl

/-- What a run of the preparation issues. -/
structure PreparationRun (commands : List HostCommand) (failed : Bool) : Prop where
  known : ∀ command ∈ commands, command.args ∈ preparationCommands
  since : ∀ command ∈ commands, command.args = collectLogs →
    command.environment.lookup "SINCE" = some ""
  failing : failed = true → ∃ command ∈ commands, ¬command.Succeeded
  succeeding : failed = false →
    List.Forall₂ (fun args command => command.args = args ∧ command.Succeeded)
      preparationCommands commands

theorem prepare_runs {timeout : ℕ} {outputDir : Path} {ended : List CommandOutcome × Bool}
    (runs : (prepare timeout outputDir).Runs before trace (.ok ended) after) :
    PreparationRun (issued trace) ended.2 := by
  rw [prepare, runs_bind_ok_iff] at runs
  rcases runs with ⟨first, environment, _, second, rfl, resolving, runs⟩
  rw [collectionEnvironment, runs_bind_ok_iff] at resolving
  rcases resolving with ⟨_, out, _, _, rfl, resolved, pure⟩
  rw [runs_pure_iff, Except.ok.injEq] at pure
  rcases runs_resolve_iff.mp resolved with ⟨_, rfl, _⟩
  rcases pure with ⟨rfl, rfl, _⟩
  rcases runStages_runs runs with ⟨served, failing, succeeding⟩
  simp only [issued_append, issued_cons, Event.issued, Option.toList_none, issued_nil,
    List.append_nil, List.nil_append]
  constructor
  · intro command member
    rcases served command member with ⟨stage, found, args, _⟩
    rw [args]
    simp only [preparation, List.mem_cons, List.not_mem_nil, or_false] at found
    rcases found with rfl | rfl | rfl | rfl | rfl <;> simp [preparationCommands]
  · intro command member collects
    rcases served command member with ⟨stage, found, args, sameEnvironment⟩
    rw [sameEnvironment]
    simp only [preparation, List.mem_cons, List.not_mem_nil, or_false] at found
    rcases found with rfl | rfl | rfl | rfl | rfl
    · rfl
    all_goals
      rw [args] at collects
      simp [collectLogs, stopRan, startLab, addSubscriber, startGnb, recreate] at collects
  · exact failing
  · intro fine
    rw [← preparation_args [("OUT_DIR", out.text), ("SINCE", "")], List.forall₂_map_left_iff]
    exact (succeeding fine).imp fun _ _ stage => ⟨stage.1.1, stage.2⟩

theorem issues_waitForNgSetup (rounds : ℕ) (timeout : ℚ) :
    Issues CliCommand (waitForNgSetup rounds timeout) := by
  refine Issues.bind (issues_call trivial) fun started => ?_
  generalize "NG Setup did not become ready before the deadline" = observed
  generalize started + timeout = deadline
  induction rounds generalizing observed with
  | zero => exact calls_unfinished
  | succ rounds ih =>
      refine Issues.bind (issues_call trivial) fun now => Issues.ite (Issues.pure _) ?_
      refine Issues.bind (issues_runUeransimCli _ _ _) fun _ => Issues.ite (Issues.pure _) ?_
      refine Issues.bind (issues_call trivial) fun _ => Issues.bind (issues_sleep _) fun _ => ?_
      exact Issues.bind (ih _) fun _ => Issues.pure _

/-- The gNB answered that it is connected. -/
def GnbConnected (commands : List HostCommand) : Prop :=
  ∃ node, ∃ command ∈ commands,
    command.Printed (cliExec "gnb" node "status") ((ngapUp false true).search · = true)

theorem setupAssertion_tells (passed : Bool) (observed : String) :
    (setupAssertion passed observed).Tells "baseline:initial_ng_setup" :=
  stateAssertion_tells _ _ _ _

theorem pollNgSetup_runs {rounds : ℕ} {deadline : ℚ} {observed : String}
    {ended : List CommandOutcome × AssertionResult}
    (runs : (pollNgSetup deadline rounds observed).Runs before trace (.ok ended) after) :
    ended.2.Tells "baseline:initial_ng_setup" ∧
      (ended.2.status = .pass → GnbConnected (issued trace)) := by
  induction rounds generalizing trace observed ended before with
  | zero => exact absurd runs not_runs_unfinished
  | succ rounds ih =>
      rw [pollNgSetup, runs_bind_ok_iff] at runs
      rcases runs with ⟨first, now, _, _, rfl, clock, runs⟩
      split at runs
      case isTrue =>
        rw [runs_pure_iff, Except.ok.injEq] at runs
        rcases runs with ⟨rfl, rfl, _⟩
        refine ⟨setupAssertion_tells false observed, fun passed => ?_⟩
        rw [setupAssertion, stateAssertion_pass_iff] at passed
        exact absurd passed (by simp)
      case isFalse =>
        rw [runs_bind_ok_iff] at runs
        rcases runs with ⟨second, ⟨dump, answer⟩, _, _, rfl, asking, runs⟩
        dsimp only at runs
        split at runs
        case isTrue held =>
          rw [runs_pure_iff, Except.ok.injEq] at runs
          rcases runs with ⟨rfl, rfl, _⟩
          refine ⟨setupAssertion_tells true answer.saying, fun _ => ?_⟩
          rw [setupHolds, Bool.and_eq_true, decide_eq_true_iff] at held
          rcases runUeransimCli_printed ((ngapUp false true).search · = true) asking held.1 held.2
            with ⟨node, command, found, printed⟩
          exact ⟨node, command, by simp [found], printed⟩
        case isFalse =>
          rw [runs_bind_ok_iff] at runs
          rcases runs with ⟨third, now, _, _, rfl, clock, runs⟩
          rw [runs_bind_ok_iff] at runs
          rcases runs with ⟨fourth, _, _, _, rfl, sleeping, runs⟩
          rw [runs_bind_ok_iff] at runs
          rcases runs with ⟨fifth, ⟨outcomes, ready⟩, _, _, rfl, more, runs⟩
          simp only [runs_pure_iff, Except.ok.injEq] at runs
          rcases runs with ⟨rfl, rfl, _⟩
          rcases ih more with ⟨tells, connected⟩
          refine ⟨tells, fun passed => ?_⟩
          rcases connected passed with ⟨node, command, found, printed⟩
          exact ⟨node, command, by simp [found], printed⟩

theorem waitForNgSetup_runs {rounds : ℕ} {timeout : ℚ}
    {ended : List CommandOutcome × AssertionResult}
    (runs : (waitForNgSetup rounds timeout).Runs before trace (.ok ended) after) :
    ended.2.Tells "baseline:initial_ng_setup" ∧
      (ended.2.status = .pass → GnbConnected (issued trace)) := by
  rw [waitForNgSetup, runs_bind_ok_iff] at runs
  rcases runs with ⟨first, started, _, second, rfl, clock, runs⟩
  rcases runs_monotonic_iff.mp clock with ⟨_, rfl, _⟩
  simpa using pollNgSetup_runs runs

/-- A command of the startup before the UE. -/
def Quiet (args : List String) : Prop :=
  args ≠ startUe ∧ args ≠ trafficTest ∧ args ≠ listCore ∧ args ≠ inspectRan

/-- What is issued before the UE starts, or when it never does. -/
structure EarlyRun (commands : List HostCommand) : Prop where
  quiet : ∀ command ∈ commands, Quiet command.args
  since : ∀ command ∈ commands, command.args = collectLogs →
    command.environment.lookup "SINCE" = some ""

theorem PreparationRun.quiet {commands : List HostCommand} {failed : Bool}
    (prepared : PreparationRun commands failed) : ∀ command ∈ commands, Quiet command.args := by
  intro command member
  have known := prepared.known command member
  generalize command.args = args at known
  simp only [preparationCommands, List.mem_cons, List.not_mem_nil, or_false] at known
  rcases known with rfl | rfl | rfl | rfl | rfl <;> simp only [Quiet] <;> decide

theorem PreparationRun.early {commands : List HostCommand} {failed : Bool}
    (prepared : PreparationRun commands failed) : EarlyRun commands :=
  ⟨prepared.quiet, prepared.since⟩

theorem PreparationRun.failedStage {commands : List HostCommand}
    (prepared : PreparationRun commands true) : ∃ command ∈ commands, command.FailedStage := by
  rcases prepared.failing rfl with ⟨command, member, failed⟩
  exact ⟨command, member, List.mem_append_left _ (prepared.known command member), failed⟩

theorem PreparationRun.all_succeeded {commands : List HostCommand}
    (prepared : PreparationRun commands false) : ∀ command ∈ commands, command.Succeeded := by
  intro command member
  rcases List.getElem_of_mem member with ⟨index, bound, rfl⟩
  have all := prepared.succeeding rfl
  have length := all.length_eq
  exact (all.get (by omega) bound).2

section

variable {preparation setup : List HostCommand}

/-- The preparation and the questions to the gNB come before the UE. -/
theorem early_of_asked (prepared : PreparationRun preparation false)
    (asked : ∀ command ∈ setup, CliCommand command.args) : EarlyRun (preparation ++ setup) := by
  constructor
  · refine List.forall_mem_append.mpr ⟨prepared.quiet, fun command member => ?_⟩
    rcases neutral_of_cliCommand (asked command member) with ⟨notStartup, others⟩
    refine ⟨?_, others⟩
    rintro startsUe
    exact notStartup (by simp [startsUe, startupCommands])
  · refine List.forall_mem_append.mpr ⟨prepared.since, fun command member collects => ?_⟩
    have notStartup := (neutral_of_cliCommand (asked command member)).1
    exact absurd (by simp [collects, startupCommands, preparationCommands]) notStartup

theorem fine_of_asked (prepared : PreparationRun preparation false)
    (asked : ∀ command ∈ setup, CliCommand command.args) :
    ∀ command ∈ preparation ++ setup, ¬command.FailedStage := by
  refine List.forall_mem_append.mpr
    ⟨fun command member failed => ?_, fun command member failed => ?_⟩
  · exact failed.2 (prepared.all_succeeded command member)
  · exact (neutral_of_cliCommand (asked command member)).1 failed.1

/-- They prepare the start of the UE, when the gNB answers that it is connected. -/
theorem prepared_of_connected (prepared : PreparationRun preparation false)
    (connected : GnbConnected setup) : Prepared (preparation ++ setup) := by
  rcases connected with ⟨node, answer, member, printed⟩
  refine ⟨preparation, answer, ?_, prepared.succeeding rfl, node, printed⟩
  exact (List.Sublist.refl _).append (List.singleton_sublist.mpr member)

theorem Prepared.of_prefix {first more : List HostCommand} (extended : first <+: more)
    (prepared : Prepared first) : Prepared more := by
  rcases prepared with ⟨stages, answer, within, succeeded, answered⟩
  exact ⟨stages, answer, within.trans extended.sublist, succeeded, answered⟩

end

section

variable [JsonLibrary]

/-- The ways in which the startup ends: with its trace, the assertions that it
made, and whether a stage or the start of the UE failed. -/
inductive StartupRun (rounds timeout : ℕ) (outputDir : Path) :
    List (Event Host) → List AssertionResult → Bool → Prop
  | unprepared {trace : List (Event Host)} (early : EarlyRun (issued trace))
      (failing : ∃ command ∈ issued trace, command.FailedStage) :
      StartupRun rounds timeout outputDir trace [] true
  | notReady {trace : List (Event Host)} {ready : AssertionResult} (early : EarlyRun (issued trace))
      (fine : ∀ command ∈ issued trace, ¬command.FailedStage) (failed : ready.status = .fail) :
      StartupRun rounds timeout outputDir trace [ready] false
  | ueFailed {first start : List (Event Host)} {ready : AssertionResult} {ue : HostCommand}
      (early : EarlyRun (issued first)) (prepared : Prepared (issued first))
      (issued_start : issued start = [ue]) (startsUe : ue.args = startUe) (failed : ¬ue.Succeeded) :
      StartupRun rounds timeout outputDir (first ++ start) [ready] true
  | checked {first start live : List (Event Host)} {ready : AssertionResult} {ue : HostCommand}
      {validation : RecoveryValidation} (early : EarlyRun (issued first))
      (fine : ∀ command ∈ issued first, ¬command.FailedStage) (prepared : Prepared (issued first))
      (tells : ready.Tells "baseline:initial_ng_setup") (passed : ready.status = .pass)
      (issued_start : issued start = [ue]) (startsUe : ue.args = startUe) (succeeded : ue.Succeeded)
      (validating : (validateCurrentBaseline rounds outputDir (min 30 timeout) "baseline").Runs ()
        live (.ok validation) ()) :
      StartupRun rounds timeout outputDir (first ++ start ++ live) (ready :: validation.assertions)
        false

theorem bringUpUe_runs {rounds timeout : ℕ} {outputDir : Path} {settleSeconds : ℤ}
    {first : List (Event Host)} {ready : AssertionResult} {startup : Startup}
    (early : EarlyRun (issued first)) (fine : ∀ command ∈ issued first, ¬command.FailedStage)
    (prepared : Prepared (issued first)) (tells : ready.Tells "baseline:initial_ng_setup")
    (passed : ready.status = .pass)
    (runs : (bringUpUe rounds timeout outputDir settleSeconds).Runs before trace
      (.ok startup) after) :
    StartupRun rounds timeout outputDir (first ++ trace) (ready :: startup.assertions)
      startup.failed := by
  rw [bringUpUe, runs_bind_ok_iff] at runs
  rcases runs with ⟨start, ue, _, _, rfl, starting, runs⟩
  rcases runCommand_succeeded_iff starting with ⟨ended, issued_start, succeeded⟩
  split at runs
  case isTrue failed =>
    rw [runs_pure_iff, Except.ok.injEq] at runs
    rcases runs with ⟨rfl, rfl, _⟩
    rw [List.append_nil]
    exact .ueFailed early prepared issued_start rfl (mt succeeded.mp failed)
  case isFalse zero =>
    rw [ne_eq, not_not] at zero
    rw [runs_bind_ok_iff] at runs
    rcases runs with ⟨slept, _, _, _, rfl, sleeping, runs⟩
    rw [runs_bind_ok_iff] at runs
    rcases runs with ⟨live, validation, _, _, rfl, validating, runs⟩
    rw [runs_pure_iff, Except.ok.injEq] at runs
    rcases runs with ⟨rfl, rfl, _⟩
    have silent : issued slept = [] := (issues_sleep _).silent sleeping
    have issued_started : issued (start ++ slept) = [⟨startUe, [], ended⟩] := by
      simp [issued_start, silent]
    have run := StartupRun.checked early fine prepared tells passed issued_started rfl
      (succeeded.mpr zero) validating
    simpa using run

theorem bringUpRan_runs {rounds timeout : ℕ} {outputDir : Path} {settleSeconds : ℤ}
    {preparation : List (Event Host)} {startup : Startup}
    (prepared : PreparationRun (issued preparation) false)
    (runs : (bringUpRan rounds timeout outputDir settleSeconds).Runs before trace (.ok startup)
      after) :
    StartupRun rounds timeout outputDir (preparation ++ trace) startup.assertions
      startup.failed := by
  rw [bringUpRan, runs_bind_ok_iff] at runs
  rcases runs with ⟨waited, ⟨answers, ready⟩, _, _, rfl, waiting, runs⟩
  rw [runs_bind_ok_iff] at runs
  rcases runs with ⟨recorded, _, _, _, rfl, recording, runs⟩
  have silent : issued recorded = [] := (issues_writeText _ _).silent recording
  have issued_first : issued (preparation ++ waited ++ recorded) =
      issued preparation ++ issued waited := by
    simp [silent]
  have asked := (issues_waitForNgSetup rounds _).of_runs waiting
  have early := early_of_asked prepared asked
  have fine := fine_of_asked prepared asked
  rcases waitForNgSetup_runs waiting with ⟨tells, connected⟩
  rw [← issued_first] at early fine
  dsimp only at runs tells connected
  split at runs
  case isFalse notReady =>
    rw [runs_pure_iff, Except.ok.injEq] at runs
    rcases runs with ⟨rfl, rfl, _⟩
    have run : StartupRun rounds timeout outputDir (preparation ++ waited ++ recorded) [ready]
        false :=
      .notReady early fine (tells.decided.resolve_left notReady)
    simpa using run
  case isTrue passed =>
    have connectedFirst := prepared_of_connected prepared (connected passed)
    rw [← issued_first] at connectedFirst
    rw [runs_bind_ok_iff] at runs
    rcases runs with ⟨up, startup, _, _, rfl, starting, runs⟩
    rw [runs_pure_iff, Except.ok.injEq] at runs
    rcases runs with ⟨rfl, rfl, _⟩
    have run := bringUpUe_runs early fine connectedFirst tells passed starting
    simpa using run

theorem startBaseline_runs {rounds timeout : ℕ} {outputDir : Path} {settleSeconds : ℤ}
    {startup : Startup}
    (runs : (startBaseline rounds timeout outputDir settleSeconds).Runs before trace (.ok startup)
      after) :
    StartupRun rounds timeout outputDir trace startup.assertions startup.failed := by
  rw [startBaseline, runs_bind_ok_iff] at runs
  rcases runs with ⟨preparation, ⟨outcomes, failed⟩, _, _, rfl, preparing, runs⟩
  have prepared := prepare_runs preparing
  dsimp only at runs prepared
  split at runs
  case isTrue isFailed =>
    subst isFailed
    rw [runs_pure_iff, Except.ok.injEq] at runs
    rcases runs with ⟨rfl, rfl, _⟩
    rw [List.append_nil]
    exact .unprepared prepared.early prepared.failedStage
  case isFalse isPrepared =>
    rw [Bool.not_eq_true] at isPrepared
    subst isPrepared
    rw [runs_bind_ok_iff] at runs
    rcases runs with ⟨ran, startup, _, _, rfl, bringing, runs⟩
    rw [runs_pure_iff, Except.ok.injEq] at runs
    rcases runs with ⟨rfl, rfl, _⟩
    simpa using bringUpRan_runs prepared bringing

section

variable {rounds timeout : ℕ} {outputDir : Path} {assertions : List AssertionResult} {failed : Bool}
  {collected : HostCommand}

/-- The commands of the checks, by their parts. -/
theorem validating_issued {timeout : ℕ} {phase : String} {live : List (Event Host)}
    {validation : RecoveryValidation}
    (validating : (validateCurrentBaseline rounds outputDir timeout phase).Runs before live
      (.ok validation) after) :
    ∃ current probe final, issued live = current ++ probe ++ final ∧
      (∀ command ∈ current, CurrentCommand command.args) ∧
      (∀ command ∈ probe, command.args = trafficTest) ∧ probe ≠ [] ∧
      ∀ command ∈ final, FinalCommand command.args := by
  rcases validateCurrentBaseline_runs validating with ⟨current, probe, final, record, findings,
    traffic, health, rfl, checking, probing, finishing, silent, _⟩
  rcases checkTraffic_runs probing with ⟨_, _, _, ⟨command, member, _⟩, _⟩
  exact ⟨issued current, issued probe, issued final, by simp [silent],
    (issues_checkCurrent _ _ _).of_runs checking, (issues_checkTraffic _ _ _).of_runs probing,
    List.ne_nil_of_mem member, (issues_validateFinalHealth _ _ _ _).of_runs finishing⟩

theorem validating_not_startup {timeout : ℕ} {phase : String} {live : List (Event Host)}
    {validation : RecoveryValidation}
    (validating : (validateCurrentBaseline rounds outputDir timeout phase).Runs before live
      (.ok validation) after) : ∀ command ∈ issued live, command.args ∉ startupCommands := by
  rcases validating_issued validating with
    ⟨current, probe, final, split, currents, probes, _, finals⟩
  intro command member
  rw [split, List.mem_append, List.mem_append] at member
  rcases member with (member | member) | member
  · exact (neutral_of_currentCommand (currents command member)).1
  · rw [probes command member]
    decide
  · exact (not_startup_of_finalCommand (finals command member)).1

/-- The UE is only started after the preparation and the answer of the gNB. -/
theorem StartupRun.ue_preceded (run : StartupRun rounds timeout outputDir trace assertions failed)
    (collects : collected.args = collectLogs) :
    Preceded (issued trace ++ [collected]) (fun command => command.args = startUe) Prepared := by
  have notCollected : ∀ command ∈ [collected], command.args ≠ startUe := by
    rw [List.forall_mem_singleton, collects]
    decide
  cases run with
  | unprepared early | notReady early =>
      refine preceded_of_none (List.forall_mem_append.mpr ⟨?_, notCollected⟩)
      exact fun command member => (early.quiet command member).1
  | ueFailed early prepared | checked early _ prepared =>
      simp only [issued_append, List.append_assoc]
      refine preceded_of_first ?_ prepared fun _ _ => Prepared.of_prefix
      exact fun command member => (early.quiet command member).1

/-- The traffic is only probed after the UE has started. -/
theorem StartupRun.traffic_preceded
    (run : StartupRun rounds timeout outputDir trace assertions failed)
    (collects : collected.args = collectLogs) :
    Preceded (issued trace ++ [collected]) (fun command => command.args = trafficTest)
      fun earlier => ∃ started ∈ earlier, started.args = startUe ∧ started.Succeeded := by
  have notCollected : ∀ command ∈ [collected], command.args ≠ trafficTest := by
    rw [List.forall_mem_singleton, collects]
    decide
  cases run with
  | unprepared early | notReady early =>
      refine preceded_of_none (List.forall_mem_append.mpr ⟨?_, notCollected⟩)
      exact fun command member => (early.quiet command member).2.1
  | ueFailed early prepared issued_start startsUe =>
      rw [issued_append, issued_start]
      refine preceded_of_none (List.forall_mem_append.mpr
        ⟨List.forall_mem_append.mpr ⟨?_, ?_⟩, notCollected⟩)
      · exact fun command member => (early.quiet command member).2.1
      · rw [List.forall_mem_singleton, startsUe]
        decide
  | checked early fine prepared tells passed issued_start startsUe succeeded =>
      rw [issued_append, List.append_assoc, issued_append, issued_start]
      refine preceded_of_first ?_ ⟨_, by simp, startsUe, succeeded⟩ ?_
      · refine List.forall_mem_append.mpr ⟨?_, ?_⟩
        · exact fun command member => (early.quiet command member).2.1
        · rw [List.forall_mem_singleton, startsUe]
          decide
      · rintro first more extended ⟨started, member, starts⟩
        exact ⟨started, extended.subset member, starts⟩

/-- The final checks are only made after the traffic probe. -/
theorem StartupRun.final_preceded
    (run : StartupRun rounds timeout outputDir trace assertions failed)
    (collects : collected.args = collectLogs) :
    Preceded (issued trace ++ [collected])
      (fun command => command.args = listCore ∨ command.args = inspectRan)
      fun earlier => ∃ probe ∈ earlier, probe.args = trafficTest := by
  have notCollected : ∀ command ∈ [collected],
      ¬(command.args = listCore ∨ command.args = inspectRan) := by
    rw [List.forall_mem_singleton, collects]
    decide
  have notUe : ¬(startUe = listCore ∨ startUe = inspectRan) := by decide
  have notQuiet {args : List String} (quiet : Quiet args) :
      ¬(args = listCore ∨ args = inspectRan) :=
    not_or.mpr quiet.2.2
  cases run with
  | unprepared early | notReady early =>
      refine preceded_of_none (List.forall_mem_append.mpr ⟨?_, notCollected⟩)
      exact fun command member => notQuiet (early.quiet command member)
  | ueFailed early prepared issued_start startsUe =>
      rw [issued_append, issued_start]
      refine preceded_of_none (List.forall_mem_append.mpr
        ⟨List.forall_mem_append.mpr ⟨?_, ?_⟩, notCollected⟩)
      · exact fun command member => notQuiet (early.quiet command member)
      · rwa [List.forall_mem_singleton, startsUe]
  | checked early fine prepared tells passed issued_start startsUe succeeded validating =>
      rcases validating_issued validating with
        ⟨current, probe, final, live_eq, currents, probes, probed, finals⟩
      rcases List.exists_mem_of_ne_nil probe probed with ⟨traffic, isProbe⟩
      rename_i first start live ready ue validation
      have split : issued (first ++ start ++ live) ++ [collected] =
          (issued first ++ [ue] ++ current ++ probe) ++ (final ++ [collected]) := by
        simp [issued_start, live_eq]
      rw [split]
      refine preceded_of_first ?_ ⟨traffic, by simp [isProbe], probes traffic isProbe⟩ ?_
      · simp only [List.forall_mem_append, List.forall_mem_singleton]
        refine ⟨⟨⟨fun command member => notQuiet (early.quiet command member), ?_⟩, ?_⟩, ?_⟩
        · rwa [startsUe]
        · exact fun command member =>
            not_or.mpr (neutral_of_currentCommand (currents command member)).2.2
        · intro command member
          rw [probes command member]
          decide
      · rintro before more extended ⟨earlier, member, probes⟩
        exact ⟨earlier, extended.subset member, probes⟩

/-- The startup collects the logs of the previous run only. -/
theorem StartupRun.since (run : StartupRun rounds timeout outputDir trace assertions failed) :
    ∀ command ∈ issued trace, command.args = collectLogs →
      command.environment.lookup "SINCE" = some "" := by
  have notUe : startUe ≠ collectLogs := by decide
  cases run with
  | unprepared early | notReady early => exact early.since
  | ueFailed early prepared issued_start startsUe =>
      rw [issued_append, issued_start, List.forall_mem_append, List.forall_mem_singleton, startsUe]
      exact ⟨early.since, fun collects => absurd collects notUe⟩
  | checked early fine prepared tells passed issued_start startsUe succeeded validating =>
      rw [issued_append, issued_append, issued_start, List.forall_mem_append,
        List.forall_mem_append, List.forall_mem_singleton, startsUe]
      refine ⟨⟨early.since, fun collects => absurd collects notUe⟩,
        fun command member collects => ?_⟩
      have notStartup := validating_not_startup validating command member
      exact absurd (by simp [collects, startupCommands, preparationCommands]) notStartup

/-- The startup has failed when a command of it did. -/
theorem StartupRun.failed_iff (run : StartupRun rounds timeout outputDir trace assertions failed) :
    failed = true ↔ ∃ command ∈ issued trace, command.FailedStage := by
  cases run with
  | unprepared _ failing => simpa using failing
  | notReady _ fine => simpa using fine
  | ueFailed early prepared issued_start startsUe notSucceeded =>
      simp only [true_iff]
      refine ⟨_, ?_, ?_, notSucceeded⟩
      · rw [issued_append, issued_start]
        exact List.mem_append_right _ (List.mem_singleton_self _)
      · simp [startsUe, startupCommands]
  | checked early fine prepared tells passed issued_start startsUe succeeded validating =>
      rw [issued_append, issued_append, issued_start]
      simp only [Bool.false_eq_true, false_iff, not_exists, not_and, List.forall_mem_append,
        List.forall_mem_singleton]
      refine ⟨⟨fine, fun failed => failed.2 succeeded⟩, fun command member failed => ?_⟩
      exact validating_not_startup validating command member failed.1

end

omit [JsonLibrary] in
theorem collectCurrent_runs {timeout : ℕ} {outputDir : Path} {startedAt : String}
    {outcome : CommandOutcome}
    (runs : (collectCurrent timeout outputDir startedAt).Runs before trace (.ok outcome) after) :
    ∃ collected, issued trace = [collected] ∧ collected.args = collectLogs ∧
      collected.environment.lookup "SINCE" = some startedAt ∧
      (collected.Succeeded ↔ outcome.returncode = 0) := by
  rw [collectCurrent, runs_bind_ok_iff] at runs
  rcases runs with ⟨first, environment, _, second, rfl, resolving, runs⟩
  rw [collectionEnvironment, runs_bind_ok_iff] at resolving
  rcases resolving with ⟨_, out, _, _, rfl, resolved, pure⟩
  rw [runs_pure_iff, Except.ok.injEq] at pure
  rcases runs_resolve_iff.mp resolved with ⟨_, rfl, _⟩
  rcases pure with ⟨rfl, rfl, _⟩
  rcases runCommand_succeeded_iff runs with ⟨ended, issued_eq, succeeded⟩
  exact ⟨_, by simp [issued_eq], rfl, rfl, succeeded⟩

omit [JsonLibrary] in
/-- The report parses the logs, and issues no command. -/
theorem reportBaseline_runs {scenario : Scenario} {outputDir : Path} {identity : RunIdentity}
    {startup : Startup} {collected : CommandOutcome} {result : ScenarioResult}
    (runs : (reportBaseline scenario outputDir identity startup collected).Runs before trace
      (.ok result) after) :
    issued trace = [] ∧ ∃ evidence,
      result = baselineResult scenario identity startup collected (parsedEvents trace)
        evidence := by
  rw [reportBaseline, runs_bind_ok_iff] at runs
  rcases runs with ⟨first, _, _, _, rfl, writing, runs⟩
  rw [runs_bind_ok_iff] at runs
  rcases runs with ⟨second, events, _, _, rfl, parsing, runs⟩
  rw [runs_bind_ok_iff] at runs
  rcases runs with ⟨third, logs, _, _, rfl, globbing, runs⟩
  rw [runs_bind_ok_iff] at runs
  rcases runs with ⟨fourth, evidence, _, _, rfl, checking, runs⟩
  rw [runs_pure_iff, Except.ok.injEq] at runs
  rcases runs with ⟨rfl, rfl, _⟩
  have wrote := writing
  rw [writeCommandLog, runs_writeText_iff] at wrote
  rcases runs_glob_iff.mp globbing with ⟨_, rfl, _⟩
  refine ⟨?_, evidence, ?_⟩
  · have silentWriting : issued first = [] := (issues_writeText _ _).silent writing
    have silentParsing : issued second = [] := (issues_parseRuntimeEvents _ _).silent parsing
    have silentChecking : issued fourth = [] := (issues_runtimeEvidence _ _).silent checking
    simp [silentWriting, silentParsing, silentChecking]
  · simp [wrote, parsedBy, parseRuntimeEvents_parsedEvents parsing,
      runtimeEvidence_parsedEvents checking]

/-- What the result of a baseline run says of its commands and checks. -/
structure BaselineVerdict (rounds : ℕ) (scenario : Scenario) (outputDir : Path) (startedAt : String)
    (trace : List (Event Host)) (result : ScenarioResult) : Prop where
  ue_preceded : Preceded (issued trace) (fun command => command.args = startUe) Prepared
  traffic_preceded : Preceded (issued trace) (fun command => command.args = trafficTest)
    fun earlier => ∃ started ∈ earlier, started.args = startUe ∧ started.Succeeded
  final_preceded : Preceded (issued trace)
    (fun command => command.args = listCore ∨ command.args = inspectRan)
    fun earlier => ∃ probe ∈ earlier, probe.args = trafficTest
  /-- The checks are made at most once, and the final health is validated in one
  piece after the traffic probe. -/
  live : (∀ command ∈ issued trace, command.args ≠ trafficTest) ∨
    ∃ earlier current probe final later findings traffic health,
      trace = earlier ++ current ++ probe ++ final ++ later ∧
      (checkCurrent outputDir (min 30 scenario.timeoutSeconds) "baseline").Runs ()
        current (.ok findings) () ∧
      (checkTraffic outputDir (min 30 scenario.timeoutSeconds) "baseline").Runs ()
        probe (.ok traffic) () ∧
      (validateFinalHealth rounds outputDir (min 30 scenario.timeoutSeconds) "baseline").Runs ()
        final (.ok health) () ∧
      (result.status = .pass → LabChecked rounds outputDir "baseline" current probe final)
  /-- The logs of this run are collected once, by the last command. -/
  collected : ∃ earlier report commands collected, trace = earlier ++ report ∧
    issued earlier = commands ++ [collected] ∧ issued report = [] ∧
    collected.args = collectLogs ∧ collected.environment.lookup "SINCE" = some startedAt ∧
    (∀ command ∈ commands, command.args = collectLogs →
      command.environment.lookup "SINCE" = some "") ∧
    ∀ event, event ∈ result.observedEvents ↔ event ∈ parsedEvents report
  error_iff : result.status = .error ↔ ∃ command ∈ issued trace, command.FailedStage
  pass_iff : result.status ≠ .error → (result.status = .pass ↔ ∃ setup checks,
    result.assertions = setup :: checks ++ evaluateScenarioEvents scenario result.observedEvents ∧
    setup.Tells "baseline:initial_ng_setup" ∧
    List.Forall₂ AssertionResult.Tells checks (checkNames "baseline") ∧
    (∀ assertion ∈ setup :: checks, assertion.status = .pass) ∧
    scenario.MetBy result.observedEvents)
  passed_probed : result.status = .pass → ∃ command ∈ issued trace, command.args = trafficTest
  ready_iff : result.baselineReady = true ↔ result.status = .pass

omit [JsonLibrary] in
theorem metBy_sortedSet {scenario : Scenario} {events : List String} :
    scenario.MetBy (sortedSet events) ↔ scenario.MetBy events := by
  simp [Scenario.MetBy]

omit [JsonLibrary] in
theorem evaluateScenarioEvents_sortedSet (scenario : Scenario) (events : List String) :
    evaluateScenarioEvents scenario (sortedSet events) =
    evaluateScenarioEvents scenario events := by
  have expected : expectedEvent (sortedSet events) = expectedEvent events := by
    funext event
    simp [expectedEvent]
  have forbidden : forbiddenEvent (sortedSet events) = forbiddenEvent events := by
    funext event
    simp [forbiddenEvent]
  rw [evaluateScenarioEvents, expected, forbidden, evaluateScenarioEvents]

section

variable {rounds timeout : ℕ} {outputDir : Path} {assertions : List AssertionResult} {failed : Bool}

/-- A startup without a failure has made assertions that pass or fail, and they
all pass only when the lab was checked. -/
theorem StartupRun.assertions_decided
    (run : StartupRun rounds timeout outputDir trace assertions failed) (fine : failed = false) :
    (∀ assertion ∈ assertions, assertion.status = .pass ∨ assertion.status = .fail) ∧
    ((∀ assertion ∈ assertions, assertion.status = .pass) →
      ∃ setup checks, assertions = setup :: checks ∧ setup.Tells "baseline:initial_ng_setup" ∧
        List.Forall₂ AssertionResult.Tells checks (checkNames "baseline")) := by
  cases run with
  | unprepared | ueFailed => simp at fine
  | notReady early _ failed => simp [failed]
  | checked early _ prepared tells passed issued_start startsUe succeeded validating =>
      rcases validateCurrentBaseline_runs validating with
        ⟨_, _, _, _, _, _, _, _, _, _, _, _, _, tellAll, _⟩
      refine ⟨?_, fun _ => ⟨_, _, rfl, tells, tellAll⟩⟩
      exact List.forall_mem_cons.mpr ⟨.inl passed, decided_of_tells tellAll⟩

theorem StartupRun.live (run : StartupRun rounds timeout outputDir trace assertions failed) :
    (∀ command ∈ issued trace, command.args ≠ trafficTest) ∧
      (failed = true ∨ ∃ assertion ∈ assertions, assertion.status = .fail) ∨
    failed = false ∧ (∃ command ∈ issued trace, command.args = trafficTest) ∧
    ∃ earlier current probe final later findings traffic health,
      trace = earlier ++ current ++ probe ++ final ++ later ∧
      (checkCurrent outputDir (min 30 timeout) "baseline").Runs () current (.ok findings) () ∧
      (checkTraffic outputDir (min 30 timeout) "baseline").Runs () probe (.ok traffic) () ∧
      (validateFinalHealth rounds outputDir (min 30 timeout) "baseline").Runs () final (.ok health)
        () ∧
      ((∀ assertion ∈ assertions, assertion.status = .pass) →
        LabChecked rounds outputDir "baseline" current probe final) := by
  cases run with
  | unprepared early =>
      exact .inl ⟨fun command member => (early.quiet command member).2.1, .inl rfl⟩
  | notReady early _ failed =>
      exact .inl ⟨fun command member => (early.quiet command member).2.1, .inr (by simpa)⟩
  | ueFailed early prepared issued_start startsUe =>
      refine .inl ⟨?_, .inl rfl⟩
      rw [issued_append, issued_start, List.forall_mem_append, List.forall_mem_singleton, startsUe]
      exact ⟨fun command member => (early.quiet command member).2.1, by decide⟩
  | checked early fine prepared tells passed issued_start startsUe succeeded validating =>
      rename_i first start live ready ue validation
      rcases validateCurrentBaseline_runs validating with ⟨current, probe, final, record, findings,
        traffic, health, rfl, checking, probing, finishing, silent, _, _, seen⟩
      rcases checkTraffic_runs probing with ⟨_, _, _, ⟨command, member, isProbe⟩, _⟩
      refine .inr ⟨rfl, ⟨command, by simp [member], isProbe⟩, first ++ start, current, probe, final,
        record, findings, traffic, health, by simp, checking, probing, finishing, ?_⟩
      exact fun allPassed => seen (List.forall_mem_cons.mp allPassed).2

end

section

variable {scenario : Scenario} {identity : RunIdentity} {startup : Startup}
  {collected : CommandOutcome} {events : List String} {evidence : List EvidenceRef}

omit [JsonLibrary] in
theorem baselineResult_error_iff
    (decided : startup.failed = false →
      ∀ assertion ∈ startup.assertions, assertion.status = .pass ∨ assertion.status = .fail) :
    (baselineResult scenario identity startup collected events evidence).status = .error ↔
      startup.failed = true ∨ collected.returncode ≠ 0 := by
  simp only [baselineResult]
  split
  case isTrue failed => simpa using failed
  case isFalse fine =>
    refine ⟨fun error => ?_, fun failed => absurd failed fine⟩
    have startupFine : startup.failed = false := by
      simpa using fun failed => fine (.inl failed)
    rw [scenarioStatus_eq_error_iff] at error
    rcases error with ⟨assertion, member, status⟩
    rcases List.mem_append.mp member with member | member
    · rcases decided startupFine assertion member with passed | failed <;> simp_all
    · rcases evaluateScenarioEvents_status member with passed | failed <;> simp_all

omit [JsonLibrary] in
theorem baselineResult_pass_iff (fine : ¬(startup.failed = true ∨ collected.returncode ≠ 0))
    (decided : ∀ assertion ∈ startup.assertions,
      assertion.status = .pass ∨ assertion.status = .fail) :
    (baselineResult scenario identity startup collected events evidence).status = .pass ↔
      (∀ assertion ∈ startup.assertions, assertion.status = .pass) ∧ scenario.MetBy events := by
  simp only [baselineResult, if_neg fine]
  rw [scenarioStatus_eq_pass_iff, List.forall_mem_append, ← forall_evaluateScenarioEvents_pass_iff]
  refine and_congr (forall₂_congr fun assertion member => ?_)
    (forall₂_congr fun assertion member => ?_)
  · rcases decided assertion member with status | status <;> simp [status]
  · rcases evaluateScenarioEvents_status member with status | status <;> simp [status]

end

/-- Every baseline run that returns has the verdict of its commands and checks. -/
theorem executeBaseline_verdict (rounds : ℕ) (scenario : Scenario) (outputDir : Path)
    (identity : RunIdentity) (settleSeconds : ℤ) (trace : List (Event Host))
    (result : ScenarioResult)
    (runs : (executeBaseline rounds scenario outputDir identity settleSeconds).Runs () trace
      (.ok result) ()) :
    BaselineVerdict rounds scenario outputDir identity.startedAt trace result := by
  rw [executeBaseline, runs_bind_ok_iff] at runs
  rcases runs with ⟨beginning, startup, _, _, rfl, starting, runs⟩
  rw [runs_bind_ok_iff] at runs
  rcases runs with ⟨collection, outcome, _, report, rfl, collecting, reporting⟩
  have run := startBaseline_runs starting
  rcases collectCurrent_runs collecting with ⟨collected, issued_eq, collects, since, succeeded⟩
  rcases reportBaseline_runs reporting with ⟨silent, evidence, rfl⟩
  have issued_trace : issued (beginning ++ (collection ++ report)) =
      issued beginning ++ [collected] := by
    simp [issued_eq, silent]
  have failing : (startup.failed = true ∨ outcome.returncode ≠ 0) ↔
      ∃ command ∈ issued beginning ++ [collected], command.FailedStage := by
    simp only [List.mem_append, List.mem_singleton, or_and_right, exists_or, exists_eq_left]
    refine or_congr run.failed_iff ?_
    rw [HostCommand.FailedStage, succeeded, collects]
    exact ⟨fun nonzero => ⟨by decide, nonzero⟩, fun failed => failed.2⟩
  have error_iff : (baselineResult scenario identity startup outcome (parsedEvents report)
      evidence).status = .error ↔ startup.failed = true ∨ outcome.returncode ≠ 0 :=
    baselineResult_error_iff fun fine => (run.assertions_decided fine).1
  have passing : (baselineResult scenario identity startup outcome (parsedEvents report)
      evidence).status = .pass → startup.failed = false ∧
        (∀ assertion ∈ startup.assertions, assertion.status = .pass) ∧
        scenario.MetBy (parsedEvents report) := by
    intro passed
    have fine : ¬(startup.failed = true ∨ outcome.returncode ≠ 0) := by
      rw [← error_iff, passed]
      simp
    have startupFine : startup.failed = false := by
      simpa using fun failed => fine (.inl failed)
    rw [baselineResult_pass_iff fine (run.assertions_decided startupFine).1] at passed
    exact ⟨startupFine, passed⟩
  constructor
  · rw [issued_trace]
    exact run.ue_preceded collects
  · rw [issued_trace]
    exact run.traffic_preceded collects
  · rw [issued_trace]
    exact run.final_preceded collects
  · rcases run.live with
      ⟨none, _⟩ | ⟨fine, _, earlier, current, probe, final, later, findings, traffic,
      health, rfl, checking, probing, finishing, seen⟩
    · refine .inl ?_
      rw [issued_trace, List.forall_mem_append, List.forall_mem_singleton, collects]
      exact ⟨none, by decide⟩
    · refine .inr ⟨earlier, current, probe, final, later ++ (collection ++ report), findings,
        traffic, health, by simp, checking, probing, finishing, fun passed => ?_⟩
      exact seen (passing passed).2.1
  · refine ⟨beginning ++ collection, report, issued beginning, collected, by simp,
      by simp [issued_eq], silent, collects, since, run.since, ?_⟩
    simp [baselineResult]
  · rw [issued_trace, ← failing]
    exact error_iff
  · intro notError
    rw [ne_eq, error_iff] at notError
    have fine : startup.failed = false := by
      simpa using fun failed => notError (.inl failed)
    rcases run.assertions_decided fine with ⟨decided, checked⟩
    rw [baselineResult_pass_iff notError decided]
    simp only [baselineResult, evaluateScenarioEvents_sortedSet, metBy_sortedSet,
      List.append_cancel_right_eq]
    constructor
    · rintro ⟨allPassed, met⟩
      rcases checked allPassed with ⟨setup, checks, eq, tells, tellAll⟩
      exact ⟨setup, checks, eq, tells, tellAll, eq ▸ allPassed, met⟩
    · rintro ⟨setup, checks, eq, tells, tellAll, allPassed, met⟩
      exact ⟨eq ▸ allPassed, met⟩
  · intro passed
    rcases passing passed with ⟨fine, allPassed, _⟩
    rcases run.live with ⟨_, failed | ⟨assertion, member, failed⟩⟩ |
      ⟨_, ⟨command, member, probes⟩, _⟩
    · simp [failed] at fine
    · simp [allPassed assertion member] at failed
    · exact ⟨command, by simp [issued_trace, member], probes⟩
  · simp [baselineResult]

end

section

variable {library other : JsonLibrary} {responder : Responder Host ℚ}

/-- Both libraries load what the inspection of the core prints in the same way. -/
def LoadAlike (library other : JsonLibrary) (responder : Responder Host ℚ) : Prop :=
  ∀ deadline world ids listed world' text inspected,
    (readCommand deadline (listCore.map .string) ()).play responder world =
      some ((.ok ids, ()), listed) →
    (readCommand deadline ((["docker", "inspect"] ++ Text.words ids).map .string) ()).play responder
      world' = some ((.ok text, ()), inspected) →
    library.loads text = other.loads text

theorem readCore_playsAs (alike : LoadAlike library other responder) (deadline : ℚ) :
    PlaysAs responder (@readCore library deadline) (@readCore other deadline) := by
  refine PlaysAs.bind_of_played fun _ world ids _ listed playedIds => ?_
  refine PlaysAs.ite (PlaysAs.refl _) ?_
  refine PlaysAs.bind_of_played fun _ world' text _ inspected playedText => ?_
  rw [alike deadline world ids listed world' text inspected playedIds playedText]
  exact PlaysAs.refl _

theorem waitCoreReadyOnHost_playsAs (alike : LoadAlike library other responder) (rounds : ℕ) :
    PlaysAs responder (@waitCoreReadyOnHost library rounds)
      (@waitCoreReadyOnHost other rounds) := by
  refine fun _ => Program.PlaysAs.bind (Program.PlaysAs.realize ?_ _) fun _ _ _ _ => rfl
  intro op
  cases op with
  | monotonic | sleep => exact fun _ => rfl
  | readCore deadline =>
      exact Program.PlaysAs.bind (readCore_playsAs alike deadline ()) fun _ _ _ _ => rfl

theorem validateCurrentBaseline_playsAs (alike : LoadAlike library other responder)
    (rounds : ℕ) (outputDir : Path) (timeout : ℕ) (phase : String) :
    PlaysAs responder (@validateCurrentBaseline library rounds outputDir timeout phase)
      (@validateCurrentBaseline other rounds outputDir timeout phase) := by
  refine PlaysAs.bind (PlaysAs.refl _) fun _ => PlaysAs.bind (PlaysAs.refl _) fun _ =>
    PlaysAs.bind ?_ fun _ => PlaysAs.refl _
  refine PlaysAs.bind (PlaysAs.refl _) fun _ => PlaysAs.bind ?_ fun _ => PlaysAs.refl _
  exact PlaysAs.bind (waitCoreReadyOnHost_playsAs alike rounds) fun _ => PlaysAs.refl _

/-- A baseline run depends on the library only through the inspection of the core. -/
theorem executeBaseline_playsAs (alike : LoadAlike library other responder) (rounds : ℕ)
    (scenario : Scenario) (outputDir : Path) (identity : RunIdentity) (settleSeconds : ℤ) :
    PlaysAs responder
      (@executeBaseline library rounds scenario outputDir identity settleSeconds)
      (@executeBaseline other rounds scenario outputDir identity settleSeconds) := by
  refine PlaysAs.bind ?_ fun _ => PlaysAs.refl _
  refine PlaysAs.bind (PlaysAs.refl _) fun _ => PlaysAs.ite (PlaysAs.refl _) ?_
  refine PlaysAs.bind ?_ fun _ => PlaysAs.refl _
  refine PlaysAs.bind (PlaysAs.refl _) fun _ => PlaysAs.bind (PlaysAs.refl _) fun _ => ?_
  refine PlaysAs.ite (PlaysAs.bind ?_ fun _ => PlaysAs.refl _) (PlaysAs.refl _)
  refine PlaysAs.bind (PlaysAs.refl _) fun _ => PlaysAs.ite (PlaysAs.refl _) ?_
  refine PlaysAs.bind (PlaysAs.refl _) fun _ => PlaysAs.bind ?_ fun _ => PlaysAs.refl _
  exact validateCurrentBaseline_playsAs alike _ _ _ _

end

/-- A running container of a service, named by the service. -/
def runningContainer (service : String) : Json := .object
  [("Id", .string service), ("Image", .string ""), ("RestartCount", .int 0),
    ("Config", .object [("Labels", .object [("com.docker.compose.service", .string service)])]),
    ("State", .object [("Status", .string "running"), ("StartedAt", .string ""),
      ("ExitCode", .int 0), ("Health", .object [("Status", .string "healthy")])])]

def initContainer : Json := .object
  [("Id", .string "log-init"), ("Image", .string ""), ("RestartCount", .int 0),
    ("Config", .object [("Labels", .object [("com.docker.compose.service", .string "log-init")])]),
    ("State", .object [("Status", .string "exited"), ("StartedAt", .string ""),
      ("ExitCode", .int 0)])]

/-- The containers of a healthy core, as they are inspected. -/
def coreDocument : Json := .array (initContainer :: coreServices.map runningContainer)

abbrev healthyCore : JsonLibrary := .ofDocuments [coreDocument]

/-- What a healthy network function logs. -/
def healthyLog (service : String) : String :=
  Text.upper service ++ " initialize...done" ++
    (if service ∈ ["nrf", "upf"] then "" else "NF registered [Heartbeat:") ++
    if service ∈ ["smf", "upf"] then "PFCP associated" else ""

/-- What the processes of a healthy lab print. -/
def healthyLab (args : List String) : ProcessEnd :=
  if args = inspectRan then .exited 0 ("\n".intercalate ranRunning) ""
  else if args = ueTunnel then .exited 0 "uesimtun0" ""
  else if args.take 2 = ["docker", "logs"] then .exited 0 (healthyLog (args.getLastD "")) ""
  else if args.take 2 = ["docker", "inspect"] then .exited 0 (coreDocument.dumps .canonical 0) ""
  else if args.getLastD "" = "ps-list" then .exited 0 "state: PS-ACTIVE" ""
  else if args.getLastD "" = "status" then .exited 0 "is-ngap-up: true rm-state: RM-REGISTERED" ""
  else .exited 0 "0" ""

/-- A healthy lab, in which every pause lasts half a minute. -/
def healthyHost : Responder Host ℚ := fun clock op =>
  match op with
  | .sleep _ => (.ok (), clock + 30)
  | op => Host.calm healthyLab "USER_PLANE_SUCCESS" baselineE2e.expectedEvents clock op

theorem readCommand_played {deadline world after : ℚ} {args : List String} {text : String}
    (played : (readCommand deadline (args.map .string) ()).play healthyHost world =
      some ((.ok text, ()), after)) :
    ∃ timeout result, CompletedProcess.ofEnd timeout (healthyLab args) = .ok result ∧
      text = result.outputText := by
  rcases Program.runs_of_play played with ⟨transcribed, admits⟩
  have runs : (readCommand deadline (args.map .string)).Runs () _ (.ok text) () := transcribed
  rcases readCommand_runs runs with
    ⟨now, args', ended, result, trace_eq, known, ended_eq, _, rfl⟩
  rw [commandArguments_strings, Except.ok.injEq] at known
  subst known
  rw [trace_eq] at admits
  rcases admits with _ | ⟨_, _ | ⟨answer, _⟩⟩
  have ended_is : healthyLab args = ended := (Prod.ext_iff.mp answer).1
  exact ⟨readTimeout (deadline - now), result, ended_is ▸ ended_eq, rfl⟩

/-- The inspection prints the containers, so every text may be loaded as them. -/
theorem healthyHost_loadAlike {library : JsonLibrary}
    (loads : library.loads (coreDocument.dumps .canonical 0) = .ok coreDocument) :
    LoadAlike library ⟨fun _ => .ok coreDocument⟩ healthyHost := by
  intro deadline world ids listed world' text inspected playedIds playedText
  rcases readCommand_played playedIds with ⟨_, result, ended, rfl⟩
  have listing : healthyLab listCore = .exited 0 "0" "" := by decide
  rw [listing] at ended
  cases ended
  have words : Text.words (CompletedProcess.outputText ⟨0, "0", ""⟩) = ["0"] := by decide
  rw [words] at playedText
  rcases readCommand_played playedText with ⟨_, result, ended, rfl⟩
  have inspecting : healthyLab ["docker", "inspect", "0"] =
      .exited 0 (coreDocument.dumps .canonical 0) "" := by
    simp [healthyLab, inspectRan, ueTunnel]
  rw [List.cons_append, List.cons_append, List.nil_append, inspecting] at ended
  cases ended
  have text_eq : CompletedProcess.outputText ⟨0, coreDocument.dumps .canonical 0, ""⟩ =
      coreDocument.dumps .canonical 0 := by
    have some : Json.dumpItems .canonical 1 (initContainer :: coreServices.map runningContainer) ≠
        [] := by
      simp [Json.dumpItems]
    have left : ("[" : String).toList = ['['] := rfl
    have right : ("]" : String).toList = [']'] := rfl
    rcases Json.enclose_ends .canonical 0 some left right with ⟨middle, chars⟩
    exact Text.strip_line (by rw [coreDocument, Json.dumps]; exact chars) rfl rfl
  rw [text_eq]
  exact loads

def healthyIdentity : RunIdentity where
  runId := "run"
  startedAt := "start"
  fingerprint := "0123456789abcdef0123456789abcdef0123456789abcdef0123456789abcdef"

def healthyBaseline (library : JsonLibrary) : HostM ScenarioResult :=
  executeBaseline 3 baselineE2e (.ofText "out") healthyIdentity 10

theorem healthyBaseline_playsAs (documents : List Json) :
    PlaysAs healthyHost (healthyBaseline (.ofDocuments (coreDocument :: documents)))
      (healthyBaseline ⟨fun _ => .ok coreDocument⟩) :=
  executeBaseline_playsAs
    (healthyHost_loadAlike (JsonLibrary.ofDocuments_loads coreDocument documents)) _ _ _ _ _

theorem healthyBaseline_passes :
    (healthyBaseline ⟨fun _ => .ok coreDocument⟩).returns healthyHost () 0
      (fun result => result.status = .pass) := by
  decide +kernel

theorem executeBaseline_verdict_healthy :
    ∃ trace result, result.status = .pass ∧
      @BaselineVerdict healthyCore 3 baselineE2e (.ofText "out") "start" trace result := by
  let := healthyCore
  have passed := healthyBaseline_passes
  rw [← (healthyBaseline_playsAs []).returns_eq] at passed
  rcases Routine.runs_of_returns passed with ⟨result, after, runs, passes⟩
  exact ⟨_, result, by simpa using passes, executeBaseline_verdict 3 baselineE2e (.ofText "out")
    healthyIdentity 10 _ result runs⟩

end FivegLab
