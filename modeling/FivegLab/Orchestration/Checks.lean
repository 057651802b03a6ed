import FivegLab.Host.Issued
import FivegLab.Orchestration.Health

/-!
# The commands of the checks

Which commands the checks of the running lab issue.
-/

namespace FivegLab

open Routine Host

/-- A command that asks a UERANSIM node. -/
def CliCommand (args : List String) : Prop :=
  ∃ service, args = cliDump service ∨ ∃ node subcommand, args = cliExec service node subcommand

/-- A command of the checks of the current state. -/
def CurrentCommand (args : List String) : Prop :=
  args = composePs ∨ (∃ service, args = psRunning service) ∨ CliCommand args ∨ args = ueTunnel

/-- A command that reads the core. -/
def CoreCommand (args : List String) : Prop :=
  args = listCore ∨ (∃ rest, args = "docker" :: "inspect" :: rest) ∨
    ∃ rest, args = "docker" :: "logs" :: rest

/-- A command of the final checks. -/
def FinalCommand (args : List String) : Prop :=
  CoreCommand args ∨ CliCommand args ∨ args = inspectRan

variable {allowed : List String → Prop}

theorem issues_writeOutcome (outcome : CommandOutcome) (path : Path) :
    Issues allowed (writeOutcome outcome path) :=
  issues_writeText _ _

theorem issues_runUeransimCli (service subcommand : String) (timeout : ℕ) :
    Issues CliCommand (runUeransimCli service subcommand timeout) := by
  refine Issues.bind (issues_runCommand ⟨service, .inl rfl⟩) fun dump => ?_
  split
  · exact Issues.pure _
  · exact Issues.bind (issues_runCommand ⟨service, .inr ⟨_, subcommand, rfl⟩⟩) fun _ =>
      Issues.pure _

theorem issues_makeCliChecks (outputDir : Path) (timeout : ℕ) (checks : List CliCheck) :
    Issues CliCommand (makeCliChecks outputDir timeout checks) := by
  induction checks with
  | nil => exact Issues.pure _
  | cons check checks ih =>
      refine Issues.bind ?_ fun _ => Issues.bind ih fun _ => Issues.pure _
      exact Issues.bind (issues_runUeransimCli _ _ _) fun _ =>
        Issues.bind (issues_writeOutcome _ _) fun _ => Issues.pure _

theorem issues_findMissing (timeout : ℕ) (services : List String) :
    Issues CurrentCommand (findMissing timeout services) := by
  induction services with
  | nil => exact Issues.pure _
  | cons service services ih =>
      exact Issues.bind (issues_runCommand (.inr (.inl ⟨service, rfl⟩))) fun _ =>
        Issues.bind ih fun _ => Issues.pure _

theorem issues_checkCurrent (outputDir : Path) (timeout : ℕ) (phase : String) :
    Issues CurrentCommand (checkCurrent outputDir timeout phase) := by
  refine Issues.bind ?_ fun _ => Issues.bind ?_ fun _ => Issues.bind ?_ fun _ => Issues.pure _
  · exact Issues.bind (issues_runCommand (.inl rfl)) fun _ =>
      Issues.bind (issues_writeOutcome _ _) fun _ =>
        Issues.bind (issues_findMissing _ _) fun _ => Issues.pure _
  · exact (issues_makeCliChecks _ _ _).mono fun _ cli => .inr (.inr (.inl cli))
  · exact Issues.bind (issues_runCommand (.inr (.inr (.inr rfl)))) fun _ =>
      Issues.bind (issues_writeOutcome _ _) fun _ => Issues.pure _

theorem issues_probeTraffic (outputDir : Path) (timeout : ℕ) (phase : String) :
    Issues (· = trafficTest) (probeTraffic outputDir timeout phase) :=
  Issues.bind (Issues.bind (issues_call trivial) fun _ => Issues.pure _) fun _ =>
    issues_runCommand rfl

theorem issues_trafficHolds (path : Path) (traffic : CommandOutcome) :
    Issues allowed (trafficHolds path traffic) := by
  refine Issues.ite ?_ (Issues.pure _)
  refine Issues.bind (issues_call trivial) fun _ => Issues.ite ?_ (Issues.pure _)
  exact Issues.bind (issues_readText _) fun _ => Issues.pure _

theorem issues_checkTraffic (outputDir : Path) (timeout : ℕ) (phase : String) :
    Issues (· = trafficTest) (checkTraffic outputDir timeout phase) :=
  Issues.bind (issues_probeTraffic _ _ _) fun _ =>
    Issues.bind (issues_trafficHolds _ _) fun _ => Issues.pure _

theorem issues_readCommand {deadline : ℚ} {values : List Json}
    (permitted : ∀ args, commandArguments values = .ok args → allowed args) :
    Issues allowed (readCommand deadline values) := by
  refine Issues.bind (issues_call trivial) fun now => Issues.ite (calls_raise _) ?_
  refine Issues.ofExcept_bind fun args known => ?_
  refine Issues.bind (issues_execute (permitted args known)) fun _ => ?_
  exact Issues.ite (calls_raise _) (Issues.pure _)

/-- The arguments of a command begin with the texts that are given. -/
theorem commandArguments_cons {text : String} {values : List Json} {args : List String}
    (known : commandArguments (.string text :: values) = .ok args) :
    ∃ rest, commandArguments values = .ok rest ∧ args = text :: rest := by
  rw [commandArguments] at known
  cases rest : commandArguments values with
  | error error => simp [rest, Bind.bind, Except.bind] at known
  | ok texts =>
      simp only [rest, Bind.bind, Except.bind, Pure.pure, Except.pure, Except.ok.injEq] at known
      exact ⟨texts, rfl, known.symm⟩

theorem issues_readLog (deadline : ℚ) (service : Json) (container : CoreContainer) :
    Issues CoreCommand (readLog deadline service container) := by
  unfold readLog
  split
  · exact Issues.pure _
  · refine Issues.bind (issues_readCommand ?_) fun _ => Issues.pure _
    intro args known
    rcases commandArguments_cons known with ⟨afterDocker, knownDocker, rfl⟩
    rcases commandArguments_cons knownDocker with ⟨afterLogs, _, rfl⟩
    exact .inr (.inr ⟨afterLogs, rfl⟩)

theorem issues_readContainers (deadline : ℚ) (inspected : List Json) (snapshot : CoreSnapshot) :
    Issues CoreCommand (readContainers deadline inspected snapshot) := by
  induction inspected generalizing snapshot with
  | nil => exact Issues.pure _
  | cons container inspected ih =>
      refine Issues.bind (calls_ofExcept _) fun _ => ?_
      exact Issues.bind (issues_readLog _ _ _) fun _ => ih _

section

variable [JsonLibrary]

theorem issues_readCore (deadline : ℚ) : Issues CoreCommand (readCore deadline) := by
  refine Issues.bind (issues_readCommand ?_) fun ids => Issues.ite (Issues.pure _) ?_
  · rintro args known
    rw [commandArguments_strings, Except.ok.injEq] at known
    exact .inl known.symm
  · refine Issues.bind (issues_readCommand ?_) fun text => ?_
    · rintro args known
      rw [commandArguments_strings, Except.ok.injEq] at known
      exact .inr (.inl ⟨_, known.symm⟩)
    · exact Issues.bind (calls_ofExcept _) fun _ => Issues.bind (calls_ofExcept _) fun _ =>
        issues_readContainers _ _ _

theorem issues_waitCoreReadyOnHost (rounds : ℕ) :
    Issues CoreCommand (waitCoreReadyOnHost rounds) := by
  refine calls_within fun state => ?_
  have anything : ∀ waiting : Program CoreProbe (Except Raised ReadinessResult × CoreWait),
      waiting.Calls fun _ => True := Program.calls_of_forall fun _ => trivial
  refine Program.calls_realize (anything _) ?_
  intro op _
  cases op with
  | monotonic => exact ⟨trivial, fun _ => trivial⟩
  | sleep seconds => exact calls_ending (issues_sleep seconds)
  | readCore deadline => exact calls_ending (issues_readCore deadline)

theorem issues_checkCore (rounds : ℕ) (outputDir : Path) (phase : String) :
    Issues CoreCommand (checkCore rounds outputDir phase) := by
  refine Issues.bind (issues_waitCoreReadyOnHost rounds) fun core => Issues.bind ?_ fun _ =>
    Issues.pure _
  exact Issues.bind (issues_makeDirectory _ _) fun _ => issues_writeText _ _

theorem issues_validateFinalHealth (rounds : ℕ) (outputDir : Path) (timeout : ℕ) (phase : String) :
    Issues FinalCommand (validateFinalHealth rounds outputDir timeout phase) := by
  refine Issues.bind (issues_call trivial) fun _ => ?_
  refine Issues.bind ((issues_checkCore _ _ _).mono fun _ core => .inl core) fun _ => ?_
  refine Issues.bind ((issues_makeCliChecks _ _ _).mono fun _ cli => .inr (.inl cli)) fun _ => ?_
  refine Issues.bind ?_ fun _ => Issues.bind ?_ fun _ => Issues.pure _
  · exact Issues.bind (issues_runCommand (.inr (.inr rfl))) fun _ =>
      Issues.bind (issues_writeOutcome _ _) fun _ => Issues.pure _
  · exact Issues.bind (issues_call trivial) fun _ =>
      Issues.bind (issues_writeText _ _) fun _ => Issues.pure _

end

end FivegLab
