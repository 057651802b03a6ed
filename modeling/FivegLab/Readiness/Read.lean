import FivegLab.Host.Execute
import FivegLab.Pattern
import FivegLab.Readiness.Wait

/-!
# Reading the core

`read_core` asks the container engine for the state and the logs of the core.
With it, the wait runs on the host.
-/

namespace FivegLab

open Routine (raise ofExcept)
open Host

variable [JsonLibrary]

/-- The arguments of a command, which must be texts. -/
def commandArguments : List Json → Except Raised (List String)
  | [] => return []
  | .string text :: values => do
      let texts ← commandArguments values
      return text :: texts
  | value :: _ =>
      .error ⟨.typeError, "expected str, bytes or os.PathLike object, not " ++ value.typeName⟩

omit [JsonLibrary] in
theorem commandArguments_strings (texts : List String) :
    commandArguments (texts.map .string) = .ok texts := by
  induction texts with
  | nil => rfl
  | cons text texts ih =>
      simp [commandArguments, ih, Bind.bind, Except.bind, Pure.pure, Except.pure]

/-- The time limit of a command, within the time that remains. -/
def readTimeout (remaining : ℚ) : ℕ := (max 1 (min 10 remaining.ceil)).toNat

/-- The text that a command prints, within the deadline. -/
def readCommand (deadline : ℚ) (values : List Json) : HostM String := do
  let now ← monotonic
  if deadline - now ≤ 0 then raise (.runtimeError "Core readiness deadline reached")
  else
    let args ← ofExcept (commandArguments values)
    let result ← execute args (readTimeout (deadline - now))
    if result.returncode ≠ 0 then
      raise (.runtimeError (" ".intercalate args ++ ": " ++ result.outputText))
    else return result.outputText

omit [JsonLibrary] in
/-- A command that is read is run once, within the deadline, and exits with zero. -/
theorem readCommand_runs {deadline : ℚ} {values : List Json} {text : String} {before after : Unit}
    {trace : List (Event Host)}
    (runs : (readCommand deadline values).Runs before trace (.ok text) after) :
    ∃ now args ended result,
      trace = [⟨.monotonic, now⟩, ⟨.spawn args [] (readTimeout (deadline - now)), ended⟩] ∧
      commandArguments values = .ok args ∧
      CompletedProcess.ofEnd (readTimeout (deadline - now)) ended = .ok result ∧
      result.returncode = 0 ∧ text = result.outputText := by
  rw [readCommand, Routine.runs_bind_ok_iff] at runs
  rcases runs with ⟨_, now, _, _, rfl, clock, runs⟩
  rcases runs_monotonic_iff.mp clock with ⟨_, rfl, same⟩
  split at runs
  case isTrue => simp at runs
  case isFalse =>
    rw [Routine.runs_bind_ok_iff] at runs
    rcases runs with ⟨_, args, _, _, rfl, known, runs⟩
    rw [Routine.runs_ofExcept_iff] at known
    rcases known with ⟨rfl, known, rfl⟩
    rw [Routine.runs_bind_ok_iff] at runs
    rcases runs with ⟨_, result, _, _, rfl, executing, runs⟩
    rcases runs_execute_iff.mp executing with ⟨ended, rfl, succeeded⟩
    split at runs
    case isTrue => simp at runs
    case isFalse zero =>
      rw [Routine.runs_pure_iff, Except.ok.injEq] at runs
      rcases runs with ⟨rfl, rfl, _⟩
      rw [Except.ok.injEq] at same
      subst same
      exact ⟨_, args, ended, result, rfl, known.symm, succeeded.symm, not_not.mp zero, rfl⟩

/-- The service and the state of an inspected container. -/
def readContainer (known : CoreSnapshot) (inspected : Json) :
    Except Raised (Json × CoreContainer) := do
  let config ← inspected.index "Config"
  let labels ← config.index "Labels"
  let label ← labels.index "com.docker.compose.service"
  let service ← label.hashable
  if known.containers.any fun entry => entry.1 = service then
    .error (.runtimeError ("Multiple containers for required service " ++ service.display))
  else
    let state ← inspected.index "State"
    let id ← inspected.index "Id"
    let image ← inspected.index "Image"
    let status ← state.index "Status"
    let startedAt ← state.index "StartedAt"
    let exitCode ← state.index "ExitCode"
    let restartCount ← inspected.index "RestartCount"
    let healthState ← state.get "Health" (.object [])
    let health ← healthState.get "Status" .null
    return (service, ⟨id, image, status, startedAt, exitCode, restartCount, health⟩)

/-- The name of a network function whose container may have a log. -/
def loggedService (service : Json) (container : CoreContainer) : Option String :=
  match service with
  | .string name =>
      if name ∈ open5gsNfs ∧ container.status ≠ .string "created" then some name else none
  | _ => none

def readLog (deadline : ℚ) (service : Json) (container : CoreContainer) :
    HostM (List (String × String)) :=
  match loggedService service container with
  | none => return []
  | some name => do
      let output ← readCommand deadline
        [.string "docker", .string "logs", .string "--since", container.startedAt, container.id]
      return [(name, withoutColour output)]

/-- Add the inspected containers to a snapshot. -/
def readContainers (deadline : ℚ) : List Json → CoreSnapshot → HostM CoreSnapshot
  | [], snapshot => return snapshot
  | inspected :: rest, snapshot => do
      let (service, container) ← ofExcept (readContainer snapshot inspected)
      let log ← readLog deadline service container
      readContainers deadline rest
        ⟨snapshot.containers ++ [(service, container)], snapshot.logs ++ log⟩

def listCore : List String :=
  ["docker", "compose", "ps", "--all", "--quiet", "log-init"] ++ coreServices

/-- The containers of the core, when there are some. -/
def inspectCore (deadline : ℚ) (ids : String) : HostM CoreSnapshot := do
  let text ← readCommand deadline ((["docker", "inspect"] ++ Text.words ids).map .string)
  let inspected ← ofExcept (JsonLibrary.loads text)
  let containers ← ofExcept inspected.elements
  readContainers deadline containers {}

def readCore (deadline : ℚ) : HostM CoreSnapshot := do
  let ids ← readCommand deadline (listCore.map .string)
  if ids = "" then return {} else inspectCore deadline ids

/-- The operations of the wait as programs of the host. -/
def coreProbeOnHost : Realization CoreProbe Host
  | .monotonic => .call (I := Host) .monotonic .done
  | .sleep seconds => (sleep seconds).ending
  | .readCore deadline => (readCore deadline).ending

/-- `wait_core_ready(repo_root)`. -/
def waitCoreReadyOnHost (rounds : ℕ) : HostM ReadinessResult :=
  Routine.within {} ((waitCoreReady {} rounds).realize coreProbeOnHost)

/-- A number of thousandths as Python prints it. -/
def printMillis (seconds : ℚ) : String :=
  let thousandths := (seconds * 1000).floor
  let fraction := thousandths.natAbs % 1000
  (if thousandths < 0 then "-" else "") ++ toString (thousandths.natAbs / 1000) ++ "." ++
    if fraction % 100 = 0 then toString (fraction / 100)
    else if fraction % 10 = 0 then toString (fraction / 100) ++ toString (fraction / 10 % 10)
    else toString (fraction / 100) ++ toString (fraction / 10 % 10) ++ toString (fraction % 10)

/-- A key of a mapping as `json.dumps` prints it. -/
def Json.keyText : Json → String
  | .string text => text
  | key => key.dumps .plain 0

def CoreContainer.json (container : CoreContainer) : Json := .object
  [("id", container.id), ("image", container.image), ("status", container.status),
    ("started_at", container.startedAt), ("exit_code", container.exitCode),
    ("restart_count", container.restartCount), ("health", container.health)]

def ReadinessResult.json (result : ReadinessResult) : Json := .object
  [("passed", .bool result.passed), ("detail", .string result.detail),
    ("elapsed_seconds", .float (printMillis result.elapsedSeconds)),
    ("containers", .object (result.snapshot.containers.map fun entry =>
      (entry.1.keyText, entry.2.json))),
    ("logs", .object (result.snapshot.logs.map fun entry => (entry.1, .string entry.2)))]

def ReadinessResult.write (result : ReadinessResult) (path : Path) : HostM Unit := do
  makeDirectory path.parent true
  writeText path (result.json.pretty ++ "\n")

end FivegLab
