import FivegLab.Host.Basic
import FivegLab.Json
import FivegLab.Text
import Mathlib.Data.List.Dedup

/-!
# Commands and their records

The wrapper around every command of a scenario, and how command outcomes,
extracted events and evidence files are recorded.
-/

namespace FivegLab

open Routine (raise ofExcept)
open Host

structure CommandOutcome where
  args : List String
  returncode : ℤ
  stdout : String
  stderr : String
  deriving DecidableEq, Repr

/-- `time.sleep(seconds)`: a duration is not negative, and fits into a signed
64-bit number of nanoseconds. -/
def sleep (seconds : ℚ) : HostM Unit :=
  if seconds < 0 then raise (.valueError "sleep length must be non-negative")
  else if 2 ^ 63 ≤ seconds * 10 ^ 9 then
    raise ⟨.overflowError, "timestamp too large to convert to C PyTime_t"⟩
  else pause seconds

/-- What `run_command` makes of the end of its process. -/
def CommandOutcome.ofEnd (args : List String) (timeout : ℕ) :
    ProcessEnd → Except Raised CommandOutcome
  | .exited returncode stdout stderr => .ok ⟨args, returncode, stdout, stderr⟩
  | .timedOut stdout stderr =>
      .ok ⟨args, 124, stdout, Text.strip (stderr ++ "\ntimeout after " ++ toString timeout ++ "s")⟩
  | .raised error => .error error

/-- Let `SIGTERM` interrupt the program, unless it is ignored. -/
def interruptOnTerm (previousTerm : Disposition) : HostM Unit :=
  if previousTerm ≠ .ignored then do
    let _ ← setSignal .term .interrupting
    return
  else return

def runCommand (args : List String) (timeout : ℕ) (environment : List (String × String)) :
    HostM CommandOutcome := do
  let previousTerm ← getSignal .term
  interruptOnTerm previousTerm
  let ended ← spawn args environment timeout
  let _ ← setSignal .term previousTerm
  ofExcept (CommandOutcome.ofEnd args timeout ended)

def CommandOutcome.json (outcome : CommandOutcome) : Json := .object
  [("args", .strings outcome.args), ("returncode", .int outcome.returncode),
    ("stdout", .string outcome.stdout), ("stderr", .string outcome.stderr)]

def writeCommandLog (outcomes : List CommandOutcome) (path : Path) : HostM Unit :=
  writeText path (Json.array (outcomes.map CommandOutcome.json)).pretty

def writeOutcome (outcome : CommandOutcome) (path : Path) : HostM Unit :=
  writeText path ("command: " ++ " ".intercalate outcome.args ++ "\nreturncode: " ++
    toString outcome.returncode ++ "\nstdout:\n" ++ outcome.stdout ++ "\nstderr:\n" ++
    outcome.stderr)

/-- The notes on the commands that failed. -/
def commandNotes (outcomes : List CommandOutcome) : List String :=
  outcomes.flatMap fun outcome =>
    if outcome.returncode = 0 then []
    else ("Command failed: " ++ " ".intercalate outcome.args) ::
      if Text.strip outcome.stderr = "" then [] else [Text.strip outcome.stderr]

/-- The paths that exist, in order. -/
def existing : List Path → HostM (List Path)
  | [] => return []
  | path :: paths => do
      let present ← pathExists path
      let more ← existing paths
      return if present then path :: more else more

/-- The events of several log files, in order. -/
def parseFiles : List Path → HostM (List String)
  | [] => return []
  | path :: paths => do
      let events ← parseFile path
      let more ← parseFiles paths
      return events ++ more

/-- The events of the logs in a directory and of the extra logs that exist. -/
def parseRuntimeEvents (logDir : Path) (extraLogs : List Path) : HostM (List String) := do
  let logPaths ← glob logDir "*.log"
  let present ← existing extraLogs
  parseFiles (logPaths ++ present)

def outputEvidence (path : Path) : EvidenceRef where
  kind := "runtime_output"
  path := path.text
  claimLevel := .runtimeVerified
  description := "Runtime command output generated during scenario execution."

/-- The evidence of a run: its manifests, and the outputs that exist. -/
def runtimeEvidence (outputDir : Path) (paths : List Path) : HostM (List EvidenceRef) := do
  let present ← existing paths
  return [
    ⟨"runtime_manifest", (outputDir / "environment.json").text, .runtimeVerified,
      "Environment metadata captured at scenario start."⟩,
    ⟨"runtime_versions", (outputDir / "versions.json").text, .runtimeVerified,
      "Pinned runtime image defaults and execution context."⟩,
    ⟨"runtime_context", (outputDir / "runtime_context.json").text, .runtimeVerified,
      "Context used to bind the baseline gate to this runtime."⟩] ++
    present.map outputEvidence

/-- `sorted(set(events))`. -/
def sortedSet (events : List String) : List String :=
  events.dedup.insertionSort (· ≤ ·)

@[simp]
theorem mem_sortedSet {event : String} {events : List String} :
    event ∈ sortedSet events ↔ event ∈ events := by
  simp [sortedSet]

/-- The events that a call of the log parser returned. -/
def parsedBy : Event Host → List String
  | ⟨.parseFile _, .ok events⟩ => events
  | _ => []

/-- The events that the log parser returned in a trace. -/
def parsedEvents (trace : List (Event Host)) : List String := trace.flatMap parsedBy

@[simp]
theorem parsedEvents_nil : parsedEvents [] = [] := rfl

@[simp]
theorem parsedEvents_cons (event : Event Host) (trace : List (Event Host)) :
    parsedEvents (event :: trace) = parsedBy event ++ parsedEvents trace := by
  simp [parsedEvents]

@[simp]
theorem parsedEvents_append (first rest : List (Event Host)) :
    parsedEvents (first ++ rest) = parsedEvents first ++ parsedEvents rest := by
  simp [parsedEvents]

variable {before after : Unit} {trace : List (Event Host)}

theorem existing_parsedEvents {paths present : List Path}
    (runs : (existing paths).Runs before trace (.ok present) after) :
    parsedEvents trace = [] := by
  induction paths generalizing trace present before with
  | nil =>
      simp only [existing, Routine.runs_pure_iff] at runs
      simp [runs.1]
  | cons path paths ih =>
      simp only [existing, Routine.runs_bind_iff, runs_pathExists_iff, Routine.runs_pure_iff,
        reduceCtorEq, false_and, exists_false, false_or] at runs
      rcases runs with ⟨_, _, _, _, rfl, ⟨_, rfl, _⟩, _, _, _, _, rfl, runs, rfl, _⟩
      simpa [parsedBy] using ih runs

theorem parseFiles_parsedEvents {paths : List Path} {events : List String}
    (runs : (parseFiles paths).Runs before trace (.ok events) after) :
    parsedEvents trace = events := by
  induction paths generalizing trace events before with
  | nil =>
      simp only [parseFiles, Routine.runs_pure_iff, Except.ok.injEq] at runs
      simp [runs.1, runs.2.1]
  | cons path paths ih =>
      simp only [parseFiles, Routine.runs_bind_iff, runs_parseFile_iff, Routine.runs_pure_iff,
        reduceCtorEq, false_and, exists_false, false_or, Except.ok.injEq] at runs
      rcases runs with ⟨_, _, _, _, rfl, rfl, _, _, _, _, rfl, runs, rfl, rfl, _⟩
      simp [parsedBy, ih runs]

/-- The extracted events are those that the parser returned. -/
theorem parseRuntimeEvents_parsedEvents {logDir : Path} {extraLogs : List Path}
    {events : List String}
    (runs : (parseRuntimeEvents logDir extraLogs).Runs before trace (.ok events) after) :
    parsedEvents trace = events := by
  simp only [parseRuntimeEvents, Routine.runs_bind_iff, runs_glob_iff, reduceCtorEq, false_and,
    exists_false, false_or] at runs
  rcases runs with ⟨_, _, _, _, rfl, ⟨_, rfl, _⟩, _, _, _, _, rfl, present, runs⟩
  simp [parsedBy, existing_parsedEvents present, parseFiles_parsedEvents runs]

theorem runtimeEvidence_parsedEvents {outputDir : Path} {paths : List Path}
    {evidence : List EvidenceRef}
    (runs : (runtimeEvidence outputDir paths).Runs before trace (.ok evidence) after) :
    parsedEvents trace = [] := by
  simp only [runtimeEvidence, Routine.runs_bind_ok_iff, Routine.runs_pure_iff] at runs
  rcases runs with ⟨_, _, _, _, rfl, present, rfl, _⟩
  simp [existing_parsedEvents present]

end FivegLab
