import FivegLab.Evidence
import FivegLab.Orchestration.Basic
import FivegLab.Pattern
import FivegLab.Readiness.Read

/-!
# Validating the running lab

The checks of the current baseline and of its final health, in the order in
which they are made.
-/

namespace FivegLab

open Host

def requiredRuntimeServices : List String :=
  ["mongodb", "nrf", "ausf", "udm", "udr", "pcf", "bsf", "amf", "smf", "upf", "dn-server", "gnb",
    "ue"]

/-- The command that lists the nodes of a service. -/
def cliDump (service : String) : List String :=
  ["docker", "compose", "exec", "-T", service, "nr-cli", "--dump"]

/-- The command that asks a node. -/
def cliExec (service node subcommand : String) : List String :=
  ["docker", "compose", "exec", "-T", service, "nr-cli", node, "--exec", subcommand]

/-- The node to ask: the first that a successful listing names. -/
def CommandOutcome.node (dump : CommandOutcome) : Option String :=
  if dump.returncode ≠ 0 then none
  else (((Text.splitlines dump.stdout).map Text.strip).filter (· ≠ "")).head?

/-- The outcome that stands for an answer when there is no node to ask. -/
def CommandOutcome.noNode (dump : CommandOutcome) (service subcommand : String) :
    CommandOutcome where
  args := ["nr-cli", "<node>", "--exec", subcommand]
  returncode := if dump.returncode = 0 then 1 else dump.returncode
  stdout := ""
  stderr := Text.orElse (Text.strip dump.stderr) ("no UERANSIM node found in " ++ service)

/-- `run_ueransim_cli`: the listing, and the answer of the node. -/
def runUeransimCli (service subcommand : String) (timeout : ℕ) :
    HostM (CommandOutcome × CommandOutcome) := do
  let dump ← runCommand (cliDump service) timeout []
  match dump.node with
  | none => return (dump, dump.noNode service subcommand)
  | some node => do
      let answer ← runCommand (cliExec service node subcommand) timeout []
      return (dump, answer)

/-- What a check adds to a validation. -/
structure Findings where
  assertions : List AssertionResult
  outcomes : List CommandOutcome
  evidencePaths : List Path
  deriving DecidableEq, Repr

namespace Findings

/-- The findings of several checks. -/
def concat (findings : List Findings) : Findings where
  assertions := findings.flatMap assertions
  outcomes := findings.flatMap outcomes
  evidencePaths := findings.flatMap evidencePaths

end Findings

/-- A check of a node's answer. -/
structure CliCheck where
  service : String
  subcommand : String
  pattern : FieldPattern
  /-- The name of the assertion. -/
  name : String
  expected : String
  /-- The file of the answer. -/
  file : String
  /-- What was observed when the node said nothing. -/
  silence : String
  deriving DecidableEq, Repr

/-- The node answered, and its answer matches. -/
def CliCheck.holds (check : CliCheck) (answer : CommandOutcome) : Bool :=
  answer.returncode = 0 && check.pattern.search answer.stdout

def CliCheck.assertion (check : CliCheck) (answer : CommandOutcome) : AssertionResult :=
  stateAssertion check.name (check.holds answer) check.expected
    (Text.orElse (Text.strip answer.stdout)
      (Text.orElse (Text.strip answer.stderr) check.silence))

def CliCheck.make (check : CliCheck) (outputDir : Path) (timeout : ℕ) : HostM Findings := do
  let attempt ← runUeransimCli check.service check.subcommand timeout
  writeOutcome attempt.2 (outputDir / check.file)
  return ⟨[check.assertion attempt.2], [attempt.1, attempt.2], [outputDir / check.file]⟩

/-- The prefix of the files of a phase. -/
def filePrefix (phase : String) : String := if phase = "recovery" then "post_recovery" else phase

def psRunning (service : String) : List String :=
  ["docker", "compose", "--profile", "ran", "ps", "--status", "running", "-q", service]

/-- Ask for every service whether it runs. -/
def findMissing (timeout : ℕ) : List String → HostM (List CommandOutcome × List String)
  | [] => return ([], [])
  | service :: services => do
      let outcome ← runCommand (psRunning service) timeout []
      let (outcomes, missing) ← findMissing timeout services
      return (outcome :: outcomes,
        if outcome.returncode ≠ 0 ∨ Text.strip outcome.stdout = "" then service :: missing
        else missing)

def servicesAssertion (phase : String) (missing : List String) : AssertionResult :=
  stateAssertion (phase ++ ":required_lab_services_running") (missing = [])
    "all required 5GC, RAN, UE, and DN services running"
    (if missing = [] then "all running"
      else "missing/not running: [" ++ ", ".intercalate (missing.map fun service =>
        "'" ++ service ++ "'") ++ "]")

def composePs : List String := ["docker", "compose", "--profile", "ran", "ps"]

def checkServices (outputDir : Path) (timeout : ℕ) (phase : String) : HostM Findings := do
  let path := outputDir / (filePrefix phase ++ "_compose_ps.txt")
  let listed ← runCommand composePs timeout []
  writeOutcome listed path
  let (outcomes, missing) ← findMissing timeout requiredRuntimeServices
  return ⟨[servicesAssertion phase missing], listed :: outcomes, [path]⟩

/-- `is-ngap-up:\s*true`. -/
def ngapUp (ignoreCase bounded : Bool) : FieldPattern :=
  ⟨"is-ngap-up:", "true", ignoreCase, bounded⟩

/-- `rm-state:\s*RM-REGISTERED`. -/
def rmRegistered (ignoreCase bounded : Bool) : FieldPattern :=
  ⟨"rm-state:", "RM-REGISTERED", ignoreCase, bounded⟩

/-- `state:\s*PS-ACTIVE(?:\s|$)`. -/
def psActive (ignoreCase : Bool) : FieldPattern := ⟨"state:", "PS-ACTIVE", ignoreCase, true⟩

/-- The answers that the current baseline needs from the nodes. -/
def currentCliChecks (phase : String) : List CliCheck :=
  [⟨"gnb", "status", ngapUp true false, phase ++ ":n2_ready",
      "UERANSIM gNB reports is-ngap-up: true", filePrefix phase ++ "_gnb_status.txt", "no status"⟩,
    ⟨"ue", "status", rmRegistered true false, phase ++ ":ue_registered",
      "UERANSIM UE reports RM-REGISTERED", filePrefix phase ++ "_ue_status.txt", "no status"⟩,
    ⟨"ue", "ps-list", psActive true, phase ++ ":pdu_session_active",
      "UERANSIM UE reports a PS-ACTIVE PDU session", filePrefix phase ++ "_pdu_sessions.txt",
      "no session"⟩]

/-- Make checks one after the other. -/
def makeCliChecks (outputDir : Path) (timeout : ℕ) : List CliCheck → HostM (List Findings)
  | [] => return []
  | check :: checks => do
      let findings ← check.make outputDir timeout
      let more ← makeCliChecks outputDir timeout checks
      return findings :: more

def ueTunnel : List String :=
  ["docker", "compose", "exec", "-T", "ue", "ip", "link", "show", "uesimtun0"]

/-- The tunnel interface exists in the UE container. -/
def tunnelHolds (outcome : CommandOutcome) : Bool :=
  outcome.returncode = 0 && Text.Contains outcome.stdout "uesimtun0"

def checkTunnel (outputDir : Path) (timeout : ℕ) (phase : String) : HostM Findings := do
  let path := outputDir / (filePrefix phase ++ "_ue_tunnel.txt")
  let tunnel ← runCommand ueTunnel timeout []
  writeOutcome tunnel path
  return ⟨[stateAssertion (phase ++ ":ue_tunnel_exists") (tunnelHolds tunnel)
      "uesimtun0 exists in the UE container"
      (Text.orElse (Text.strip tunnel.stdout)
        (Text.orElse (Text.strip tunnel.stderr) "not found"))], [tunnel], [path]⟩

/-- The traffic probe exited with zero, and its file tells of a success. -/
def trafficHolds (path : Path) (traffic : CommandOutcome) : HostM Bool :=
  if traffic.returncode = 0 then do
    if ← pathExists path then
      let text ← readText path
      return Text.Contains text "USER_PLANE_SUCCESS"
    else return false
  else return false

def trafficPath (outputDir : Path) (phase : String) : Path :=
  outputDir / (phase ++ "_traffic_result.txt")

def probeTraffic (outputDir : Path) (timeout : ℕ) (phase : String) : HostM CommandOutcome := do
  let environment ← scenarioTrafficEnvironment (trafficPath outputDir phase)
  runCommand trafficTest timeout environment

def checkTraffic (outputDir : Path) (timeout : ℕ) (phase : String) : HostM Findings := do
  let traffic ← probeTraffic outputDir timeout phase
  let passed ← trafficHolds (trafficPath outputDir phase) traffic
  return ⟨[stateAssertion (phase ++ ":user_plane_dn_traffic") passed
      "interface-bound traffic reaches the lab DN target"
      (if traffic.returncode = 0 then "success" else "exit " ++ toString traffic.returncode)],
    [traffic], [trafficPath outputDir phase]⟩

variable [JsonLibrary]

/-- The wait for the core after the traffic. -/
def checkCore (rounds : ℕ) (outputDir : Path) (phase : String) : HostM Findings := do
  let path := outputDir / (phase ++ "_final_core_readiness.json")
  let core ← waitCoreReadyOnHost rounds
  core.write path
  return ⟨[stateAssertion (phase ++ ":final_core_ready") core.passed
      "initialized core, MongoDB healthy, current associations, zero restarts for 30s"
      core.detail], [], [path]⟩

/-- A check of the protocol state after the stability window. -/
def finalCliCheck (phase service subcommand : String) (pattern : FieldPattern) : CliCheck where
  service := service
  subcommand := subcommand
  pattern := pattern
  name := phase ++ ":final_" ++ service ++ "_" ++ subcommand
  expected := pattern.source
  file := phase ++ "_final_" ++ service ++ "_" ++ subcommand ++ ".txt"
  silence := ""

def finalCliChecks (phase : String) : List CliCheck :=
  [finalCliCheck phase "gnb" "status" (ngapUp false true),
    finalCliCheck phase "ue" "status" (rmRegistered false true),
    finalCliCheck phase "ue" "ps-list" (psActive false)]

/-- A field of a container in a format string. -/
def formatField (name : String) : String := "\x7b\x7b." ++ name ++ "\x7d\x7d"

def inspectRan : List String :=
  ["docker", "inspect", "--format", formatField "Name" ++ "|" ++
    formatField "State.Status" ++ "|" ++
    formatField "RestartCount", "ueransim-gnb", "ueransim-ue"]

def ranRunning : List String := ["/ueransim-gnb|running|0", "/ueransim-ue|running|0"]

/-- Both RAN containers run and have never restarted. -/
def ranHolds (outcome : CommandOutcome) : Bool :=
  outcome.returncode = 0 ∧ (∀ line ∈ Text.splitlines outcome.stdout, line ∈ ranRunning) ∧
    ∀ line ∈ ranRunning, line ∈ Text.splitlines outcome.stdout

def checkRan (outputDir : Path) (timeout : ℕ) (phase : String) : HostM Findings := do
  let path := outputDir / (phase ++ "_final_ran_containers.txt")
  let ran ← runCommand inspectRan timeout []
  writeOutcome ran path
  return ⟨[stateAssertion (phase ++ ":final_ran_running_without_restarts") (ranHolds ran)
      "both RAN containers running with zero restarts" (Text.strip ran.stdout)], [ran], [path]⟩

/-- Record when the final checks started and finished. -/
def writeTiming (outputDir : Path) (phase started : String) : HostM Path := do
  let path := outputDir / (phase ++ "_final_health_timing.json")
  let finished ← utcNow
  writeText path ((Json.object [("started_at", .string started), ("finished_at", .string finished),
    ("after_traffic", .bool true)]).dumps .plain 0 ++ "\n")
  return path

def validateFinalHealth (rounds : ℕ) (outputDir : Path) (timeout : ℕ) (phase : String) :
    HostM RecoveryValidation := do
  let started ← utcNow
  let core ← checkCore rounds outputDir phase
  let answers ← makeCliChecks outputDir timeout (finalCliChecks phase)
  let ran ← checkRan outputDir timeout phase
  let timing ← writeTiming outputDir phase started
  let findings := Findings.concat ([core] ++ answers ++ [ran])
  return ⟨scenarioStatus findings.assertions, findings.assertions, findings.outcomes,
    findings.evidencePaths ++ [timing]⟩

/-- The checks of the current state, before the traffic probe. -/
def checkCurrent (outputDir : Path) (timeout : ℕ) (phase : String) : HostM Findings := do
  let services ← checkServices outputDir timeout phase
  let answers ← makeCliChecks outputDir timeout (currentCliChecks phase)
  let tunnel ← checkTunnel outputDir timeout phase
  return .concat ([services] ++ answers ++ [tunnel])

def validateCurrentBaseline (rounds : ℕ) (outputDir : Path) (timeout : ℕ) (phase : String) :
    HostM RecoveryValidation := do
  let current ← checkCurrent outputDir timeout phase
  let traffic ← checkTraffic outputDir timeout phase
  let final ← validateFinalHealth rounds outputDir timeout phase
  let assertions := current.assertions ++ traffic.assertions ++ final.assertions
  let path := outputDir / (phase ++ "_assertions.json")
  writeText path (Json.array (assertions.map AssertionResult.json)).pretty
  return ⟨scenarioStatus assertions, assertions,
    current.outcomes ++ traffic.outcomes ++ final.outcomes,
    current.evidencePaths ++ traffic.evidencePaths ++ [path] ++ final.evidencePaths⟩

end FivegLab
