import FivegLab.RuntimePreflight.ProbeDocument
import FivegLab.Host.Execute

/-!
# The runtime preflight

`run_runtime_preflight`: the tools of the host, the contract of the resolved
configuration, the images, the log volume, and then the probes, each in a
container of its own that is removed behind it.
-/

namespace FivegLab

open Routine (attempt ofExcept raise)

namespace Text

/-- `text.replace(part, by)`, in front of which some characters are skipped. -/
def replaceChars (part by_ : List Char) : ℕ → List Char → List Char
  | _, [] => []
  | skipped + 1, _ :: rest => replaceChars part by_ skipped rest
  | 0, c :: rest =>
      if part <+: c :: rest then by_ ++ replaceChars part by_ (part.length - 1) rest
      else c :: replaceChars part by_ 0 rest

/-- `text.replace(part, new)`, for a part that is not empty. -/
def replace (text part new : String) : String :=
  .ofList (replaceChars part.toList new.toList 0 text.toList)

end Text

namespace Json

mutual

/-- The document as the configuration is read; `value` is what the printed form of a
float denotes. -/
def toYaml (value : String → Option ℚ) : Json → Yaml
  | .null => .null
  | .bool value => .bool value
  | .int value => .int value
  | .float printed => .float printed (value printed)
  | .string text => .text text
  | .array items => .list (toYamlItems value items)
  | .object fields => .mapping (toYamlEntries value fields)

def toYamlItems (value : String → Option ℚ) : List Json → List Yaml
  | [] => []
  | item :: items => toYaml value item :: toYamlItems value items

def toYamlEntries (value : String → Option ℚ) : List (String × Json) → Entries
  | [] => []
  | (key, item) :: fields => (.text key, toYaml value item) :: toYamlEntries value fields

end

end Json

namespace RuntimePreflight

/-- What the preflight relies on but does not define: `json.loads`, `yaml.safe_load`,
the tables of Unicode, and the values of floats. -/
class Library extends JsonLibrary, Unicode where
  safeLoad : String → Except Raised Yaml
  floatValue : String → Option ℚ

structure CapabilityCheck where
  name : String
  status : ResultStatus
  detail : String
  deriving DecidableEq, Repr

def capabilityStatus (checks : List CapabilityCheck) : ResultStatus :=
  if checks.any (·.status = .fail) then .fail
  else if checks.any (·.status = .blocked) then .blocked
  else .pass

/-- What the preflight asks of its host: besides the calls of every run, fresh names
for its probes, and temporary directories. -/
inductive PreflightOp
  | host (op : HostOp)
  | newName
  | makeTemporary
  | removeTemporary (directory : Path)
  deriving DecidableEq, Repr

abbrev PreflightOp.Reply : PreflightOp → Type
  | .host op => op.Reply
  | .newName => String
  | .makeTemporary => Except Raised Path
  | .removeTemporary _ => Except Raised Unit

abbrev PreflightHost : Interface where
  Op := PreflightOp
  Reply := PreflightOp.Reply

abbrev PreflightM := Routine PreflightHost Unit Raised

/-- The calls of every run. -/
def hostCalls : Realization Host PreflightHost :=
  fun op => .call (I := PreflightHost) (.host op) .done

/-- A routine of the host. -/
def onHost {α : Type} (routine : HostM α) : PreflightM α := routine.realize hostCalls

/-- `execute(args, repo_root, timeout)`. -/
def execute (args : List String) (timeout : ℕ := 15) : PreflightM CompletedProcess :=
  onHost (FivegLab.execute args timeout)

def makeTemporary : PreflightM Path :=
  Routine.call (I := PreflightHost) .makeTemporary >>= ofExcept

def removeTemporary (directory : Path) : PreflightM Unit :=
  Routine.call (I := PreflightHost) (.removeTemporary directory) >>= ofExcept

/-- `tempfile.TemporaryDirectory`: the directory is removed behind the body. -/
def withTemporaryDirectory {α : Type} (body : Path → PreflightM α) : PreflightM α := do
  let directory ← makeTemporary
  let ended ← attempt (body directory)
  removeTemporary directory
  ofExcept ended

def dockerInfo : List String :=
  ["docker", "info", "--format", "\x7b\x7b.OSType\x7d\x7d/\x7b\x7b.Architecture\x7d\x7d"]

def composeVersion : List String := ["docker", "compose", "version"]

/-- The platform that the daemon prints, under Docker's names. -/
def daemonPlatform (stdout : String) : String :=
  Text.replace (Text.replace (Text.strip stdout) "x86_64" "amd64") "aarch64" "arm64"

/-- The daemon answered, and runs on Linux. -/
def DaemonOk (daemon : CompletedProcess) : Prop :=
  daemon.returncode = 0 ∧ Text.StartsWith (daemonPlatform daemon.stdout) "linux/"

instance (daemon : CompletedProcess) : Decidable (DaemonOk daemon) :=
  inferInstanceAs (Decidable (_ ∧ _))

def runtimeTools : PreflightM CapabilityCheck := do
  let system ← onHost (Host.fact .system)
  if system ≠ "Linux" then
    return ⟨"linux_runtime", .blocked, "Run this check on the Linux lab host."⟩
  else
    let daemon ← execute dockerInfo
    if DaemonOk daemon then
      let compose ← execute composeVersion
      if compose.returncode ≠ 0 then return ⟨"docker_compose", .blocked, compose.outputText⟩
      else return ⟨"docker_runtime", .pass, daemonPlatform daemon.stdout⟩
    else return ⟨"docker_runtime", .blocked, daemon.outputText⟩

section Library

variable [Library]

def composeConfig : List String := ["docker", "compose", "config", "--format", "json"]

/-- `load_yaml(path)`. -/
def loadYaml (path : Path) : PreflightM Entries := do
  let text ← onHost (Host.readText path)
  match ← ofExcept (Library.safeLoad text) with
  | .mapping entries => return entries
  | _ => raise (.valueError (path.text ++ " must contain a YAML mapping"))

/-- The entries of the resolved document. -/
def composeEntries (document : Json) : Except Raised Entries :=
  match document.toYaml Library.floatValue with
  | .mapping entries => .ok entries
  | value => .error ⟨.attributeError, "'" ++ value.typeName ++ "' object has no attribute 'get'"⟩

/-- The resolved document, with its contract. -/
structure Resolved where
  compose : Json
  services : Json
  contract : List Check

def resolveCompose (repoRoot : Path) (stdout : String) : PreflightM Resolved := do
  let compose ← ofExcept (JsonLibrary.loads stdout)
  let entries ← ofExcept (composeEntries compose)
  let contract ← ofExcept (Config.validateContainerRuntimeContract entries)
  let upf ← loadYaml (repoRoot / "configs/open5gs/upf.yaml")
  let services ← ofExcept (compose.index "services")
  return ⟨compose, services, contract ++ Config.validateUpfAddressAlignment entries upf⟩

/-- `except (ValueError, KeyError, TypeError)`. -/
def isDocumentError (error : Raised) : Bool :=
  error.isValueError || error.kind = .keyError || error.kind = .typeError

/-- The failed checks of a contract. -/
def contractFailures (contract : List Check) : List CapabilityCheck :=
  (contract.filter (·.status = .fail)).map fun check => ⟨check.name, .fail, check.detail⟩

def requiredImages (mongodb : Bool) : List String :=
  ("log-init" :: Config.open5gsNfs) ++ if mongodb then ["mongodb"] else []

/-- `str(services[name]["image"])`. -/
def serviceImage (services : Json) (name : String) : Except Raised String := do
  let settings ← services.index name
  let image ← settings.index "image"
  return (image.toYaml Library.floatValue).printed

omit [Library] in
def inspectImage (image : String) : List String :=
  ["docker", "image", "inspect", "--format",
    "\x7b\x7b.Os\x7d\x7d/\x7b\x7b.Architecture\x7d\x7d \x7b\x7b.Id\x7d\x7d", image]

/-- The image is there, for the platform of the daemon. -/
def NativeImage (platform : String) (inspected : CompletedProcess) : Prop :=
  inspected.returncode = 0 ∧ Text.StartsWith (Text.strip inspected.stdout) (platform ++ " ")

instance (platform : String) (inspected : CompletedProcess) :
    Decidable (NativeImage platform inspected) :=
  inferInstanceAs (Decidable (_ ∧ _))

def imageCheck (platform name image : String) (inspected : CompletedProcess) : CapabilityCheck :=
  if NativeImage platform inspected then
    ⟨name ++ "_image", .pass, image ++ ": " ++ Text.strip inspected.stdout⟩
  else
    ⟨name ++ "_image", .blocked, "Need a local native " ++ platform ++ " image: " ++ image ++
      ". Pull the configured image explicitly, then retry. " ++ inspected.outputText⟩

def inspectImages (platform : String) (services : Json) :
    List String → PreflightM (List CapabilityCheck)
  | [] => return []
  | name :: names => do
      let image ← ofExcept (serviceImage services name)
      let inspected ← execute (inspectImage image)
      let checks ← inspectImages platform services names
      return imageCheck platform name image inspected :: checks

/-- `compose["volumes"][LOG_VOLUME]["name"]`. -/
def logVolumeName (compose : Json) : Except Raised Json := do
  let volumes ← compose.index "volumes"
  let volume ← volumes.index Config.logVolume
  volume.index "name"

/-- The arguments of the command that creates the log volume. -/
def createVolume (project : String) (volumeName : Json) : List Json :=
  ["docker", "volume", "create", "--label", "com.docker.compose.project=" ++ project,
    "--label", "com.docker.compose.volume=" ++ Config.logVolume].map .string ++ [volumeName]

def volumeCheck (volumeName : Json) (prepared : CompletedProcess) : CapabilityCheck :=
  ⟨"runtime_log_volume", if prepared.returncode = 0 then .pass else .fail,
    "Persistent lab log volume (retained): " ++ (volumeName.toYaml Library.floatValue).printed ++
    "\n" ++
      prepared.outputText⟩

/-- Create the log volume: its name, and the check. -/
def prepareVolume (compose : Json) : PreflightM (Json × CapabilityCheck) := do
  let volumeName ← ofExcept (logVolumeName compose)
  let project ← ofExcept (compose.index "name")
  let args ← ofExcept (commandArguments
    (createVolume (project.toYaml Library.floatValue).printed volumeName))
  let prepared ← execute args
  return (volumeName, volumeCheck volumeName prepared)

end Library

/-- The common arguments of the containers of a probe. -/
def composeRun (name : String) (path : Path) : List String :=
  ["docker", "compose", "-p", name, "-f", path.text, "run", "--rm", "--no-deps", "--pull", "never",
    "-T"]

def removeContainer (name : String) : List String := ["docker", "rm", "--force", "--volumes", name]

def findContainer (name : String) : List String :=
  ["docker", "ps", "--all", "--quiet", "--filter", "name=^/" ++ name ++ "$"]

/-- The container was looked for, and is not there. -/
def ContainerGone (remaining : CompletedProcess) : Prop :=
  remaining.returncode = 0 ∧ Text.strip remaining.stdout = ""

instance (remaining : CompletedProcess) : Decidable (ContainerGone remaining) :=
  inferInstanceAs (Decidable (_ ∧ _))

def cleanupCheck (name : String) (removed remaining : CompletedProcess) : CapabilityCheck :=
  if ContainerGone remaining then ⟨"probe_cleanup", .pass, "Container absent: " ++ name⟩
  else ⟨"probe_cleanup", .fail, "CLEANUP FAILED for " ++ name ++
    "; retry docker rm --force --volumes " ++ name ++ ".\n" ++ removed.outputText ++ "\n" ++
    remaining.outputText⟩

def cleanupProbe (name : String) : PreflightM CapabilityCheck := do
  let removed ← execute (removeContainer name)
  let remaining ← execute (findContainer name)
  return cleanupCheck name removed remaining

def cleanupName (name : String) : String := name ++ "-cleanup"

/-- The file that the probe wrote. -/
def probeFile (name : String) : String := Config.logTarget ++ "/" ++ name

def removeFile (name : String) (path : Path) : List String :=
  composeRun name path ++ ["--name", cleanupName name, "--entrypoint", "/bin/sh", "probe", "-ec",
    "rm -f -- " ++ probeFile name ++ " && test ! -e " ++ probeFile name ++ " && test ! -L " ++
      probeFile name]

def fileCheck (name : String) (result : CompletedProcess) : CapabilityCheck :=
  ⟨"probe_file_cleanup", if result.returncode = 0 then .pass else .fail,
    "file=" ++ probeFile name ++ "; exit=" ++ toString result.returncode ++ "\n" ++
      result.outputText⟩

def cleanupLogFile (name : String) (path : Path) : PreflightM (List CapabilityCheck) := do
  let result ← execute (removeFile name path)
  let container ← cleanupProbe (cleanupName name)
  return [fileCheck name result, container]

def cleanup (role : ProbeRole) (name : String) (path : Path) :
    PreflightM (List CapabilityCheck) := do
  let container ← cleanupProbe name
  if role = .logs then
    let file ← cleanupLogFile name path
    return container :: file
  else return [container]

/-- Install the handlers of before the cleanup. -/
def restoreHandlers (oldInt previousTerm : Disposition) : PreflightM Unit := do
  let _ ← onHost (Host.setSignal .int oldInt)
  let _ ← onHost (Host.setSignal .term previousTerm)

/-- The cleanup with both signals ignored. -/
def protectedCleanup (previousTerm : Disposition) (role : ProbeRole) (name : String) (path : Path) :
    PreflightM (List CapabilityCheck) := do
  let oldInt ← onHost (Host.setSignal .int .ignored)
  let _ ← onHost (Host.setSignal .term .ignored)
  let ended ← attempt (cleanup role name path)
  restoreHandlers oldInt previousTerm
  ofExcept ended

def ProbeRole.text : ProbeRole → String
  | .init => "init"
  | .logs => "logs"
  | .bootstrap => "bootstrap"
  | .mongo => "mongo"

def startProbe (name : String) (path : Path) : List String :=
  composeRun name path ++ ["--name", name, "probe"]

def probeTimeout (role : ProbeRole) : ℕ := if role = .mongo then 90 else 30

/-- The probe exited with zero, and printed its marker as a line. -/
def ProbePassed (marker : String) (result : CompletedProcess) : Prop :=
  result.returncode = 0 ∧ marker ∈ Text.splitlines result.stdout

instance (marker : String) (result : CompletedProcess) : Decidable (ProbePassed marker result) :=
  inferInstanceAs (Decidable (_ ∧ _))

def probeName (service : String) (role : ProbeRole) : String := service ++ "_" ++ role.text

def probeCheck (service : String) (role : ProbeRole) (name marker : String)
    (result : CompletedProcess) : CapabilityCheck :=
  ⟨probeName service role, if ProbePassed marker result then .pass else .fail,
    "container=" ++ name ++ "; exit=" ++ toString result.returncode ++ "\n" ++ result.outputText⟩

def interruptedCheck (service : String) (role : ProbeRole) : CapabilityCheck :=
  ⟨probeName service role, .fail, "Interrupted"⟩

/-- What is reported of the end of a probe; only an interrupt is caught. -/
def probeOutcome (service : String) (role : ProbeRole) (name marker : String) :
    Except Raised CompletedProcess → Except Raised CapabilityCheck
  | .ok result => .ok (probeCheck service role name marker result)
  | .error error =>
      if error.kind = .keyboardInterrupt then .ok (interruptedCheck service role)
      else .error error

/-- Start the container of a probe, and clean up behind it, however it ends. -/
def watchProbe (service : String) (role : ProbeRole) (name marker : String) (path : Path) :
    PreflightM (List CapabilityCheck) := do
  let previous ← onHost (Host.setSignal .term .interrupting)
  let ended ← attempt (execute (startProbe name path) (probeTimeout role))
  let cleaned ← protectedCleanup previous role name path
  let found ← ofExcept (probeOutcome service role name marker ended)
  return found :: cleaned

def runProbe (service : String) (settings : Fields) (role : ProbeRole) (volumeName : Json) :
    PreflightM (List CapabilityCheck) := do
  let hex ← Routine.call (I := PreflightHost) .newName
  let name := "open5gs-runtime-preflight-" ++ hex
  let (document, marker) ← ofExcept (probeDocument settings role service name volumeName)
  withTemporaryDirectory fun directory => do
    let path := directory / "compose.json"
    onHost (Host.writeText path (doubleDollars (document.dumps .plain 0)))
    watchProbe service role name marker path

def probePlan (mongodb : Bool) : List (String × ProbeRole) :=
  ("log-init", .init) :: Config.open5gsNfs.map (fun name => (name, .logs)) ++
    [("upf", .bootstrap)] ++ if mongodb then [("mongodb", .mongo)] else []

/-- The settings of a service.  Its image has been read from them, so they are a mapping. -/
def serviceSettings (services : Json) (service : String) : Except Raised Fields := do
  match ← services.index service with
  | .object settings => return settings
  | value => .error ⟨.typeError, "'" ++ value.typeName ++ "' object is not subscriptable"⟩

/-- Run the probes one after the other, as long as all checks pass. -/
def runProbes (services volumeName : Json) :
    List (String × ProbeRole) → List CapabilityCheck → PreflightM (List CapabilityCheck)
  | [], checks => return checks
  | (service, role) :: plan, checks =>
      if capabilityStatus checks ≠ .pass then return checks
      else do
        let settings ← ofExcept (serviceSettings services service)
        let found ← runProbe service settings role volumeName
        runProbes services volumeName plan (checks ++ found)

variable [Library]

/-- The preflight of a configuration that meets its contract. -/
def checkRuntime (environment : CapabilityCheck) (resolved : Resolved) (mongodb : Bool) :
    PreflightM (List CapabilityCheck) := do
  let images ← inspectImages environment.detail resolved.services (requiredImages mongodb)
  let checks := environment :: images
  if capabilityStatus checks ≠ .pass then return checks
  else
    let (volumeName, volume) ← prepareVolume resolved.compose
    runProbes resolved.services volumeName (probePlan mongodb) (checks ++ [volume])

/-- `run_runtime_preflight(repo_root, mongodb=mongodb)`. -/
def runRuntimePreflight (repoRoot : Path) (mongodb : Bool) : PreflightM (List CapabilityCheck) := do
  let environment ← runtimeTools
  if environment.status ≠ .pass then return [environment]
  else
    let config ← execute composeConfig
    if config.returncode ≠ 0 then return [⟨"resolved_compose", .fail, config.outputText⟩]
    else
      match ← attempt (resolveCompose repoRoot config.stdout) with
      | .error error =>
          if isDocumentError error then return [⟨"resolved_compose", .fail, error.message⟩]
          else raise error
      | .ok resolved =>
          let failures := contractFailures resolved.contract
          if failures ≠ [] then return failures
          else checkRuntime environment resolved mongodb

end RuntimePreflight

end FivegLab
