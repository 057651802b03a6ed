import FivegLab.Host.Command
import FivegLab.Sha256

/-!
# The context of a run

What a baseline result is bound to: the commit, the configuration, the effective
Compose configuration and the host.
-/

namespace FivegLab

open Routine (raise attempt ofExcept)
open Host

/-- `text.encode()`. -/
def encode (text : String) : Bytes := text.toList.flatMap String.utf8EncodeChar

/-- `json.dumps(context, sort_keys=True, separators=(",", ":"))`. -/
def canonical (context : Json) : String := context.dumps .canonical 0

def contextFingerprint (context : Json) : String := Sha256.hexdigest (encode (canonical context))

/-- `path.relative_to(base)`. -/
def Path.relativeTo (path base : Path) : Except Raised Path :=
  if path.absolute = base.absolute ∧ base.parts <+: path.parts then
    .ok ⟨false, path.parts.drop base.parts.length⟩
  else .error (.valueError ("'" ++ path.text ++ "' is not in the subpath of '" ++ base.text ++ "'"))

def sha256File (path : Path) : HostM String := do
  let bytes ← readBytes path
  return Sha256.hexdigest bytes

/-- What is known of the resolved Compose configuration. -/
inductive ComposeState
  | unavailable
  | available (sha256 : String) (images : List (String × Json))
  deriving DecidableEq, Repr

namespace ComposeState

def json : ComposeState → Json
  | unavailable => .object [("available", .bool false)]
  | available sha256 images => .object
      [("available", .bool true), ("sha256", .string sha256), ("images", .object images)]

/-- `effective.get("images", {})`. -/
def images : ComposeState → List (String × Json)
  | unavailable => []
  | available _ images => images

def isAvailable : ComposeState → Bool
  | unavailable => false
  | available _ _ => true

end ComposeState

/-- `key in value`, for a key that is a text. -/
def Json.contains (value : Json) (key : String) : Except Raised Bool :=
  match value with
  | .object fields => .ok (lookup key fields).isSome
  | .array items => .ok (.string key ∈ items)
  | .string text => .ok (Text.Contains text key)
  | value => .error ⟨.typeError, "argument of type '" ++ value.typeName ++ "' is not iterable"⟩

/-- The images of the services that have one. -/
def composeImages : List (String × Json) → Except Raised (List (String × Json))
  | [] => return []
  | (name, service) :: services => do
      if ← service.contains "image" then
        let image ← service.index "image"
        let images ← composeImages services
        return (name, image) :: images
      else composeImages services

/-- The state of a resolved configuration. -/
def composeState (resolved : Json) : Except Raised ComposeState := do
  match ← resolved.get "services" .null with
  | .object services => do
      let images ← composeImages services
      return .available (contextFingerprint resolved) images
  | _ => .error (.valueError "Compose services missing")

def resolveCompose : List String :=
  ["docker", "compose", "--profile", "ran", "--profile", "tools", "config", "--format", "json"]

variable [JsonLibrary]

def readCompose (result : CommandOutcome) : Except Raised ComposeState :=
  if result.returncode ≠ 0 then .error (.valueError "Compose resolution failed")
  else JsonLibrary.loads result.stdout >>= composeState

/-- `except (ValueError, TypeError, AttributeError)`. -/
def Raised.isMalformed (error : Raised) : Bool :=
  error.isValueError || error.kind = .typeError || error.kind = .attributeError

/-- The resolved configuration, without its possible secrets. -/
def effectiveComposeState : HostM ComposeState := do
  let result ← runCommand resolveCompose 15 []
  match readCompose result with
  | .ok effective => return effective
  | .error error => if error.isMalformed then return .unavailable else raise error

def repositoryCommit : HostM String := do
  let result ← subprocess ["git", "rev-parse", "HEAD"] 5
  return if result.returncode = 0 then Text.strip result.stdout else "unknown"

def engineVersion : List String :=
  ["docker", "version", "--format", "\x7b\x7b.Server.Version\x7d\x7d|\x7b\x7b.Server.Os\x7d\x7d|" ++
    "\x7b\x7b.Server.Arch\x7d\x7d|\x7b\x7b.Server.KernelVersion\x7d\x7d"]

def dockerEngineIdentity : HostM String := do
  match ← attempt (subprocess engineVersion 5) with
  | .ok result => return if result.returncode = 0 then Text.strip result.stdout else "unavailable"
  | .error error =>
      if error.isOSError || error.kind = .timeoutExpired then return "unavailable" else raise error

/-- What a run is bound to. -/
structure RuntimeContext where
  gitCommit : String
  /-- The digests of the configuration files, by path. -/
  configSha256 : List (String × String)
  effectiveCompose : ComposeState
  node : String
  system : String
  release : String
  machine : String
  dockerEngine : String
  deriving DecidableEq, Repr

def baselineContextSchemaVersion : ℤ := 2

def RuntimeContext.json (context : RuntimeContext) : Json := .object
  [("schema_version", .int baselineContextSchemaVersion), ("git_commit", .string context.gitCommit),
    ("config_sha256", .object (context.configSha256.map fun file => (file.1, .string file.2))),
    ("runtime_images", .object context.effectiveCompose.images),
    ("effective_compose", context.effectiveCompose.json),
    ("host", .object
      [("node", .string context.node), ("system", .string context.system),
        ("release", .string context.release), ("machine", .string context.machine),
        ("docker_engine", .string context.dockerEngine)])]

/-- `context_fingerprint(context)`. -/
def RuntimeContext.fingerprint (context : RuntimeContext) : String :=
  contextFingerprint context.json

def runtimeContextPaths : List String := ["docker-compose.yml", "configs/subscriber_config.yaml"]

/-- The files that the context covers. -/
def configPaths (repoRoot : Path) : HostM (List Path) := do
  let open5gs ← glob (repoRoot / "configs/open5gs") "*.yaml"
  let ueransim ← glob (repoRoot / "configs/ueransim") "*.yaml"
  return runtimeContextPaths.map (repoRoot / ·) ++ Path.sort open5gs ++ Path.sort ueransim

/-- The digests of files, by their paths in the repository. -/
def configDigests (repoRoot : Path) : List Path → HostM (List (String × String))
  | [] => return []
  | path :: paths => do
      let relative ← ofExcept (path.relativeTo repoRoot)
      let digest ← sha256File path
      let digests ← configDigests repoRoot paths
      return (relative.text, digest) :: digests

def runtimeContextManifest (repoRoot : Path) : HostM RuntimeContext := do
  let paths ← configPaths repoRoot
  let effectiveCompose ← effectiveComposeState
  let gitCommit ← repositoryCommit
  let configSha256 ← configDigests repoRoot paths
  let node ← fact .node
  let system ← fact .system
  let release ← fact .release
  let machine ← fact .machine
  let dockerEngine ← dockerEngineIdentity
  return { gitCommit, configSha256, effectiveCompose, node, system, release, machine, dockerEngine }

end FivegLab
