import FivegLab.Config.Compose
import FivegLab.Interpolation
import FivegLab.Readiness.Read

/-!
# The documents of the probes

The Compose document that `run_probe` writes for a container: the settings of a
resolved service, and a script or a bootstrap command in place of its own.
-/

namespace FivegLab.RuntimePreflight

open Config (logTarget logVolume shortParts mountType readOnly)

def logScript : String :=
  "set -eu\n" ++
  "probe_file=\"/var/log/open5gs/$PROBE_FILE\"\n" ++
  "trap 'rm -f -- \"$probe_file\"' EXIT\n" ++
  "trap 'exit 1' INT TERM\n" ++
  "id\n" ++
  "[ -w \"/var/log/open5gs/$NF_LOG_FILE\" ]\n" ++
  "(umask 077; set -C; : > \"$probe_file\")\n" ++
  "printf '%s\\n' runtime-write-check > \"$probe_file\"\n" ++
  "rm -- \"$probe_file\"\n" ++
  "[ ! -e \"$probe_file\" ]\n" ++
  "trap - EXIT\n" ++
  "echo RUNTIME_LOG_WRITE_PASS\n"

def mongoScript : String :=
  "set -eu\n" ++
  "docker-entrypoint.sh mongod --bind_ip 127.0.0.1 &\n" ++
  "mongo_pid=$!\n" ++
  "cleanup() \x7b kill \"$mongo_pid\" 2>/dev/null || true; " ++
    "wait \"$mongo_pid\" 2>/dev/null || true; \x7d\n" ++
  "trap cleanup EXIT\n" ++
  "trap 'exit 1' INT TERM\n" ++
  "attempt=0\n" ++
  "while [ \"$attempt\" -lt 30 ]; do\n" ++
  "    if ! kill -0 \"$mongo_pid\" 2>/dev/null; then\n" ++
  "        echo 'MongoDB exited before readiness; inspect startup output above' >&2\n" ++
  "        exit 1\n" ++
  "    fi\n" ++
  "    if mongosh --quiet --host 127.0.0.1 --eval " ++
    "        'quit(db.runCommand(\x7bping:1\x7d).ok === 1 ? 0 : 1)'; then\n" ++
  "        echo MONGODB_PING_PASS\n" ++
  "        exit 0\n" ++
  "    fi\n" ++
  "    attempt=$((attempt + 1))\n" ++
  "    sleep 1\n" ++
  "done\n" ++
  "echo 'MongoDB did not become ready within the smoke-check window' >&2\n" ++
  "exit 1\n"

/-- The fields of a mapping. -/
abbrev Fields := List (String × Json)

/-- `fields[key] = value`: a field that exists keeps its place. -/
def setField (key : String) (value : Json) : Fields → Fields
  | [] => [(key, value)]
  | (name, old) :: fields =>
      if name = key then (name, value) :: fields else (name, old) :: setField key value fields

/-- `fields | others`. -/
def merge (fields others : Fields) : Fields :=
  others.foldl (fun fields other => setField other.1 other.2 fields) fields

/-- An element of the values that `dict` takes pairs from. -/
def pairOf (position : ℕ) (value : Json) : Except Raised (String × Json) :=
  match value.elements with
  | .error _ => .error ⟨.typeError, "cannot convert dictionary update sequence element #" ++
      toString position ++ " to a sequence"⟩
  | .ok [key, value] => do
      let key ← key.hashable
      return (key.keyText, value)
  | .ok items => .error (.valueError ("dictionary update sequence element #" ++
      toString position ++ " has length " ++ toString items.length ++ "; 2 is required"))

def pairsOf (position : ℕ) : List Json → Except Raised Fields
  | [] => return []
  | value :: values => do
      let pair ← pairOf position value
      let pairs ← pairsOf (position + 1) values
      return pair :: pairs

/-- `dict(value)`. -/
def dictOf : Json → Except Raised Fields
  | .object fields => .ok fields
  | value => do
      let items ← value.elements
      let pairs ← pairsOf 0 items
      return merge [] pairs

/-- `value[1]`. -/
def second : Json → Except Raised Json
  | .array (_ :: value :: _) => .ok value
  | .array _ => .error ⟨.indexError, "list index out of range"⟩
  | .string text =>
      match text.toList with
      | _ :: c :: _ => .ok (.string c.toString)
      | _ => .error ⟨.indexError, "string index out of range"⟩
  | .object _ => .error ⟨.keyError, "1"⟩
  | value => .error ⟨.typeError, "'" ++ value.typeName ++ "' object is not subscriptable"⟩

/-- A mount of a resolved service, in its long form. -/
def mountOf : Json → Option Fields
  | .string mount => (shortParts mount).map fun (source, target, options) =>
      [("source", .string source), ("target", .string target),
        ("type", .string (mountType source)), ("read_only", .bool (options.any readOnly))]
  | .object mount => some mount
  | _ => none

/-- The item as a mount, if it has the target. -/
def mountWithTarget (target : Json) (item : Json) : Option Fields :=
  (mountOf item).filter fun mount => (Json.lookup "target" mount).getD .null = target

def mountAt (settings : Fields) (target : Json) : Fields :=
  match Json.lookup "volumes" settings with
  | some (.array items) => (items.findSome? (mountWithTarget target)).getD []
  | _ => []

/-- The settings that a probe keeps. -/
def probeSettings : List String :=
  ["image", "platform", "user", "cap_add", "cap_drop", "devices", "privileged", "security_opt",
    "userns_mode", "group_add", "sysctls", "read_only", "environment"]

inductive ProbeRole
  | init
  | logs
  | bootstrap
  | mongo
  deriving DecidableEq, Repr

def keptSettings (settings : Fields) : Fields :=
  probeSettings.filterMap fun key => (Json.lookup key settings).map fun value => (key, value)

/-- The probe's own settings: no network, no restart, no health check. -/
def isolated (settings : Fields) : Fields :=
  merge (keptSettings settings) [("network_mode", .string "none"), ("restart", .string "no"),
    ("healthcheck", .object [("disable", .bool true)])]

/-- A probe that runs a shell script. -/
def withScript (script : String) (probe : Fields) : Fields :=
  merge probe [("entrypoint", .strings ["/bin/sh"]), ("command", .strings ["-ec", script])]

/-- A probe that runs the bootstrap of its service, with the log volume and the script. -/
def bootstrapProbe (settings : Fields) (command : List String) : Except Raised Fields := do
  let entrypoint ← (Json.object settings).index "entrypoint"
  let target ← second entrypoint
  let mounts := [mountAt settings (.string logTarget), mountAt settings target]
  return merge (isolated settings) [("entrypoint", entrypoint), ("command", .strings command),
    ("volumes", .array (mounts.map .object))]

/-- A probe that writes a file of its own next to the logs of the service. -/
def logProbe (settings : Fields) (service name : String) : Except Raised Fields := do
  let probe := withScript logScript (isolated settings)
  let environment ← dictOf ((Json.lookup "environment" probe).getD (.object []))
  return merge probe [
    ("environment", .object (merge environment
      [("PROBE_FILE", .string name), ("NF_LOG_FILE", .string (service ++ ".log"))])),
    ("volumes", .array [.object (mountAt settings (.string logTarget))])]

/-- `probe_service(settings, role, service, name)`: the probe and its marker. -/
def probeService (settings : Fields) (role : ProbeRole) (service name : String) :
    Except Raised (Fields × String) :=
  match role with
  | .mongo => return (withScript mongoScript (isolated settings), "MONGODB_PING_PASS")
  | .init => return (← bootstrapProbe settings [], "LOG_DIRECTORY_READY")
  | .bootstrap => return (← bootstrapProbe settings ["--check"], "UPF_BOOTSTRAP_PASS")
  | .logs => return (← logProbe settings service name, "RUNTIME_LOG_WRITE_PASS")

/-- The Compose document of a probe. -/
def composeDocument (probe : Fields) (role : ProbeRole) (volumeName : Json) : Json :=
  .object (("services", .object [("probe", .object probe)]) ::
    if role = .mongo then []
    else [("volumes", .object [(logVolume, .object
      [("external", .bool true), ("name", volumeName)])])])

/-- `text.replace("$", "$$")`. -/
def doubleDollars (text : String) : String := .ofList (Interpolation.double text.toList)

/-- The document of a probe, and the marker that it prints. -/
def probeDocument (settings : Fields) (role : ProbeRole) (service name : String)
    (volumeName : Json) : Except Raised (Json × String) := do
  let (probe, marker) ← probeService settings role service name
  return (composeDocument probe role volumeName, marker)

/-- The text that `run_probe` writes. -/
def probeText (settings : Fields) (role : ProbeRole) (service name : String) (volumeName : Json) :
    Except Raised String := do
  let (document, _) ← probeDocument settings role service name volumeName
  return doubleDollars (document.dumps .plain 0)

/-- The text that is written has no expressions, and interpolation gives back the text
of the document, whatever the environment holds. -/
theorem probeText_interpolated (environment : Interpolation.Environment) (settings : Fields)
    (role : ProbeRole) (service name : String) (volumeName : Json) :
    (probeText settings role service name volumeName).map (fun text =>
        (Interpolation.interpolate environment text.toList,
          Interpolation.parts .text text.toList)) =
      (probeDocument settings role service name volumeName).map fun built =>
        (some (built.1.dumps .plain 0).toList,
          some ((built.1.dumps .plain 0).toList.map Interpolation.Part.ofChar)) := by
  rw [probeText]
  cases probeDocument settings role service name volumeName with
  | error error => rfl
  | ok built =>
      simp only [Except.map, Bind.bind, Except.bind, Pure.pure, Except.pure, doubleDollars,
        String.toList_ofList, Interpolation.interpolate_double, Interpolation.parts_double]

end FivegLab.RuntimePreflight
