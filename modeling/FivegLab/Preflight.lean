import FivegLab.Host.Command

/-!
# The preflight

What the host must have before a scenario runs.
-/

namespace FivegLab

open Host

/-- `run_command(args)`: the failures of the process are not caught. -/
def preflightCommand (args : List String) : HostM CompletedProcess := subprocess args 5

def commandCheck (name command : String) (required : Bool) : HostM Check := do
  if ← which command then return ⟨name, .pass, command ++ " found"⟩
  else return ⟨name, if required then .fail else .warn, command ++ " not found"⟩

/-- The commands that are looked up: their check, and whether they are required. -/
def lookedUp : List (String × String × Bool) :=
  [("docker_installed", "docker", true), ("iproute2_available", "ip", true),
    ("ss_available", "ss", false), ("tc_available", "tc", false),
    ("tcpdump_available", "tcpdump", false), ("tshark_available", "tshark", false),
    ("jq_available", "jq", false), ("curl_available", "curl", false),
    ("ping_available", "ping", true)]

def commandChecks : List (String × String × Bool) → HostM (List Check)
  | [] => return []
  | (name, command, required) :: rest => do
      let check ← commandCheck name command required
      let checks ← commandChecks rest
      return check :: checks

def checkSystem : HostM (Bool × Check) := do
  let system ← fact .system
  let detected ← fact .system
  let machine ← fact .machine
  let isLinux : Bool := system = "Linux"
  return (isLinux, ⟨"linux_os", if isLinux then .pass else .fail,
    "detected=" ++ detected ++ " " ++ machine⟩)

/-- The check of the Compose plugin, when Docker is installed. -/
def checkCompose : HostM (List Check) := do
  if ← which "docker" then
    let result ← preflightCommand ["docker", "compose", "version"]
    return [⟨"docker_compose_available", if result.returncode = 0 then .pass else .fail,
      Text.orElse (Text.strip result.stdout)
        (Text.orElse (Text.strip result.stderr) "docker compose did not respond")⟩]
  else return []

/-- `path.exists() and path.is_char_device()`. -/
def isDevice (path : Path) : HostM Bool := do
  if ← pathExists path then isCharDevice path else return false

def checkTun : HostM Check := do
  let tun : Path := .ofText "/dev/net/tun"
  let device ← isDevice tun
  let present ← pathExists tun
  return ⟨"tun_device", if device then .pass else .fail,
    if present then "/dev/net/tun exists" else "/dev/net/tun missing"⟩

/-- The module is listed as loaded. -/
def sctpListed : HostM Bool := do
  let modules : Path := .ofText "/proc/modules"
  if ← pathExists modules then
    let text ← readText modules
    return Text.Contains text "sctp"
  else return false

/-- The module can be found. -/
def sctpAvailable : HostM Bool := do
  if ← which "modinfo" then
    let result ← preflightCommand ["modinfo", "sctp"]
    return result.returncode = 0
  else return false

def checkSctp (isLinux : Bool) : HostM Check := do
  if isLinux = false then
    return ⟨"sctp_kernel_support", .fail, "SCTP requires a Linux runtime"⟩
  else if ← sctpListed then
    return ⟨"sctp_kernel_support", .pass, "sctp module listed in /proc/modules"⟩
  else if ← sctpAvailable then
    return ⟨"sctp_kernel_support", .pass, "sctp module available"⟩
  else return ⟨"sctp_kernel_support", .fail, "SCTP module not visible"⟩

def checkIpForward (isLinux : Bool) : HostM Check := do
  let path : Path := .ofText "/proc/sys/net/ipv4/ip_forward"
  if isLinux = false then
    return ⟨"ip_forwarding", .warn, "Linux sysctl unavailable on this host"⟩
  else if ← pathExists path then
    let text ← readText path
    if Text.strip text = "1" then return ⟨"ip_forwarding", .pass, "enabled"⟩
    else return ⟨"ip_forwarding", .warn,
      "disabled on host; UPF container still sets its own sysctl"⟩
  else return ⟨"ip_forwarding", .fail, "ip_forward sysctl missing"⟩

/-- The ports that accept a connection. -/
def findConflicts : List ℕ → HostM (List String)
  | [] => return []
  | port :: ports => do
      let connected ← connects port
      let conflicts ← findConflicts ports
      return if connected then toString port :: conflicts else conflicts

def checkPorts (ports : List ℕ) : HostM Check := do
  let conflicts ← findConflicts ports
  return ⟨"host_port_conflicts", if conflicts = [] then .pass else .warn,
    if conflicts = [] then "no TCP conflicts detected"
    else "in_use=" ++ ",".intercalate conflicts⟩

def minFreeDiskGib : ℚ := 5

def checkDiskSpace : HostM Check := do
  let free ← freeDisk
  let printed ← fact .freeGibibytes
  return ⟨"disk_space", if minFreeDiskGib ≤ free then .pass else .warn, "free_gib=" ++ printed⟩

def runPreflight : HostM (List Check) := do
  let (isLinux, system) ← checkSystem
  let commands ← commandChecks lookedUp
  let compose ← checkCompose
  let tun ← checkTun
  let sctp ← checkSctp isLinux
  let ipForward ← checkIpForward isLinux
  let ports ← checkPorts [7777, 38412]
  let disk ← checkDiskSpace
  return [system] ++ commands ++ compose ++ [tun, sctp, ipForward, ports, disk]

/-- `checks_pass(checks)`, of the preflight and of the configuration. -/
def ChecksPass (checks : List Check) : Prop := ∀ check ∈ checks, check.status ≠ .fail

instance (checks : List Check) : Decidable (ChecksPass checks) :=
  inferInstanceAs (Decidable (∀ check ∈ checks, _))

end FivegLab
