import FivegLab.Config.Basic
import FivegLab.IpAddress

/-!
# The Compose contract

The checks of a Compose document that the static validation makes on the file as
it is written, and the preflight on the document that Compose resolves.
-/

namespace FivegLab.Config

open Yaml

variable [Unicode]

def open5gsNfs : List String :=
  ["nrf", "ausf", "udm", "udr", "bsf", "pcf", "amf", "smf", "upf"]

def labSbiPort : ℤ := 7777

def logVolume : String := "open5gs-logs"

def logTarget : String := "/var/log/open5gs"

def upfScript : String := "/lab/upf-entrypoint.sh"

def logInitScript : String := "/lab/prepare-runtime-logs.sh"

/-- `item.partition("=")`, for an item with the separator. -/
def assignment (item : String) : Option (String × String) :=
  if '=' ∈ item.toList then
    some (.ofList (item.toList.takeWhile (· ≠ '=')),
      .ofList ((item.toList.dropWhile (· ≠ '=')).drop 1))
  else none

/-- The variable that an item of a list sets. -/
def variableOf : Yaml → Option (Yaml × Yaml)
  | .text item => (assignment item).map fun found => (.text found.1, .text found.2)
  | _ => none

def composeEnvironment : Yaml → Entries
  | .mapping entries => entries
  | .list items => items.filterMap variableOf
  | _ => []

/-- The parts of a short device or mount: two, or three with options. -/
def shortParts (text : String) : Option (String × String × Option String) :=
  match text.toList.splitOn ':' with
  | [source, target] => some (.ofList source, .ofList target, none)
  | [source, target, options] => some (.ofList source, .ofList target, some (.ofList options))
  | _ => none

/-- The source, the target and the permissions of a device. -/
def deviceFields : Yaml → Option (String × String × String)
  | .text device =>
      (shortParts device).map fun (source, target, permissions) =>
        (source, target, permissions.getD "rwm")
  | .mapping device =>
      some (((lookup "source" device).getD (.text "")).printed,
        ((lookup "target" device).getD (.text "")).printed,
        ((lookup "permissions" device).getD (.text "rwm")).printed)
  | _ => none

/-- The device is the tunnel device, with read and write access. -/
def isTunDevice (device : Yaml) : Bool :=
  match deviceFields device with
  | some (source, target, permissions) =>
      source = "/dev/net/tun" && target = "/dev/net/tun" && 'r' ∈ permissions.toList &&
        'w' ∈ permissions.toList
  | none => false

def exposesTunDevice : Yaml → Bool
  | .list devices => devices.any isTunDevice
  | _ => false

/-- A path is bound, any other source is a volume. -/
def mountType (source : String) : String :=
  if Text.StartsWith source "." ∨ Text.StartsWith source "/" ∨
  Text.StartsWith source "~" then "bind"
  else "volume"

/-- `"ro" in options.split(",")`. -/
def readOnly (options : String) : Bool := "ro".toList ∈ options.toList.splitOn ','

/-- The mount that a short text describes. -/
def shortMount (source target : String) (options : Option String) : Entries :=
  [(.text "source", .text source), (.text "target", .text target),
    (.text "type", .text (mountType source)), (.text "read_only", .bool (options.any readOnly))]

def mountOf : Yaml → Option Entries
  | .text mount =>
      (shortParts mount).map fun (source, target, options) => shortMount source target options
  | .mapping mount => some mount
  | _ => none

/-- The item as a mount, if it has the target. -/
def mountWithTarget (target : String) (item : Yaml) : Option Entries :=
  (mountOf item).filter fun mount => isText (entry mount "target") target

def mountAt (service : Yaml) (target : String) : Entries :=
  match nested service [.name "volumes"] with
  | .list items => (items.findSome? (mountWithTarget target)).getD []
  | _ => []

/-- `str(mount.get("source", "")).endswith(ending)`, of a bound file that is read-only. -/
def bindsFile (mount : Entries) (ending : String) : Bool :=
  isText (entry mount "type") "bind" && isTrue (entry mount "read_only") &&
    Text.EndsWith ((lookup "source" mount).getD (.text "")).printed ending

def readonlyScript (service : Yaml) (target filename : String) : Bool :=
  bindsFile (mountAt service target) ("/scripts/" ++ filename)

/-- The log volume is declared without options but its name. -/
def logVolumeOk (compose : Entries) : Bool :=
  match nestedNames compose ["volumes", logVolume] with
  | .null => true
  | .mapping volume =>
      elementsWithin (volume.map Prod.fst) ["name"] &&
        match lookup "name" volume with
        | some name => isText name ((entry compose "name").printed ++ "_" ++ logVolume)
        | none => true
  | _ => false

def runtimeLogInitializer (compose : Entries) : Except Raised Check := do
  let init := (nestedNames compose ["services", "log-init"]).orEmpty
  let ok ← conjunction [
    (entry compose "volumes").orEmpty.contains logVolume,
    .ok (logVolumeOk compose),
    getIs init "user" (isText · "0:0"),
    getIs init "network_mode" (isText · "none"),
    getIs init "read_only" isTrue,
    getIs init "privileged" (fun value => !value.truthy) (.bool false),
    getIs init "cap_drop" (isTexts · ["ALL"]),
    do
      let capabilities ← init.get "cap_add" (.list [])
      return sameElements (← capabilities.elements) ["CHOWN", "FOWNER", "DAC_OVERRIDE"],
    getIs init "entrypoint" (isTexts · ["/bin/sh", logInitScript]),
    .ok (readonlyScript init logInitScript "prepare_runtime_logs.sh")]
  return check "runtime_log_initializer" ok
    "Prepare only the Docker-managed runtime log volume with the scoped root initializer."

def runtimeLogs (compose : Entries) (name : String) : Except Raised Check := do
  let service := (nestedNames compose ["services", name]).orEmpty
  let mount := mountAt service logTarget
  let ok ← conjunction [
    .ok (isText (entry mount "type") "volume"),
    .ok (isText (entry mount "source") logVolume),
    .ok (!((lookup "read_only" mount).getD (.bool false)).truthy),
    .ok (name = "log-init" ||
      isText (nested service [.name "depends_on", .name "log-init", .name "condition"])
        "service_completed_successfully"),
    if name = "log-init" ∨ name = "upf" then .ok true
    else getIs service "user" (isText · "999:999")]
  return check (name ++ "_runtime_logs") ok
    "Use initialized named logs; non-UPF NFs remain UID/GID 999."

def validateLoggingContract (compose : Entries) : Except Raised (List Check) := do
  let initializer ← runtimeLogInitializer compose
  let logs ← ("log-init" :: open5gsNfs).mapM (runtimeLogs compose)
  return initializer :: logs

/-- `str(sysctls.get(key)) == value`. -/
def sysctlIs (sysctls : Yaml) (key value : String) : Bool :=
  match sysctls with
  | .mapping entries => (entry entries key).printed = value
  | _ => false

def validateUpfBootstrapContract (upf : Entries) : Except Raised (List Check) := do
  let sysctls := (lookup "sysctls" upf).getD (.mapping [])
  let environment := composeEnvironment (entry upf "environment")
  let environmentOk ← conjunction [
    .ok ((entry environment "IPV4_TUN_ADDR").truthy),
    .ok ((entry environment "IPV4_TUN_SUBNET").truthy),
    .ok ((entry environment "IPV6_TUN_ADDR").truthy),
    do
      let nat ← hashable (entry environment "ENABLE_NAT")
      return isText nat "true" || isText nat "false"]
  return [
    check "upf_bootstrap_entrypoint"
      (isTexts (entry upf "entrypoint") ["/bin/sh", upfScript] &&
        readonlyScript (.mapping upf) upfScript "upf-entrypoint.sh")
      "Use the mounted UPF bootstrap that verifies Docker sysctls instead of writing them.",
    check "upf_bootstrap_sysctls"
      (sysctlIs sysctls "net.ipv4.ip_forward" "1" &&
        sysctlIs sysctls "net.ipv6.conf.all.disable_ipv6" "0" &&
        sysctlIs sysctls "net.ipv6.conf.default.disable_ipv6" "0")
      "Compose must configure IPv4 forwarding and enable IPv6 before UPF bootstrap.",
    check "upf_bootstrap_environment" environmentOk
      "Explicitly configure tunnel addresses, UE subnet, and NAT behavior."]

/-- The service of the UPF, when it is a mapping. -/
def upfService (compose : Entries) : Entries :=
  match nestedNames compose ["services", "upf"] with
  | .mapping upf => upf
  | _ => []

/-- `"NET_ADMIN" in capabilities`, of a list. -/
def addsNetAdmin : Yaml → Bool
  | .list capabilities => capabilities.any (equal (.text "NET_ADMIN"))
  | _ => false

def validateContainerRuntimeContract (compose : Entries) : Except Raised (List Check) := do
  let mongoEnvironment :=
    composeEnvironment (nestedNames compose ["services", "mongodb", "environment"])
  let upf := upfService compose
  let logging ← validateLoggingContract compose
  let bootstrap ← validateUpfBootstrapContract upf
  return [
    check "mongodb_kernel_rseq_compatibility"
      (isText (entry mongoEnvironment "GLIBC_TUNABLES") "glibc.pthread.rseq=1")
      ("MongoDB must explicitly set GLIBC_TUNABLES=glibc.pthread.rseq=1 for the " ++
        "Linux kernel compatibility workaround validated on the external VM"),
    check "upf_explicit_root_user" (isText (entry upf "user") "0:0")
      ("UPF must use user 0:0; the image default uid 999 lacked effective " ++
        "TUN capabilities"),
    check "upf_net_admin_capability"
      (addsNetAdmin ((lookup "cap_add" upf).getD (.list [])))
      ("UPF must add NET_ADMIN to create ogstun; verify effective capability with " ++
        "runtime-preflight on Linux"),
    check "upf_tun_device" (exposesTunDevice (entry upf "devices"))
      "UPF must expose /dev/net/tun at /dev/net/tun with read/write access",
    check "upf_without_privileged" ((lookup "privileged" upf).all isFalse)
      ("UPF must omit privileged or set it false; root + NET_ADMIN + TUN passed the " ++
        "isolated external VM TUN test")] ++ logging ++ bootstrap

/-- The tunnel addresses of the environment agree with the session of the UPF. -/
def tunnelAligned (environment session : Entries) : Bool :=
  match IpAddress.network4 (entry session "subnet").printed,
    IpAddress.interface4 (entry environment "IPV4_TUN_ADDR").printed with
  | some subnet, some address =>
      IpAddress.interface6 (entry environment "IPV6_TUN_ADDR").printed &&
        address.network = subnet &&
        IpAddress.dotted address.address = (entry session "gateway").printed &&
        (entry environment "IPV4_TUN_SUBNET").printed = subnet.text
  | _, _ => false

def validateUpfAddressAlignment (compose upfConfig : Entries) : List Check :=
  let environment := composeEnvironment (nestedNames compose ["services", "upf", "environment"])
  let session := listFirst (nestedNames upfConfig ["upf", "session"])
  [check "upf_tunnel_address_alignment" (tunnelAligned environment session)
    ("UPF bootstrap IPv4 address/NAT subnet must match the configured UE gateway/pool; " ++
      "IPv6 must be valid.")]

/-- An address as it is formatted into a text. -/
def formatted (address : Option String) : String := address.getD "None"

def validateBsfContract (compose bsf : Entries) : Except Raised (List Check) := do
  let service := (nestedNames compose ["services", "bsf"]).orEmpty
  let mount := mountAt service "/opt/open5gs/etc/open5gs/bsf.yaml"
  let server := listFirst (nestedNames bsf ["bsf", "sbi", "server"])
  let nrf := listFirst (nestedNames bsf ["bsf", "sbi", "client", "nrf"])
  let ok ← conjunction [
    getIs service "command"
      (isTexts · ["open5gs-bsfd", "-c", "/opt/open5gs/etc/open5gs/bsf.yaml"]),
    .ok (bindsFile mount "/configs/open5gs/bsf.yaml"),
    .ok (equal (entry server "address") (ofOption (serviceIp compose "bsf"))),
    .ok (equal (entry server "port") (.int labSbiPort)),
    .ok (isText (entry nrf "uri")
      ("http://" ++ formatted (serviceIp compose "nrf") ++ ":" ++ toString labSbiPort)),
    .ok (isText (nestedNames compose ["services", "pcf", "depends_on", "bsf", "condition"])
      "service_started")]
  return [check "open5gs_2_8_pcf_bsf_binding_service" ok
    ("Open5GS 2.8 PCF requires BSF for SM-policy binding registration; " ++
      "BSF must expose its Compose SBI address and register with lab NRF.")]

end FivegLab.Config
