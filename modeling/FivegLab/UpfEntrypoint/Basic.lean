import FivegLab.Regex
import FivegLab.Shell

/-!
# The entrypoint of the UPF

`scripts/upf-entrypoint.sh`: the tunnel interface and the NAT rule of the UPF are
prepared and verified, and taken back when the script exits before its command.
-/

namespace FivegLab.UpfEntrypoint

open Routine Script

/-- The variables of the environment that are set. -/
structure Environment where
  ipv4TunAddr : Option String
  ipv4TunSubnet : Option String
  ipv6TunAddr : Option String
  enableNat : Option String

inductive Traps
  | unset
  | set
  /-- `trap - EXIT` -/
  | reset
  deriving DecidableEq, Repr

structure Vars where
  createdTun : Bool := false
  createdNat : Bool := false
  traps : Traps := .unset
  deriving DecidableEq, Repr

structure Settings where
  addr4 : String
  subnet : String
  addr6 : String
  nat : Bool
  checkOnly : Bool
  command : List String

/-- `${NAME:?required}`. -/
def required : Option String → Script Vars String
  | some text => if text = "" then raise 2 else return text
  | none => raise 2

def refuse {α : Type} (message : String) : Script Vars α := do
  call (I := Shell) (.warn message)
  raise 1

def readSettings (environment : Environment) (args : List String) : Script Vars Settings := do
  let addr4 ← required environment.ipv4TunAddr
  let subnet ← required environment.ipv4TunSubnet
  let addr6 ← required environment.ipv6TunAddr
  let enableNat ← required environment.enableNat
  if enableNat ∉ ["true", "false"] then refuse "Invalid ENABLE_NAT"
  else if args = [] then refuse "UPF command or --check required"
  else return ⟨addr4, subnet, addr6, enableNat = "true", args.head? = some "--check", args⟩

def showTun : List String := ["ip", "link", "show", "ogstun"]

def addTun : List String := ["ip", "tuntap", "add", "name", "ogstun", "mode", "tun"]

def deleteTun : List String := ["ip", "link", "del", "ogstun"]

/-- The NAT rule, behind the option that tells what to do with it. -/
def natRule (option subnet : String) : List String :=
  ["iptables", "-t", "nat", option, "POSTROUTING", "-s", subnet, "!", "-o", "ogstun", "-j",
    "MASQUERADE"]

def checkNat (subnet : String) : List String := natRule "-C" subnet

def appendNat (subnet : String) : List String := natRule "-A" subnet

def deleteNat (subnet : String) : List String := natRule "-D" subnet

def showSysctl (key : String) : List String := ["sysctl", "-n", key]

def replaceAddress (family address : String) : List String :=
  ["ip", family, "addr", "replace", address, "dev", "ogstun"]

def setLinkUp : List String := ["ip", "link", "set", "ogstun", "up"]

def showAddress (family : String) : List String :=
  ["ip", "-o", family, "addr", "show", "dev", "ogstun"]

def showLink : List String := ["ip", "-o", "link", "show", "dev", "ogstun"]

/-- Delete something, if it was created: whether that failed. -/
def deleting (created : Bool) (args : List String) (exiting : Bool) : Script Vars Bool :=
  if created then do
    let deleted ← succeeds args exiting
    return !deleted
  else return false

def cleanupFailed : String := "UPF_BOOTSTRAP_CLEANUP_FAILED"

/-- `cleanup`: whether it succeeded. -/
def cleanup (subnet : String) (exiting : Bool) : Script Vars Bool := do
  let vars ← state
  let natFailed ← deleting vars.createdNat (deleteNat subnet) exiting
  let tunFailed ← deleting vars.createdTun deleteTun exiting
  if natFailed ∨ tunFailed then
    warn cleanupFailed exiting
    return false
  else
    update fun vars => { vars with createdNat := false, createdTun := false }
    return true

/-- `cleanup || exit 1`. -/
def exitTrap (subnet : String) : Script Vars Unit := do
  let cleaned ← cleanup subnet true
  if cleaned then return () else raise 1

def requireSysctl (key expected : String) : Script Vars Unit := do
  let printed ← must (showSysctl key)
  if substitution printed ≠ expected then
    warn ("Required Compose sysctl " ++ key ++ "=" ++ expected ++ "; observed " ++
      substitution printed)
    raise 1

def checkSysctls : Script Vars Unit := do
  requireSysctl "net.ipv4.ip_forward" "1"
  requireSysctl "net.ipv6.conf.all.disable_ipv6" "0"
  requireSysctl "net.ipv6.conf.default.disable_ipv6" "0"

def provideTun (settings : Settings) : Script Vars Unit := do
  let present ← succeeds showTun
  if present then
    if settings.checkOnly then
      warn "Refusing to probe an existing ogstun; use an isolated container"
      raise 1
  else
    update fun vars => { vars with createdTun := true }
    pending
    let _ ← must addTun

/-- `grep -F pattern`: a line has one of the lines of the pattern in it. -/
def hasText (pattern : String) (line : List Char) : Bool :=
  (pattern.toList.splitOn '\n').any fun part => part <:+: line

/-- `<([^>]*,)?UP(,|>)` -/
def linkUp : Regex :=
  .all [.one (· = '<'), .optional (.sequence (.many (· ≠ '>')) (.one (· = ','))),
    .one (· = 'U'), .one (· = 'P'), .one fun c => c = ',' || c = '>']

def isLinkUp (line : List Char) : Bool := (linkUp.search line).isSome

def selectTun (settings : Settings) (addr4 addr6 link : String) : Script Vars Unit := do
  select (hasText ("inet " ++ settings.addr4 ++ " ")) (substitution addr4)
  select (hasText ("inet6 " ++ settings.addr6 ++ " ")) (substitution addr6)
  select isLinkUp (substitution link)

def configureTun (settings : Settings) : Script Vars Unit := do
  requireSysctl "net.ipv6.conf.ogstun.disable_ipv6" "0"
  let _ ← must (replaceAddress "-4" settings.addr4)
  let _ ← must (replaceAddress "-6" settings.addr6)
  let _ ← must setLinkUp
  let addr4 ← must (showAddress "-4")
  let addr6 ← must (showAddress "-6")
  let link ← must showLink
  selectTun settings addr4 addr6 link

def addNat (subnet : String) : Script Vars Unit := do
  let present ← succeeds (checkNat subnet)
  if present then return ()
  else
    update fun vars => { vars with createdNat := true }
    pending
    let _ ← must (appendNat subnet)

def provideNat (settings : Settings) : Script Vars Unit := do
  if settings.nat then
    addNat settings.subnet
    let _ ← must (checkNat settings.subnet)

def passLine : String := "UPF_BOOTSTRAP_PASS"

/-- `trap - EXIT` -/
def release : Script Vars Unit := do
  update fun vars => { vars with traps := .reset }
  pending

/-- With `--check`: take everything back, and tell that it worked. -/
def conclude (settings : Settings) : Script Vars Unit := do
  let cleaned ← cleanup settings.subnet false
  if !cleaned then raise 1
  else
    let remains ← succeeds showTun
    if remains then
      warn "ogstun remained after probe cleanup"
      raise 1
    else
      release
      echo passLine
      raise 0

def sleepTen : List String := ["sleep", "10"]

/-- Otherwise: become the network function. -/
def start (settings : Settings) : Script Vars Unit := do
  let _ ← must sleepTen
  release
  match ← call (I := Shell) (.exec settings.command) with
  | some status => raise status
  | none => return ()

def prepare (settings : Settings) : Script Vars Unit := do
  checkSysctls
  provideTun settings
  configureTun settings
  provideNat settings

def bootstrap (settings : Settings) : Script Vars Unit := do
  prepare settings
  if settings.checkOnly then conclude settings else start settings

/-- `scripts/upf-entrypoint.sh`. -/
def upfEntrypoint (environment : Environment) (args : List String) : Script Vars Unit := do
  let settings ← readSettings environment args
  update fun vars => { vars with traps := .set }
  onExit (·.traps = .set) (exitTrap settings.subnet) (bootstrap settings)

end FivegLab.UpfEntrypoint
