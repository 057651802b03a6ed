import FivegLab.Host.Basic
import FivegLab.Scenario
import FivegLab.Text

/-!
# The fault injector

`FaultInjector` applies one fault of a scenario through a command runner and
rolls it back.  The runner is the only operation; it may return any completed
process or raise any exception.  The attributes of the object are the state of
the routines, so they keep what was assigned before an exception.
-/

namespace FivegLab

abbrev Command := List String

/-- A call of `self.runner(command, timeout)`. -/
structure RunnerCall where
  command : Command
  timeout : ℕ
  deriving DecidableEq, Repr

/-- The interface of a command runner. -/
abbrev Runner : Interface where
  Op := RunnerCall
  Reply _ := Except Raised CompletedProcess

def allowedServices : List String := ["amf", "smf", "upf", "gnb", "ue"]

def allowedContainerInterfaces : List String := ["eth0", "uesimtun0", "ogstun"]

structure ImpairmentRule where
  protocol : String
  port : String
  peerIp : String
  preference : String
  handle : String
  deriving DecidableEq, Repr

structure ContainerState where
  running : Bool
  status : String
  startedAt : String
  health : String
  deriving DecidableEq, Repr

def n2Rule : ImpairmentRule where
  protocol := "sctp"
  port := "38412"
  peerIp := "10.45.0.20"
  preference := "38412"
  handle := "0x4e32"

def n3Rule : ImpairmentRule where
  protocol := "udp"
  port := "2152"
  peerIp := "10.45.0.30"
  preference := "2152"
  handle := "0x4e33"

/-- `IMPAIRMENT_RULES.get(fault_type)`. -/
def impairmentRules (faultType : String) : Option ImpairmentRule :=
  if faultType = "n2_impairment" then some n2Rule
  else if faultType = "n3_impairment" then some n3Rule
  else none

/-- The four faults that change configuration or subscribers. -/
def mutationFaults : List String :=
  ["subscriber_key_mismatch", "unknown_subscriber", "dnn_mismatch", "snssai_mismatch"]

def impairmentRule (faultType : String) : Except Raised ImpairmentRule :=
  match impairmentRules faultType with
  | some rule => .ok rule
  | none => .error (.valueError ("unsupported impairment type: " ++ faultType))

def validatedService (service : Option String) : Except Raised String :=
  match service with
  | some name =>
      if name ∈ allowedServices then .ok name
      else .error (.valueError "fault target must be one of ['amf', 'gnb', 'smf', 'ue', 'upf']")
  | none => .error (.valueError "fault target must be one of ['amf', 'gnb', 'smf', 'ue', 'upf']")

def validatedInterface (interface : String) : Except Raised String :=
  if interface ∈ allowedContainerInterfaces then .ok interface
  else .error (.valueError
    "network impairment interface must be one of ['eth0', 'ogstun', 'uesimtun0']")

/-- The attributes of a `FaultInjector`, less its runner. -/
structure FaultInjector where
  fault : FaultSpec
  applied : Bool := false
  history : List Command := []
  cleanupRequired : Bool := false
  lastVerificationError : Option String := none
  createdClsact : Bool := false
  filterCleanupRequired : Bool := false
  restartStartedAt : Option String := none
  deriving DecidableEq, Repr

abbrev InjectorM := Routine (Runner.observing FaultInjector) FaultInjector Raised

namespace FaultSpec

variable (fault : FaultSpec)

/-- `_interface`: the impaired interface, `eth0` unless the scenario names one. -/
def interface : Except Raised String :=
  validatedInterface (Text.orElse (fault.value.getD "") "eth0")

def tcCommand (args : List String) : Except Raised Command := do
  let service ← validatedService fault.target
  return ["docker", "compose", "exec", "-T", service, "tc"] ++ args

def qdiscShowCommand : Except Raised Command := do
  let interface ← fault.interface
  fault.tcCommand ["qdisc", "show", "dev", interface]

def clsactAddCommand : Except Raised Command := do
  let interface ← fault.interface
  fault.tcCommand ["qdisc", "add", "dev", interface, "clsact"]

def clsactDeleteCommand : Except Raised Command := do
  let interface ← fault.interface
  fault.tcCommand ["qdisc", "del", "dev", interface, "clsact"]

def filterAddCommand : Except Raised Command := do
  let rule ← impairmentRule fault.type
  let interface ← fault.interface
  fault.tcCommand ["filter", "add", "dev", interface, "egress", "protocol", "ip",
    "pref", rule.preference, "handle", rule.handle, "flower", "ip_proto", rule.protocol,
    "dst_ip", rule.peerIp, "dst_port", rule.port, "action", "drop"]

def filterDeleteCommand : Except Raised Command := do
  let rule ← impairmentRule fault.type
  let interface ← fault.interface
  fault.tcCommand ["filter", "del", "dev", interface, "egress", "protocol", "ip",
    "pref", rule.preference, "handle", rule.handle, "flower"]

def filterShowCommand : Except Raised Command := do
  let rule ← impairmentRule fault.type
  let interface ← fault.interface
  fault.tcCommand ["filter", "show", "dev", interface, "egress", "pref", rule.preference]

def applyCommands : Except Raised (List Command) :=
  if fault.type = "none" then .ok []
  else if fault.type = "restart_service" then do
    let service ← validatedService fault.target
    return [["docker", "compose", "restart", service]]
  else if fault.type = "stop_service" then do
    let service ← validatedService fault.target
    return [["docker", "compose", "stop", service]]
  else if (impairmentRules fault.type).isSome then do
    let clsactAdd ← fault.clsactAddCommand
    let filterAdd ← fault.filterAddCommand
    return [clsactAdd, filterAdd]
  else if fault.type ∈ mutationFaults then .ok []
  else .error (.valueError ("unsupported fault type: " ++ fault.type))

end FaultSpec

namespace FaultInjector

open Routine (state update raise attempt observe)

/-- The text of a command tuple. -/
def commandText (command : Command) : String :=
  "(" ++ ", ".intercalate (command.map fun token => "'" ++ token ++ "'") ++ ")"

def rollbackCommands (injector : FaultInjector) : Except Raised (List Command) :=
  if injector.fault.type = "none" then .ok []
  else if injector.fault.type = "stop_service" ∨ injector.fault.type = "restart_service" then do
    let service ← validatedService injector.fault.target
    return [["docker", "compose", "start", service]]
  else if (impairmentRules injector.fault.type).isSome then do
    let filterDelete ← injector.fault.filterDeleteCommand
    if injector.createdClsact then
      let clsactDelete ← injector.fault.clsactDeleteCommand
      return [filterDelete, clsactDelete]
    else return [filterDelete]
  else .ok []

/-- `self.history.append(command)`. -/
def record (command : Command) (injector : FaultInjector) : FaultInjector :=
  { injector with history := injector.history ++ [command] }

@[simp]
theorem record_fault (command : Command) (injector : FaultInjector) :
    (injector.record command).fault = injector.fault := rfl

@[simp]
theorem record_applied (command : Command) (injector : FaultInjector) :
    (injector.record command).applied = injector.applied := rfl

@[simp]
theorem record_cleanupRequired (command : Command) (injector : FaultInjector) :
    (injector.record command).cleanupRequired = injector.cleanupRequired := rfl

@[simp]
theorem record_createdClsact (command : Command) (injector : FaultInjector) :
    (injector.record command).createdClsact = injector.createdClsact := rfl

@[simp]
theorem record_filterCleanupRequired (command : Command) (injector : FaultInjector) :
    (injector.record command).filterCleanupRequired = injector.filterCleanupRequired := rfl

/-- `self.runner(command, timeout)`. -/
def callRunner (command : Command) (timeout : ℕ) :
    InjectorM (Except Raised CompletedProcess) :=
  observe (I := Runner) ⟨command, timeout⟩

@[simp]
theorem ensures_callRunner {command : Command} {timeout : ℕ} {W : Type}
    {answers : Answers (Runner.observing FaultInjector) W}
    {obligation : W → (Runner.observing FaultInjector).Op → W → Prop}
    {post : Except Raised (Except Raised CompletedProcess) → FaultInjector → W → Prop}
    {injector : FaultInjector} {world : W} :
    (callRunner command timeout).Ensures answers obligation post injector world ↔
      ∀ reply after, answers world (injector, ⟨command, timeout⟩) reply after →
        obligation world (injector, ⟨command, timeout⟩) after ∧
          post (.ok reply) injector after :=
  Iff.rfl

/-- `_run`: a command that exits with a failure raises `RuntimeError`. -/
def run (command : Command) (timeout : ℕ := 30) : InjectorM CompletedProcess := do
  update (record command)
  let result ← Routine.ofExcept (← callRunner command timeout)
  if result.returncode ≠ 0 then
    raise (.runtimeError (Text.orElse (Text.strip result.stderr)
      (Text.orElse (Text.strip result.stdout) ("command failed: " ++ commandText command))))
  else return result

/-- The format of `docker inspect` that `_container_state` takes apart. -/
def inspectFormat : String :=
  "{{.State.Running}}|{{.State.Status}}|{{.State.StartedAt}}|" ++
    "{{if .State.Health}}{{.State.Health.Status}}{{else}}none{{end}}"

def containerState (service : String) : InjectorM (Option ContainerState) := do
  let listed ← run ["docker", "compose", "ps", "--all", "-q", service] 10
  match Text.splitlines (Text.strip listed.stdout) with
  | [] => return none
  | containerId :: _ =>
      let inspected ← run ["docker", "inspect", "--format", inspectFormat, containerId] 10
      let output := Text.strip inspected.stdout
      match Text.splitMax '|' 3 output with
      | [running, status, startedAt, health] =>
          return some { running := Text.lower running = "true", status, startedAt, health }
      | _ => raise (.runtimeError
          ("unexpected docker inspect state for " ++ service ++ ": '" ++ output ++ "'"))

def clsactPresent : InjectorM Bool := do
  let injector ← state
  let command ← Routine.ofExcept injector.fault.qdiscShowCommand
  let result ← run command 10
  return Text.Contains result.stdout "qdisc clsact"

/-- `not self._run(self._filter_show_command(), timeout=10).stdout.strip()`. -/
def filterAbsent : InjectorM Bool := do
  let injector ← state
  let command ← Routine.ofExcept injector.fault.filterShowCommand
  let result ← run command 10
  return Text.strip result.stdout = ""

def impairmentRulePresent : InjectorM Bool := do
  let injector ← state
  let rule ← Routine.ofExcept (impairmentRule injector.fault.type)
  let command ← Routine.ofExcept injector.fault.filterShowCommand
  let result ← run command 10
  let output := Text.lower result.stdout
  let markers := ["handle " ++ rule.handle, "ip_proto " ++ rule.protocol,
    "dst_ip " ++ rule.peerIp, "dst_port " ++ rule.port, "action drop"]
  return ∀ marker ∈ markers, Text.Contains output marker

/-- `self.applied = True`. -/
def markApplied (injector : FaultInjector) : FaultInjector := { injector with applied := true }

/-- `self.cleanup_required = True`. -/
def armCleanup (injector : FaultInjector) : FaultInjector :=
  { injector with cleanupRequired := true }

/-- What is kept of the running container before it is restarted. -/
def armRestart (startedAt : String) (injector : FaultInjector) : FaultInjector :=
  { injector with restartStartedAt := some startedAt, cleanupRequired := true }

/-- The flags set before `clsact` is added. -/
def armClsact (injector : FaultInjector) : FaultInjector :=
  { injector with createdClsact := true, cleanupRequired := true }

/-- The flags set before the filter is added. -/
def armFilter (injector : FaultInjector) : FaultInjector :=
  { injector with cleanupRequired := true, filterCleanupRequired := true }

/-- The flags reset by a rollback without errors. -/
def disarm (injector : FaultInjector) : FaultInjector :=
  { injector with applied := false, cleanupRequired := false }

/-- The first half of `_apply_impairment`: add `clsact` unless it is there. -/
def prepareClsact : InjectorM Unit := do
  if ← clsactPresent then
    return
  else
    update armClsact
    let injector ← state
    let command ← Routine.ofExcept injector.fault.clsactAddCommand
    let _ ← run command

/-- The second half of `_apply_impairment`: add the filter. -/
def addFilter : InjectorM Unit := do
  update armFilter
  let injector ← state
  let command ← Routine.ofExcept injector.fault.filterAddCommand
  let _ ← run command
  update markApplied

def applyImpairment : InjectorM Unit := do
  if ← filterAbsent then
    prepareClsact
    addFilter
  else
    raise (.runtimeError "Refusing to replace an existing filter at the lab preference")

/-- `self._run(self.apply_commands()[0])`. -/
def runFirstApplyCommand : InjectorM Unit := do
  let injector ← state
  match ← Routine.ofExcept injector.fault.applyCommands with
  | [] => raise ⟨.indexError, "list index out of range"⟩
  | command :: _ =>
      let _ ← run command

def apply : InjectorM Unit := do
  let injector ← state
  if injector.fault.type = "none" then
    update markApplied
  else if injector.fault.type = "restart_service" then
    let service ← Routine.ofExcept (validatedService injector.fault.target)
    match ← containerState service with
    | none => raise (.runtimeError ("cannot restart " ++ service ++ ": container is not running"))
    | some before =>
        if before.running then
          update (armRestart before.startedAt)
          runFirstApplyCommand
          update markApplied
        else
          raise (.runtimeError ("cannot restart " ++ service ++ ": container is not running"))
  else if injector.fault.type = "stop_service" then
    update armCleanup
    runFirstApplyCommand
    update markApplied
  else if (impairmentRules injector.fault.type).isSome then
    applyImpairment
  else if injector.fault.type ∈ mutationFaults then
    update markApplied
  else
    raise (.valueError ("unsupported fault type: " ++ injector.fault.type))

/-- The `try` block of a verification: `RuntimeError` and `ValueError` are kept
as the last verification error, and the answer is no. -/
def verifying (body : InjectorM Bool) : InjectorM Bool := do
  update fun injector => { injector with lastVerificationError := none }
  match ← attempt body with
  | .ok verified => return verified
  | .error error =>
      if error.isRuntimeError || error.isValueError then
        update fun injector => { injector with lastVerificationError := some error.message }
        return false
      else raise error

def verifyApplied : InjectorM Bool := verifying do
  let injector ← state
  if injector.fault.type = "none" then
    return true
  else if injector.fault.type = "stop_service" then
    let service ← Routine.ofExcept (validatedService injector.fault.target)
    match ← containerState service with
    | none => return false
    | some current => return !current.running
  else if injector.fault.type = "restart_service" then
    let service ← Routine.ofExcept (validatedService injector.fault.target)
    match ← containerState service with
    | none => return false
    | some current =>
        return current.running ∧ current.health ≠ "unhealthy" ∧
          injector.restartStartedAt.getD "" ≠ "" ∧
          some current.startedAt ≠ injector.restartStartedAt
  else if (impairmentRules injector.fault.type).isSome then
    impairmentRulePresent
  else
    return false

/-- After a failed deletion: is what it should delete verified to be absent? -/
def verifiedAbsent (command : Command) : InjectorM Bool := do
  let injector ← state
  if (impairmentRules injector.fault.type).isSome then
    if "filter" ∈ command then
      filterAbsent
    else
      let present ← clsactPresent
      return !present
  else
    return false

/-- One round of the rollback loop: the errors it adds. -/
def removeStep (command : Command) : InjectorM (List String) := do
  let injector ← state
  if "filter" ∈ command ∧ injector.filterCleanupRequired = false then
    return []
  else
    match ← attempt (run command) with
    | .ok _ => return []
    | .error error =>
        if error.isRuntimeError then
          -- A partially completed add may have created nothing.  Only verified
          -- absence makes up for a failed deletion.
          match ← attempt (verifiedAbsent command) with
          | .ok absent => return if absent then [] else [error.message]
          | .error failure =>
              if failure.isRuntimeError then return [error.message] else raise failure
        else raise error

/-- The rollback loop: the errors of all commands, in order. -/
def removeLoop : List Command → InjectorM (List String)
  | [] => return []
  | command :: commands => do
      let errors ← removeStep command
      let more ← removeLoop commands
      return errors ++ more

def remove : InjectorM Unit := do
  let injector ← state
  if injector.applied = false ∧ injector.cleanupRequired = false then
    return
  else
    let commands ← Routine.ofExcept injector.rollbackCommands
    match ← removeLoop commands with
    | [] => update disarm
    | errors => raise (.runtimeError ("; ".intercalate errors))

def verifyRemoved : InjectorM Bool := verifying do
  let injector ← state
  if injector.fault.type = "none" then
    return true
  else if injector.fault.type = "stop_service" ∨ injector.fault.type = "restart_service" then
    let service ← Routine.ofExcept (validatedService injector.fault.target)
    match ← containerState service with
    | none => return false
    | some current => return current.running ∧ current.health ≠ "unhealthy"
  else if (impairmentRules injector.fault.type).isSome then
    let ruleRemoved ← filterAbsent
    if injector.createdClsact then
      if ruleRemoved then
        let present ← clsactPresent
        return !present
      else
        return false
    else
      return ruleRemoved
  else
    return false

end FaultInjector

end FivegLab
