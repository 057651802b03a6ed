import FivegLab.FaultInjection.Basic
import Mathlib.Data.Finset.Basic

/-!
# The environment of a fault injector

What the injector's commands act on: whether the target container runs, and in
its network namespace the `clsact` qdisc with the egress filters under it.  The
commands themselves are read by `operationOf`; an operation has an effect on the
environment when it mutates, and tells the truth about it when it reads.
-/

namespace FivegLab

/-- The target container and the traffic control of the impaired interface.
Filters are known by preference and handle, and exist under `clsact` only. -/
@[ext]
structure Environment where
  running : Bool
  clsact : Bool
  filters : Finset (String × String)
  filters_need_clsact : clsact = false → filters = ∅

theorem unfiltered : false = false → (∅ : Finset (String × String)) = ∅ := fun _ => rfl

/-- What a command of the injector does. -/
inductive Operation
  | stop
  | start
  | restart
  | addClsact
  | deleteClsact
  | addFilter (preference handle : String)
  | deleteFilter (preference handle : String)
  | showFilters (preference : String)
  | showQdiscs
  | list
  | inspect
  | other
  deriving DecidableEq, Repr

/-- The meaning of a command line. -/
def operationOf : Command → Operation
  | ["docker", "compose", "stop", _] => .stop
  | ["docker", "compose", "start", _] => .start
  | ["docker", "compose", "restart", _] => .restart
  | ["docker", "compose", "exec", "-T", _, "tc", "qdisc", "add", "dev", _, "clsact"] => .addClsact
  | ["docker", "compose", "exec", "-T", _, "tc", "qdisc", "del", "dev", _, "clsact"] =>
      .deleteClsact
  | ["docker", "compose", "exec", "-T", _, "tc", "filter", "add", "dev", _, "egress", "protocol",
      "ip", "pref", preference, "handle", handle, "flower", "ip_proto", _, "dst_ip", _,
      "dst_port", _, "action", "drop"] => .addFilter preference handle
  | ["docker", "compose", "exec", "-T", _, "tc", "filter", "del", "dev", _, "egress", "protocol",
      "ip", "pref", preference, "handle", handle, "flower"] => .deleteFilter preference handle
  | ["docker", "compose", "exec", "-T", _, "tc", "filter", "show", "dev", _, "egress", "pref",
      preference] => .showFilters preference
  | ["docker", "compose", "exec", "-T", _, "tc", "qdisc", "show", "dev", _] => .showQdiscs
  | ["docker", "compose", "ps", "--all", "-q", _] => .list
  | ["docker", "inspect", "--format", _, _] => .inspect
  | _ => .other

theorem operationOf_inspect (format containerId : String) :
    operationOf ["docker", "inspect", "--format", format, containerId] = .inspect := rfl

namespace Environment

variable (environment : Environment)

def withRunning (running : Bool) : Environment := { environment with running }

def withClsact : Environment where
  running := environment.running
  clsact := true
  filters := environment.filters
  filters_need_clsact := by simp

/-- Deleting `clsact` deletes the filters under it. -/
def withoutClsact : Environment where
  running := environment.running
  clsact := false
  filters := ∅
  filters_need_clsact := by simp

/-- Without `clsact` there is nowhere to add a filter. -/
def withFilter (key : String × String) : Environment where
  running := environment.running
  clsact := environment.clsact
  filters := if environment.clsact then insert key environment.filters else environment.filters
  filters_need_clsact := by
    intro absent
    simpa [absent] using environment.filters_need_clsact absent

def withoutFilter (key : String × String) : Environment where
  running := environment.running
  clsact := environment.clsact
  filters := environment.filters.erase key
  filters_need_clsact := by
    intro absent
    simp [environment.filters_need_clsact absent]

@[simp]
theorem withRunning_clsact (running : Bool) :
    (environment.withRunning running).clsact = environment.clsact := rfl

@[simp]
theorem withRunning_filters (running : Bool) :
    (environment.withRunning running).filters = environment.filters := rfl

@[simp]
theorem withRunning_running (running : Bool) :
    (environment.withRunning running).running = running := rfl

@[simp]
theorem withClsact_running : environment.withClsact.running = environment.running := rfl

@[simp]
theorem withClsact_clsact : environment.withClsact.clsact = true := rfl

@[simp]
theorem withClsact_filters : environment.withClsact.filters = environment.filters := rfl

@[simp]
theorem withoutClsact_running : environment.withoutClsact.running = environment.running := rfl

@[simp]
theorem withoutClsact_clsact : environment.withoutClsact.clsact = false := rfl

@[simp]
theorem withoutClsact_filters : environment.withoutClsact.filters = ∅ := rfl

@[simp]
theorem withFilter_running (key : String × String) :
    (environment.withFilter key).running = environment.running := rfl

@[simp]
theorem withFilter_clsact (key : String × String) :
    (environment.withFilter key).clsact = environment.clsact := rfl

theorem withFilter_filters (key : String × String) :
    (environment.withFilter key).filters =
      if environment.clsact then insert key environment.filters else environment.filters := rfl

@[simp]
theorem withoutFilter_running (key : String × String) :
    (environment.withoutFilter key).running = environment.running := rfl

@[simp]
theorem withoutFilter_clsact (key : String × String) :
    (environment.withoutFilter key).clsact = environment.clsact := rfl

@[simp]
theorem withoutFilter_filters (key : String × String) :
    (environment.withoutFilter key).filters = environment.filters.erase key := rfl

end Environment

namespace Operation

/-- The environment after an operation that took effect. -/
def effect : Operation → Environment → Environment
  | .stop, environment => environment.withRunning false
  | .start, environment => environment.withRunning true
  | .restart, environment => environment.withRunning true
  | .addClsact, environment => environment.withClsact
  | .deleteClsact, environment => environment.withoutClsact
  | .addFilter preference handle, environment => environment.withFilter (preference, handle)
  | .deleteFilter preference handle, environment => environment.withoutFilter (preference, handle)
  | _, environment => environment

/-- The environment after an operation that was cut short: a restart may have
stopped the container and not started it again. -/
def cutShort : Operation → Environment → Environment
  | .restart, environment => environment.withRunning false
  | operation, environment => operation.effect environment

/-- What a successful read says is true of the environment. -/
def Truthful : Operation → Environment → String → Prop
  | .showFilters preference, environment, output =>
      Text.strip output = "" ↔ ∀ key ∈ environment.filters, key.1 ≠ preference
  | .showQdiscs, environment, output =>
      Text.Contains output "qdisc clsact" ↔ environment.clsact = true
  | .inspect, environment, output =>
      ∃ status startedAt health, Text.strip output =
        (if environment.running then "true" else "false") ++ "|" ++ status ++ "|" ++ startedAt ++
          "|" ++ health
  | _, _, _ => True

end Operation

theorem validatedService_mem {target : Option String} {service : String}
    (valid : validatedService target = .ok service) : service ∈ allowedServices := by
  unfold validatedService at valid
  split at valid
  · split at valid
    · cases valid
      assumption
    · cases valid
  · cases valid

/-- The filter that a rule installs. -/
def ImpairmentRule.key (rule : ImpairmentRule) : String × String :=
  (rule.preference, rule.handle)

/-- The command line that deletes the filter of a rule. -/
def ImpairmentRule.deleteLine (rule : ImpairmentRule) (service interface : String) : Command :=
  ["docker", "compose", "exec", "-T", service, "tc", "filter", "del", "dev", interface, "egress",
    "protocol", "ip", "pref", rule.preference, "handle", rule.handle, "flower"]

/-- The command line that deletes `clsact`. -/
def clsactDeleteLine (service interface : String) : Command :=
  ["docker", "compose", "exec", "-T", service, "tc", "qdisc", "del", "dev", interface, "clsact"]

theorem ImpairmentRule.filter_mem_deleteLine (rule : ImpairmentRule) (service interface : String) :
    "filter" ∈ rule.deleteLine service interface := by
  simp [deleteLine]

namespace FaultSpec

/-- A fault whose target and interface are among the allowed ones. -/
structure Targeted (fault : FaultSpec) (service interface : String) : Prop where
  service_eq : validatedService fault.target = .ok service
  interface_eq : fault.interface = .ok interface

variable {fault : FaultSpec} {service interface : String} {rule : ImpairmentRule}

theorem Targeted.service_mem (targeted : fault.Targeted service interface) :
    service ∈ allowedServices :=
  validatedService_mem targeted.service_eq

theorem Targeted.interface_mem (targeted : fault.Targeted service interface) :
    interface ∈ allowedContainerInterfaces := by
  have eq := targeted.interface_eq
  simp only [FaultSpec.interface, validatedInterface] at eq
  split at eq
  · cases eq
    assumption
  · cases eq

theorem Targeted.tcCommand_eq (targeted : fault.Targeted service interface)
    (args : List String) :
    fault.tcCommand args = .ok (["docker", "compose", "exec", "-T", service, "tc"] ++ args) := by
  rw [tcCommand, targeted.service_eq]
  rfl

theorem Targeted.qdiscShowCommand_eq (targeted : fault.Targeted service interface) :
    fault.qdiscShowCommand = .ok
      ["docker", "compose", "exec", "-T", service, "tc", "qdisc", "show", "dev", interface] := by
  rw [qdiscShowCommand, targeted.interface_eq]
  exact targeted.tcCommand_eq _

theorem Targeted.clsactAddCommand_eq (targeted : fault.Targeted service interface) :
    fault.clsactAddCommand = .ok ["docker", "compose", "exec", "-T", service, "tc",
      "qdisc", "add", "dev", interface, "clsact"] := by
  rw [clsactAddCommand, targeted.interface_eq]
  exact targeted.tcCommand_eq _

theorem Targeted.clsactDeleteCommand_eq (targeted : fault.Targeted service interface) :
    fault.clsactDeleteCommand = .ok (clsactDeleteLine service interface) := by
  rw [clsactDeleteCommand, targeted.interface_eq]
  exact targeted.tcCommand_eq _

/-- The command that deletes `clsact` does not mention `filter`. -/
theorem Targeted.filter_not_mem_clsactDelete (targeted : fault.Targeted service interface) :
    "filter" ∉ clsactDeleteLine service interface := by
  have service_ne : "filter" ≠ service := by
    rintro rfl
    simpa [allowedServices] using targeted.service_mem
  have interface_ne : "filter" ≠ interface := by
    rintro rfl
    simpa [allowedContainerInterfaces] using targeted.interface_mem
  simp [clsactDeleteLine, service_ne, interface_ne]

theorem impairmentRule_eq (known : impairmentRules fault.type = some rule) :
    impairmentRule fault.type = .ok rule := by
  simp [impairmentRule, known]

theorem Targeted.filterAddCommand_eq (targeted : fault.Targeted service interface)
    (known : impairmentRules fault.type = some rule) :
    fault.filterAddCommand = .ok ["docker", "compose", "exec", "-T", service, "tc",
      "filter", "add", "dev", interface, "egress", "protocol", "ip", "pref", rule.preference,
      "handle", rule.handle, "flower", "ip_proto", rule.protocol, "dst_ip", rule.peerIp,
      "dst_port", rule.port, "action", "drop"] := by
  rw [filterAddCommand, impairmentRule_eq known, targeted.interface_eq]
  exact targeted.tcCommand_eq _

theorem Targeted.filterDeleteCommand_eq (targeted : fault.Targeted service interface)
    (known : impairmentRules fault.type = some rule) :
    fault.filterDeleteCommand = .ok (rule.deleteLine service interface) := by
  rw [filterDeleteCommand, impairmentRule_eq known, targeted.interface_eq]
  exact targeted.tcCommand_eq _

theorem Targeted.filterShowCommand_eq (targeted : fault.Targeted service interface)
    (known : impairmentRules fault.type = some rule) :
    fault.filterShowCommand = .ok ["docker", "compose", "exec", "-T", service, "tc",
      "filter", "show", "dev", interface, "egress", "pref", rule.preference] := by
  rw [filterShowCommand, impairmentRule_eq known, targeted.interface_eq]
  exact targeted.tcCommand_eq _

end FaultSpec

/-- Two injectors with the same flags of applied and owed changes. -/
structure FaultInjector.SameFlags (injector other : FaultInjector) : Prop where
  applied_eq : injector.applied = other.applied
  cleanupRequired_eq : injector.cleanupRequired = other.cleanupRequired
  createdClsact_eq : injector.createdClsact = other.createdClsact
  filterCleanupRequired_eq : injector.filterCleanupRequired = other.filterCleanupRequired

namespace FaultInjector.SameFlags

theorem record (command : Command) (injector : FaultInjector) :
    (injector.record command).SameFlags injector := ⟨rfl, rfl, rfl, rfl⟩

theorem trans {first second third : FaultInjector} (left : first.SameFlags second)
    (right : second.SameFlags third) : first.SameFlags third :=
  ⟨left.applied_eq.trans right.applied_eq,
    left.cleanupRequired_eq.trans right.cleanupRequired_eq,
    left.createdClsact_eq.trans right.createdClsact_eq,
    left.filterCleanupRequired_eq.trans right.filterCleanupRequired_eq⟩

end FaultInjector.SameFlags

namespace FaultInjector

variable {fault : FaultSpec} {service interface : String} {rule : ImpairmentRule}
  {injector : FaultInjector}

theorem notService (known : impairmentRules fault.type = some rule) :
    fault.type ≠ "none" ∧ fault.type ≠ "stop_service" ∧ fault.type ≠ "restart_service" := by
  refine ⟨?_, ?_, ?_⟩ <;> intro type <;> simp [type, impairmentRules] at known

/-- The rollback of an impairment deletes the filter, and `clsact` if it was created. -/
theorem rollbackCommands_eq (targeted : fault.Targeted service interface)
    (known : impairmentRules fault.type = some rule) (fault_eq : injector.fault = fault) :
    injector.rollbackCommands = .ok (rule.deleteLine service interface ::
      if injector.createdClsact then [clsactDeleteLine service interface] else []) := by
  rcases notService known with ⟨notNone, notStop, notRestart⟩
  simp only [rollbackCommands, fault_eq, notNone, notStop, notRestart, or_self, known, if_false,
    if_true, Option.isSome_some, targeted.filterDeleteCommand_eq known,
    targeted.clsactDeleteCommand_eq]
  cases injector.createdClsact <;> rfl

end FaultInjector

end FivegLab
