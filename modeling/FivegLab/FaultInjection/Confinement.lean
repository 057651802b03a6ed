import FivegLab.FaultInjection.Environment
import FivegLab.Program.Guard

/-!
# Confinement of the fault injector

Whatever the fault says and whatever the runner answers, an injector only hands
over commands of a few forms, on the services and interfaces of the lab.  The
argument follows the methods: every builder of a command validates the service
and the interface that it writes into the command.
-/

namespace FivegLab

open Routine

/-- The command that `_container_state` lists the container of a service with. -/
def listLine (service : String) : Command := ["docker", "compose", "ps", "--all", "-q", service]

/-- The first line of an output, less the white space around the output. -/
def firstLine (output : String) : Option String :=
  (Text.splitlines (Text.strip output)).head?

/-- The traffic control of a service. -/
def tcLine (service : String) (args : List String) : Command :=
  ["docker", "compose", "exec", "-T", service, "tc"] ++ args

/-- The commands that an injector of the fault may hand to its runner after the
events in `earlier`. -/
inductive FaultSpec.Permits (fault : FaultSpec)
    (earlier : List (Event (Runner.observing FaultInjector))) : Command → Prop
  | control {verb service : String} (known : verb ∈ ["restart", "stop", "start"])
      (target : service ∈ allowedServices) :
      Permits fault earlier ["docker", "compose", verb, service]
  | list {service : String} (target : service ∈ allowedServices) :
      Permits fault earlier (listLine service)
  | inspect {service containerId : String} {injector : FaultInjector} {timeout : ℕ}
      {result : CompletedProcess} (target : service ∈ allowedServices)
      (listed : earlier.getLast? = some ⟨(injector, ⟨listLine service, timeout⟩), .ok result⟩)
      (first : firstLine result.stdout = some containerId) :
      Permits fault earlier
        ["docker", "inspect", "--format", FaultInjector.inspectFormat, containerId]
  | showQdiscs {service interface : String} (target : service ∈ allowedServices)
      (device : interface ∈ allowedContainerInterfaces) :
      Permits fault earlier (tcLine service ["qdisc", "show", "dev", interface])
  | changeClsact {verb service interface : String} (known : verb ∈ ["add", "del"])
      (target : service ∈ allowedServices) (device : interface ∈ allowedContainerInterfaces) :
      Permits fault earlier (tcLine service ["qdisc", verb, "dev", interface, "clsact"])
  | showFilters {service interface : String} {rule : ImpairmentRule}
      (own : impairmentRules fault.type = some rule) (target : service ∈ allowedServices)
      (device : interface ∈ allowedContainerInterfaces) :
      Permits fault earlier (tcLine service ["filter", "show", "dev", interface, "egress", "pref",
        rule.preference])
  | addFilter {service interface : String} {rule : ImpairmentRule}
      (own : impairmentRules fault.type = some rule) (target : service ∈ allowedServices)
      (device : interface ∈ allowedContainerInterfaces) :
      Permits fault earlier
        (tcLine service ["filter", "add", "dev", interface, "egress", "protocol",
        "ip", "pref", rule.preference, "handle", rule.handle, "flower", "ip_proto", rule.protocol,
        "dst_ip", rule.peerIp, "dst_port", rule.port, "action", "drop"])
  | deleteFilter {service interface : String} {rule : ImpairmentRule}
      (own : impairmentRules fault.type = some rule) (target : service ∈ allowedServices)
      (device : interface ∈ allowedContainerInterfaces) :
      Permits fault earlier
        (tcLine service ["filter", "del", "dev", interface, "egress", "protocol",
        "ip", "pref", rule.preference, "handle", rule.handle, "flower"])

/-- A method of an injector. -/
inductive Method
  | apply
  | verifyApplied
  | remove
  | verifyRemoved
  deriving DecidableEq, Repr

def Method.invoke : Method → InjectorM Unit
  | .apply => FaultInjector.apply
  | .verifyApplied => do let _ ← FaultInjector.verifyApplied
  | .remove => FaultInjector.remove
  | .verifyRemoved => do let _ ← FaultInjector.verifyRemoved

/-- Calls of methods, one after the other, whether or not a call raises. -/
def session : List Method → InjectorM Unit
  | [] => return
  | method :: methods => do
      let _ ← attempt method.invoke
      session methods

/-- An exception of the runner is among the events. -/
def RaisedIn (earlier : List (Event (Runner.observing FaultInjector))) (error : Raised) : Prop :=
  ∃ op, (⟨op, .error error⟩ : Event (Runner.observing FaultInjector)) ∈ earlier

/-- The routines of an injector of the fault keep the fault, hand over permitted
commands only, and only raise a `ValueError` that the runner raised or that
`apply_commands` raises. -/
def FaultSpec.guard (fault : FaultSpec) :
    Guard (Runner.observing FaultInjector) FaultInjector Raised where
  kept injector := injector.fault = fault
  permitted earlier op := fault.Permits earlier op.2.command
  accounted earlier error := error.isValueError → RaisedIn earlier error ∨
    fault.applyCommands = .error error

namespace FaultSpec

variable {fault : FaultSpec} {α β : Type}

variable {earlier : List (Event (Runner.observing FaultInjector))} {command : Command}

theorem interface_ok {interface : String} (named : fault.interface = .ok interface) :
    interface ∈ allowedContainerInterfaces := by
  simp only [FaultSpec.interface, validatedInterface] at named
  split at named
  · cases named
    assumption
  · cases named

theorem tcCommand_ok {args : List String} (built : fault.tcCommand args = .ok command) :
    ∃ service ∈ allowedServices, command = tcLine service args := by
  rcases Except.bind_ok_iff.mp built with ⟨service, valid, ended⟩
  exact ⟨service, validatedService_mem valid, (Except.ok.inj ended).symm⟩

theorem impairmentRule_ok {rule : ImpairmentRule}
    (found : impairmentRule fault.type = .ok rule) : impairmentRules fault.type = some rule := by
  unfold impairmentRule at found
  split at found
  case h_1 known => rw [known, Except.ok.inj found]
  case h_2 => cases found

theorem permits_qdiscShow (built : fault.qdiscShowCommand = .ok command) :
    fault.Permits earlier command := by
  rcases Except.bind_ok_iff.mp built with ⟨interface, named, built⟩
  rcases tcCommand_ok built with ⟨service, target, rfl⟩
  exact .showQdiscs target (interface_ok named)

theorem permits_clsactAdd (built : fault.clsactAddCommand = .ok command) :
    fault.Permits earlier command := by
  rcases Except.bind_ok_iff.mp built with ⟨interface, named, built⟩
  rcases tcCommand_ok built with ⟨service, target, rfl⟩
  exact .changeClsact (by simp) target (interface_ok named)

theorem permits_clsactDelete (built : fault.clsactDeleteCommand = .ok command) :
    fault.Permits earlier command := by
  rcases Except.bind_ok_iff.mp built with ⟨interface, named, built⟩
  rcases tcCommand_ok built with ⟨service, target, rfl⟩
  exact .changeClsact (by simp) target (interface_ok named)

theorem permits_filterAdd (built : fault.filterAddCommand = .ok command) :
    fault.Permits earlier command := by
  rcases Except.bind_ok_iff.mp built with ⟨rule, found, built⟩
  rcases Except.bind_ok_iff.mp built with ⟨interface, named, built⟩
  rcases tcCommand_ok built with ⟨service, target, rfl⟩
  exact .addFilter (impairmentRule_ok found) target (interface_ok named)

theorem permits_filterDelete (built : fault.filterDeleteCommand = .ok command) :
    fault.Permits earlier command := by
  rcases Except.bind_ok_iff.mp built with ⟨rule, found, built⟩
  rcases Except.bind_ok_iff.mp built with ⟨interface, named, built⟩
  rcases tcCommand_ok built with ⟨service, target, rfl⟩
  exact .deleteFilter (impairmentRule_ok found) target (interface_ok named)

theorem permits_filterShow (built : fault.filterShowCommand = .ok command) :
    fault.Permits earlier command := by
  rcases Except.bind_ok_iff.mp built with ⟨rule, found, built⟩
  rcases Except.bind_ok_iff.mp built with ⟨interface, named, built⟩
  rcases tcCommand_ok built with ⟨service, target, rfl⟩
  exact .showFilters (impairmentRule_ok found) target (interface_ok named)

theorem permits_control {verb : String} {commands : List Command}
    (known : verb ∈ ["restart", "stop", "start"])
    (built : (do
      let service ← validatedService fault.target
      return [["docker", "compose", verb, service]]) = Except.ok commands) :
    ∀ command ∈ commands, fault.Permits earlier command := by
  rcases Except.bind_ok_iff.mp built with ⟨service, valid, ended⟩
  cases ended
  intro command member
  rw [List.mem_singleton.mp member]
  exact .control known (validatedService_mem valid)

theorem permits_applyCommands {commands : List Command}
    (built : fault.applyCommands = .ok commands) :
    ∀ command ∈ commands, fault.Permits earlier command := by
  unfold applyCommands at built
  split_ifs at built
  · cases built
    simp
  · exact permits_control (by simp) built
  · exact permits_control (by simp) built
  · rcases Except.bind_ok_iff.mp built with ⟨clsactAdd, builtClsact, built⟩
    rcases Except.bind_ok_iff.mp built with ⟨filterAdd, builtFilter, ended⟩
    cases ended
    simp [permits_clsactAdd builtClsact, permits_filterAdd builtFilter]
  · cases built
    simp

theorem permits_rollbackCommands {injector : FaultInjector} {commands : List Command}
    (same : injector.fault = fault) (built : injector.rollbackCommands = .ok commands) :
    ∀ command ∈ commands, fault.Permits earlier command := by
  unfold FaultInjector.rollbackCommands at built
  rw [same] at built
  split_ifs at built
  · cases built
    simp
  · exact permits_control (by simp) built
  · rcases Except.bind_ok_iff.mp built with ⟨filterDelete, builtFilter, built⟩
    rcases Except.bind_ok_iff.mp built with ⟨clsactDelete, builtClsact, ended⟩
    cases ended
    simp [permits_filterDelete builtFilter, permits_clsactDelete builtClsact]
  · rcases Except.bind_ok_iff.mp built with ⟨filterDelete, builtFilter, ended⟩
    cases ended
    simp [permits_filterDelete builtFilter]
  · cases built
    simp

variable {error : Raised}

theorem applyCommands_of_service
    (service : fault.type = "restart_service" ∨ fault.type = "stop_service")
    (invalid : validatedService fault.target = .error error) :
    fault.applyCommands = .error error := by
  rcases service with type | type <;> simp [applyCommands, type, invalid, bind, Except.bind]

/-- The builders of an impairment all fail in the same way. -/
theorem applyCommands_of_impairment (args : String → List String)
    (known : (impairmentRules fault.type).isSome)
    (invalid : (fault.interface >>= fun interface => fault.tcCommand (args interface)) =
      .error error) :
    fault.applyCommands = .error error := by
  rcases Option.isSome_iff_exists.mp known with ⟨rule, found⟩
  rcases FaultInjector.notService found with ⟨notNone, notStop, notRestart⟩
  have failed : fault.clsactAddCommand = .error error := by
    rw [clsactAddCommand]
    cases named : fault.interface with
    | error raised =>
        simp only [named, bind, Except.bind] at invalid ⊢
        exact invalid
    | ok interface =>
        cases valid : validatedService fault.target with
        | error raised =>
            simp only [named, tcCommand, valid, bind, Except.bind] at invalid ⊢
            exact invalid
        | ok service =>
            simp [named, tcCommand, valid, bind, Except.bind, pure, Except.pure] at invalid
  simp [applyCommands, notNone, notStop, notRestart, known, failed, bind, Except.bind]

theorem applyCommands_of_filterShow (known : (impairmentRules fault.type).isSome)
    (invalid : fault.filterShowCommand = .error error) : fault.applyCommands = .error error := by
  rcases Option.isSome_iff_exists.mp known with ⟨rule, found⟩
  rw [filterShowCommand, impairmentRule_eq found] at invalid
  exact applyCommands_of_impairment _ known invalid

theorem applyCommands_of_filterAdd (known : (impairmentRules fault.type).isSome)
    (invalid : fault.filterAddCommand = .error error) : fault.applyCommands = .error error := by
  rcases Option.isSome_iff_exists.mp known with ⟨rule, found⟩
  rw [filterAddCommand, impairmentRule_eq found] at invalid
  exact applyCommands_of_impairment _ known invalid

theorem applyCommands_of_filterDelete (known : (impairmentRules fault.type).isSome)
    (invalid : fault.filterDeleteCommand = .error error) : fault.applyCommands = .error error := by
  rcases Option.isSome_iff_exists.mp known with ⟨rule, found⟩
  rw [filterDeleteCommand, impairmentRule_eq found] at invalid
  exact applyCommands_of_impairment _ known invalid

/-- The rollback fails to be built only as the application does. -/
theorem applyCommands_of_rollback {injector : FaultInjector} (same : injector.fault = fault)
    (invalid : injector.rollbackCommands = .error error) : fault.applyCommands = .error error := by
  unfold FaultInjector.rollbackCommands at invalid
  rw [same] at invalid
  split_ifs at invalid
  case pos service =>
    refine applyCommands_of_service service.symm ?_
    cases valid : validatedService fault.target with
    | error raised => simpa [valid, bind, Except.bind] using invalid
    | ok service => simp [valid, bind, Except.bind, pure, Except.pure] at invalid
  case pos known _ =>
    cases built : fault.filterDeleteCommand with
    | error raised =>
        have failed := applyCommands_of_filterDelete known built
        simpa [built, bind, Except.bind, failed] using invalid
    | ok filterDelete =>
        refine applyCommands_of_impairment (fun interface =>
          ["qdisc", "del", "dev", interface, "clsact"]) known ?_
        change fault.clsactDeleteCommand = _
        cases built' : fault.clsactDeleteCommand with
        | error raised => simpa [built, built', bind, Except.bind] using invalid
        | ok clsactDelete =>
            simp [built, built', bind, Except.bind, pure, Except.pure] at invalid
  case neg known _ =>
    cases built : fault.filterDeleteCommand with
    | error raised =>
        have failed := applyCommands_of_filterDelete known built
        simpa [built, bind, Except.bind, failed] using invalid
    | ok filterDelete => simp [built, bind, Except.bind, pure, Except.pure] at invalid

end FaultSpec

namespace FaultInjector

open FaultSpec Guard

variable {fault : FaultSpec}

theorem accounted_of_applyCommands {error : Raised} (failed : fault.applyCommands = .error error)
    (earlier : List (Event (Runner.observing FaultInjector))) :
    fault.guard.accounted earlier error :=
  fun _ => .inr failed

theorem accounted_runtimeError (message : String)
    (earlier : List (Event (Runner.observing FaultInjector))) :
    fault.guard.accounted earlier (.runtimeError message) :=
  fun impossible => absurd impossible (by simp [Raised.runtimeError, Raised.isValueError])

/-- A permitted command is run, and its result is the last event. -/
theorem run_guarded {injector : FaultInjector}
    {earlier : List (Event (Runner.observing FaultInjector))} {command : Command} {timeout : ℕ}
    (same : injector.fault = fault) (permitted : fault.Permits earlier command) :
    (run command timeout).Ensures recording (fun earlier op _ => fault.Permits earlier op.2.command)
      (fun ended after later => after.fault = fault ∧
        (∀ error, ended = .error error → fault.guard.accounted later error) ∧
        ∀ result, ended = .ok result →
          ∃ before, later.getLast? = some ⟨(before, ⟨command, timeout⟩), .ok result⟩)
      injector earlier := by
  simp only [run, ensures_bind, ensures_update, ensures_callRunner]
  rintro (error | result) _ rfl
  · refine ⟨permitted, same, fun raised ended _ => ?_, by simp⟩
    rw [Except.error.injEq] at ended
    subst ended
    exact .inl ⟨_, List.mem_append_right _ (List.mem_singleton_self _)⟩
  · refine ⟨permitted, ?_⟩
    by_cases success : result.returncode = 0
    · simp only [ensures_ofExcept, success, ne_eq, not_true_eq_false, if_false, ensures_pure]
      refine ⟨same, by simp, fun returned ended => ?_⟩
      rw [Except.ok.injEq] at ended
      subst ended
      exact ⟨injector.record command, List.getLast?_concat⟩
    · simp only [ensures_ofExcept, success, ne_eq, not_false_eq_true, if_true, ensures_raise]
      refine ⟨same, fun raised ended => ?_, by simp⟩
      rw [Except.error.injEq] at ended
      subst ended
      exact accounted_runtimeError _ _

theorem guard_run {command : Command} {timeout : ℕ}
    (permitted : ∀ earlier, fault.Permits earlier command) :
    fault.guard.Holds (run command timeout) :=
  fun _ earlier same => (run_guarded same (permitted earlier)).mono
    fun _ _ _ reached => ⟨reached.1, reached.2.1⟩

theorem guard_containerState {service : String} (target : service ∈ allowedServices) :
    fault.guard.Holds (containerState service) := by
  intro injector earlier same
  rw [Guard.At, containerState, ensures_bind]
  refine (run_guarded same (.list target)).mono ?_
  intro ended after later ran
  have kept := ran.1
  cases ended with
  | error error => exact ⟨kept, by simpa using ran.2.1 error rfl⟩
  | ok listed =>
      dsimp only
      split
      case h_1 => exact holds_pure none after later kept
      case h_2 containerId _ lines =>
        rcases ran.2.2 listed rfl with ⟨before, last⟩
        have first : firstLine listed.stdout = some containerId := by simp [firstLine, lines]
        rw [ensures_bind]
        refine (run_guarded kept (.inspect target last first)).mono ?_
        intro ended after later ran
        have kept := ran.1
        cases ended with
        | error error => exact ⟨kept, by simpa using ran.2.1 error rfl⟩
        | ok inspected =>
            dsimp only
            split
            case h_1 => exact holds_pure _ after later kept
            case h_2 => exact at_raise kept (accounted_runtimeError _ _)

theorem guard_clsactPresent (known : (impairmentRules fault.type).isSome) :
    fault.guard.Holds clsactPresent := by
  refine holds_state fun injector same => ?_
  have kept : injector.fault = fault := same
  rw [kept]
  refine holds_ofExcept (fun error invalid => ?_) fun command built => ?_
  · exact accounted_of_applyCommands (applyCommands_of_impairment _ known invalid)
  · exact holds_bind (guard_run fun _ => permits_qdiscShow built) fun _ => holds_pure _

theorem guard_filterAbsent (known : (impairmentRules fault.type).isSome) :
    fault.guard.Holds filterAbsent := by
  refine holds_state fun injector same => ?_
  have kept : injector.fault = fault := same
  rw [kept]
  refine holds_ofExcept (fun error invalid => ?_) fun command built => ?_
  · exact accounted_of_applyCommands (applyCommands_of_filterShow known invalid)
  · exact holds_bind (guard_run fun _ => permits_filterShow built) fun _ => holds_pure _

theorem guard_impairmentRulePresent (known : (impairmentRules fault.type).isSome) :
    fault.guard.Holds impairmentRulePresent := by
  rcases Option.isSome_iff_exists.mp known with ⟨rule, found⟩
  refine holds_state fun injector same => ?_
  have kept : injector.fault = fault := same
  rw [kept, impairmentRule_eq found]
  refine holds_ofExcept (by simp) fun rule _ => holds_ofExcept (fun error invalid => ?_)
    fun command built => ?_
  · exact accounted_of_applyCommands (applyCommands_of_filterShow known invalid)
  · exact holds_bind (guard_run fun _ => permits_filterShow built) fun _ => holds_pure _

theorem guard_prepareClsact (known : (impairmentRules fault.type).isSome) :
    fault.guard.Holds prepareClsact := by
  refine holds_bind (guard_clsactPresent known) fun present => holds_ite (fun _ => ?_) fun _ => ?_
  · exact holds_pure ()
  · refine holds_bind (holds_update fun _ same => same) fun _ => holds_state fun injector same => ?_
    have kept : injector.fault = fault := same
    rw [kept]
    refine holds_ofExcept (fun error invalid => ?_) fun command built => ?_
    · exact accounted_of_applyCommands (applyCommands_of_impairment _ known invalid)
    · exact holds_bind (guard_run fun _ => permits_clsactAdd built) fun _ => holds_pure ()

theorem guard_addFilter (known : (impairmentRules fault.type).isSome) :
    fault.guard.Holds addFilter := by
  refine holds_bind (holds_update fun _ same => same) fun _ => holds_state fun injector same => ?_
  have kept : injector.fault = fault := same
  rw [kept]
  refine holds_ofExcept (fun error invalid => ?_) fun command built => ?_
  · exact accounted_of_applyCommands (applyCommands_of_filterAdd known invalid)
  · exact holds_bind (guard_run fun _ => permits_filterAdd built) fun _ =>
      holds_update fun _ same => same

theorem guard_applyImpairment (known : (impairmentRules fault.type).isSome) :
    fault.guard.Holds applyImpairment := by
  refine holds_bind (guard_filterAbsent known) fun absent => holds_ite (fun _ => ?_) fun _ => ?_
  · exact holds_bind (guard_prepareClsact known) fun _ => guard_addFilter known
  · exact holds_raise (accounted_runtimeError _)

theorem guard_runFirstApplyCommand : fault.guard.Holds runFirstApplyCommand := by
  refine holds_state fun injector same => ?_
  have kept : injector.fault = fault := same
  rw [kept]
  refine holds_ofExcept (fun error => accounted_of_applyCommands) fun commands built => ?_
  cases commands with
  | nil => exact holds_raise fun _ impossible => absurd impossible (by decide)
  | cons command commands =>
      have permitted (earlier : List (Event (Runner.observing FaultInjector))) :
          fault.Permits earlier command :=
        permits_applyCommands built command List.mem_cons_self
      exact holds_bind (guard_run permitted) fun _ => holds_pure ()

theorem guard_apply : fault.guard.Holds apply := by
  refine holds_state fun injector same => ?_
  have kept : injector.fault = fault := same
  rw [kept]
  refine holds_ite (fun _ => ?_) fun notNone => holds_ite (fun type => ?_) fun notRestart =>
    holds_ite (fun _ => ?_) fun notStop => holds_ite (fun known => ?_) fun unknown =>
      holds_ite (fun _ => ?_) fun notMutation => ?_
  · exact holds_update fun _ same => same
  · refine holds_ofExcept (fun error invalid => ?_) fun service valid => ?_
    · exact accounted_of_applyCommands (applyCommands_of_service (.inl type) invalid)
    · refine holds_bind (guard_containerState (validatedService_mem valid)) fun found => ?_
      cases found with
      | none => exact holds_raise (accounted_runtimeError _)
      | some before =>
          refine holds_ite (fun _ => ?_) fun _ => holds_raise (accounted_runtimeError _)
          refine holds_bind (holds_update fun _ same => same) fun _ => ?_
          exact holds_bind guard_runFirstApplyCommand fun _ => holds_update fun _ same => same
  · refine holds_bind (holds_update fun _ same => same) fun _ => ?_
    exact holds_bind guard_runFirstApplyCommand fun _ => holds_update fun _ same => same
  · exact guard_applyImpairment known
  · exact holds_update fun _ same => same
  · refine holds_raise (accounted_of_applyCommands ?_)
    simp [applyCommands, notNone, notRestart, notStop, unknown, notMutation]

/-- A verification runs what its body runs. -/
theorem guard_verifying {body : InjectorM Bool} (guarded : fault.guard.Holds body) :
    fault.guard.Holds (verifying body) := by
  refine holds_bind (holds_update fun _ same => same) fun _ => ?_
  refine holds_attempt guarded (fun verified => holds_pure verified) ?_
  intro error before earlier kept accounted
  dsimp only
  split
  case isTrue =>
    exact holds_bind (holds_update fun _ same => same) (fun _ => holds_pure _) before earlier kept
  case isFalse => exact at_raise kept accounted

/-- A verdict on the state of the target container. -/
theorem guard_judgeContainer {judge : Option ContainerState → InjectorM Bool}
    (service : fault.type = "restart_service" ∨ fault.type = "stop_service")
    (guarded : ∀ found, fault.guard.Holds (judge found)) :
    fault.guard.Holds (do
      let service ← ofExcept (validatedService fault.target)
      let found ← containerState service
      judge found) := by
  refine holds_ofExcept (fun error invalid => ?_) fun name valid => ?_
  · exact accounted_of_applyCommands (applyCommands_of_service service invalid)
  · exact holds_bind (guard_containerState (validatedService_mem valid)) guarded

theorem guard_verifyApplied : fault.guard.Holds verifyApplied := by
  refine guard_verifying <| holds_state fun injector same => ?_
  have kept : injector.fault = fault := same
  rw [kept]
  refine holds_ite (fun _ => holds_pure _) fun _ => holds_ite (fun type => ?_) fun _ =>
    holds_ite (fun type => ?_) fun _ => holds_ite (fun known => ?_) fun _ => holds_pure _
  · refine guard_judgeContainer (.inr type) fun found => ?_
    cases found <;> exact holds_pure _
  · refine guard_judgeContainer (.inl type) fun found => ?_
    cases found <;> exact holds_pure _
  · exact guard_impairmentRulePresent known

theorem guard_verifiedAbsent (command : Command) : fault.guard.Holds (verifiedAbsent command) := by
  refine holds_state fun injector same => ?_
  have kept : injector.fault = fault := same
  rw [kept]
  refine holds_ite (fun known => holds_ite (fun _ => ?_) fun _ => ?_) fun _ => holds_pure _
  · exact guard_filterAbsent known
  · exact holds_bind (guard_clsactPresent known) fun _ => holds_pure _

theorem guard_removeStep {command : Command}
    (permitted : ∀ earlier, fault.Permits earlier command) :
    fault.guard.Holds (removeStep command) := by
  refine holds_state fun _ same => holds_ite (fun _ => holds_pure _) fun _ => ?_
  refine holds_attempt (guard_run permitted) (fun _ => holds_pure _) ?_
  intro error before earlier kept accounted
  dsimp only
  split
  case isFalse => exact at_raise kept accounted
  case isTrue =>
    refine holds_attempt (guard_verifiedAbsent command) ?_ ?_ before earlier kept
    · exact fun _ => holds_pure _
    · intro failure before earlier kept accounted
      dsimp only
      split
      case isTrue => exact holds_pure _ before earlier kept
      case isFalse => exact at_raise kept accounted

theorem guard_removeLoop {commands : List Command}
    (permitted : ∀ command ∈ commands, ∀ earlier, fault.Permits earlier command) :
    fault.guard.Holds (removeLoop commands) := by
  induction commands with
  | nil => exact holds_pure _
  | cons command commands ih =>
      simp only [List.mem_cons, forall_eq_or_imp] at permitted
      refine holds_bind (guard_removeStep permitted.1) fun _ => ?_
      exact holds_bind (ih permitted.2) fun _ => holds_pure _

theorem guard_remove : fault.guard.Holds remove := by
  refine holds_state fun injector same => holds_ite (fun _ => holds_pure _) fun _ => ?_
  refine holds_ofExcept (fun error invalid => ?_) fun commands built => ?_
  · exact accounted_of_applyCommands (applyCommands_of_rollback same invalid)
  · have permitted : ∀ command ∈ commands, ∀ earlier, fault.Permits earlier command :=
      fun command member _ => permits_rollbackCommands same built command member
    refine holds_bind (guard_removeLoop permitted) fun errors => ?_
    cases errors with
    | nil => exact holds_update fun _ same => same
    | cons error errors => exact holds_raise (accounted_runtimeError _)

theorem guard_verifyRemoved : fault.guard.Holds verifyRemoved := by
  refine guard_verifying <| holds_state fun injector same => ?_
  have kept : injector.fault = fault := same
  rw [kept]
  refine holds_ite (fun _ => holds_pure _) fun _ => holds_ite (fun type => ?_) fun _ =>
    holds_ite (fun known => ?_) fun _ => holds_pure _
  · refine guard_judgeContainer type.symm fun found => ?_
    cases found <;> exact holds_pure _
  · refine holds_bind (guard_filterAbsent known) fun removed => ?_
    refine holds_ite (fun _ => holds_ite (fun _ => ?_) fun _ => ?_) fun _ => ?_
    · exact holds_bind (guard_clsactPresent known) fun _ => holds_pure _
    · exact holds_pure _
    · exact holds_pure _

end FaultInjector

open Guard

theorem Method.guard_invoke {fault : FaultSpec} (method : Method) :
    fault.guard.Holds method.invoke := by
  cases method with
  | apply => exact FaultInjector.guard_apply
  | verifyApplied => exact holds_bind FaultInjector.guard_verifyApplied fun _ => holds_pure ()
  | remove => exact FaultInjector.guard_remove
  | verifyRemoved => exact holds_bind FaultInjector.guard_verifyRemoved fun _ => holds_pure ()

theorem guard_session {fault : FaultSpec} (methods : List Method) :
    fault.guard.Holds (session methods) := by
  induction methods with
  | nil => exact holds_pure ()
  | cons method methods ih =>
      exact holds_attempt method.guard_invoke (fun _ => ih) fun _ before earlier kept _ =>
        ih before earlier kept

/-- In any sequence of calls, against any runner, every command is permitted. -/
theorem session_confined (injector : FaultInjector) (methods : List Method)
    (earlier : List (Event (Runner.observing FaultInjector)))
    (event : Event (Runner.observing FaultInjector))
    (emits : (session methods).Emits injector (earlier ++ [event])) :
    injector.fault.Permits earlier event.op.2.command := by
  have guarded : injector.fault.guard.Holds (session methods) := guard_session methods
  exact guarded.of_emits rfl emits

def amfStopped : FaultSpec where
  type := "stop_service"
  target := some "amf"
  value := none

/-- The listed container of the AMF is inspected. -/
theorem session_confined_inspect :
    amfStopped.Permits
      [⟨({ fault := amfStopped, history := [listLine "amf"] }, ⟨listLine "amf", 10⟩),
        .ok ⟨0, "6f1d\n", ""⟩⟩]
      ["docker", "inspect", "--format", FaultInjector.inspectFormat, "6f1d"] :=
  session_confined { fault := amfStopped } [.verifyApplied] [_]
    ⟨({ fault := amfStopped, history := [listLine "amf",
        ["docker", "inspect", "--format", FaultInjector.inspectFormat, "6f1d"]] },
      ⟨["docker", "inspect", "--format", FaultInjector.inspectFormat, "6f1d"], 10⟩),
      .ok ⟨0, "true|running|today|none\n", ""⟩⟩
    (.call _ (.call _ (.stop _)))

end FivegLab
