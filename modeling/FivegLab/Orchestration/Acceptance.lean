import FivegLab.FaultInjection.Confinement
import FivegLab.Orchestration.Run
import FivegLab.ScenarioParser

/-!
# Accepted scenarios and executable faults

The parser of scenarios checks the type of a fault, and the injector its target
and its interface.  They agree exactly on the faults whose target and interface
the injector allows.
-/

namespace FivegLab

open Routine

/-- Whatever the runner does, the injector of the fault raises no `ValueError`
of its own. -/
structure FaultSpec.Executable (fault : FaultSpec) : Prop where
  applyCommands : ∀ error, fault.applyCommands = .error error → error.isValueError = false
  rollbackCommands : ∀ injector : FaultInjector, injector.fault = fault →
    ∀ error, injector.rollbackCommands = .error error → error.isValueError = false
  apply : ∀ injector : FaultInjector, injector.fault = fault → ∀ trace error after,
    FaultInjector.apply.Runs injector trace (.error error) after → error.isValueError →
      RaisedIn trace error
  remove : ∀ injector : FaultInjector, injector.fault = fault → ∀ trace error after,
    FaultInjector.remove.Runs injector trace (.error error) after → error.isValueError →
      RaisedIn trace error

/-- A fault on a service names an allowed one, and an impairment an allowed
service and interface. -/
structure FaultSpec.Targetable (fault : FaultSpec) : Prop where
  service : fault.type = "restart_service" ∨ fault.type = "stop_service" ∨
    (impairmentRules fault.type).isSome → ∃ service ∈ allowedServices, fault.target = some service
  interface : (impairmentRules fault.type).isSome →
    Text.orElse (fault.value.getD "") "eth0" ∈ allowedContainerInterfaces

theorem validatedService_ok_iff {target : Option String} {service : String} :
    validatedService target = .ok service ↔ service ∈ allowedServices ∧ target = some service := by
  cases target with
  | none => simp [validatedService]
  | some name =>
      simp only [validatedService, Option.some.injEq]
      split
      case isTrue allowed =>
        constructor
        · intro same
          cases same
          exact ⟨allowed, rfl⟩
        · rintro ⟨_, rfl⟩
          rfl
      case isFalse forbidden =>
        constructor
        · simp
        · rintro ⟨allowed, rfl⟩
          exact absurd allowed forbidden

theorem validatedService_error {target : Option String} {error : Raised}
    (invalid : validatedService target = .error error) : error.isValueError = true := by
  unfold validatedService at invalid
  split at invalid
  · split at invalid
    · cases invalid
    · cases invalid
      rfl
  · cases invalid
    rfl

namespace FaultSpec

variable {fault : FaultSpec}

theorem interface_eq_ok_iff {interface : String} : fault.interface = .ok interface ↔
    Text.orElse (fault.value.getD "") "eth0" = interface ∧
      interface ∈ allowedContainerInterfaces := by
  simp only [FaultSpec.interface, validatedInterface]
  split
  case isTrue allowed =>
    constructor
    · intro same
      cases same
      exact ⟨rfl, allowed⟩
    · rintro ⟨rfl, _⟩
      rfl
  case isFalse forbidden =>
    constructor
    · simp
    · rintro ⟨rfl, allowed⟩
      exact absurd allowed forbidden

theorem interface_error {error : Raised} (invalid : fault.interface = .error error) :
    error.isValueError = true := by
  simp only [FaultSpec.interface, validatedInterface] at invalid
  split at invalid
  · cases invalid
  · cases invalid
    rfl

/-- A fault of a known type is executable when its commands can be built. -/
theorem executable_iff_applyCommands :
    fault.Executable ↔ ∀ error, fault.applyCommands = .error error →
    error.isValueError = false := by
  constructor
  · exact Executable.applyCommands
  · intro built
    refine ⟨built, ?_, ?_, ?_⟩
    · exact fun injector same error invalid => built error (applyCommands_of_rollback same invalid)
    · intro injector same trace error after runs isValue
      rcases FaultInjector.guard_apply.of_runs same runs isValue with raised | invalid
      · exact raised
      · rw [built error invalid] at isValue
        cases isValue
    · intro injector same trace error after runs isValue
      rcases FaultInjector.guard_remove.of_runs same runs isValue with raised | invalid
      · exact raised
      · rw [built error invalid] at isValue
        cases isValue

theorem not_builds_of_service
    (service : fault.type = "restart_service" ∨ fault.type = "stop_service" ∨
      (impairmentRules fault.type).isSome)
    (unnamed : ¬∃ service ∈ allowedServices, fault.target = some service) :
    ∃ error, fault.applyCommands = .error error ∧ error.isValueError = true := by
  cases valid : validatedService fault.target with
  | ok name => exact absurd ⟨name, validatedService_ok_iff.mp valid⟩ unnamed
  | error error =>
      rcases service with restart | stop | known
      · exact ⟨error, applyCommands_of_service (.inl restart) valid, validatedService_error valid⟩
      · exact ⟨error, applyCommands_of_service (.inr stop) valid, validatedService_error valid⟩
      · cases named : fault.interface with
        | error raised =>
            refine ⟨raised, applyCommands_of_impairment (fun _ => []) known ?_,
              interface_error named⟩
            rw [named]
            rfl
        | ok interface =>
            refine ⟨error, applyCommands_of_impairment (fun _ => []) known ?_,
              validatedService_error valid⟩
            rw [named]
            change fault.tcCommand [] = .error error
            rw [tcCommand, valid]
            rfl

theorem not_builds_of_interface (known : (impairmentRules fault.type).isSome)
    (unnamed : Text.orElse (fault.value.getD "") "eth0" ∉ allowedContainerInterfaces) :
    ∃ error, fault.applyCommands = .error error ∧ error.isValueError = true := by
  cases named : fault.interface with
  | ok interface =>
      rcases interface_eq_ok_iff.mp named with ⟨rfl, allowed⟩
      exact absurd allowed unnamed
  | error error =>
      refine ⟨error, applyCommands_of_impairment (fun _ => []) known ?_, interface_error named⟩
      rw [named]
      rfl

theorem Targetable.builds (targetable : fault.Targetable) (type_known : fault.type ∈ faultTypes) :
    ∃ commands, fault.applyCommands = .ok commands := by
  by_cases impairment : (impairmentRules fault.type).isSome
  · rcases Option.isSome_iff_exists.mp impairment with ⟨rule, known⟩
    rcases targetable.service (.inr (.inr impairment)) with ⟨service, allowed⟩
    have interface := targetable.interface impairment
    have targeted : fault.Targeted service (Text.orElse (fault.value.getD "") "eth0") :=
      ⟨validatedService_ok_iff.mpr allowed, interface_eq_ok_iff.mpr ⟨rfl, interface⟩⟩
    rcases FaultInjector.notService known with ⟨notNone, notStop, notRestart⟩
    simp [applyCommands, notNone, notStop, notRestart, impairment, targeted.clsactAddCommand_eq,
      targeted.filterAddCommand_eq known, bind, Except.bind, pure, Except.pure]
  · by_cases service : fault.type = "restart_service" ∨ fault.type = "stop_service"
    · have kinds : fault.type = "restart_service" ∨ fault.type = "stop_service" ∨
          (impairmentRules fault.type).isSome := by
        rcases service with type | type
        · exact .inl type
        · exact .inr (.inl type)
      rcases targetable.service kinds with ⟨name, allowed⟩
      have valid := validatedService_ok_iff.mpr allowed
      rcases service with type | type <;>
        simp [applyCommands, type, valid, bind, Except.bind, pure, Except.pure]
    · have rest : fault.type = "none" ∨ fault.type ∈ mutationFaults := by
        simp only [faultTypes, impairmentRules, mutationFaults, List.mem_cons, List.not_mem_nil,
          or_false] at type_known impairment ⊢
        grind
      rcases rest with type | type
      · simp [applyCommands, type]
      · refine ⟨[], ?_⟩
        simp only [mutationFaults, List.mem_cons, List.not_mem_nil, or_false] at type
        rcases type with type | type | type | type <;>
          simp [applyCommands, type, impairmentRules, mutationFaults]

end FaultSpec

/-- The entries of the fault in the mapping of a scenario. -/
def faultEntries (data : List (Yaml × Yaml)) : List (Yaml × Yaml) :=
  match Yaml.lookup "fault" data with
  | some (.mapping entries) => entries
  | _ => []

section

variable [Interpreter]

theorem optionalText_eq {entries : List (Yaml × Yaml)} {key : String} {text : Option String}
    (reads : optionalText entries key = .ok text) :
    (Yaml.lookup key entries).map Yaml.printed = text := by
  unfold optionalText at reads
  split at reads
  case h_1 value found =>
    rcases Except.bind_ok_iff.mp reads with ⟨printed, prints, ⟨⟩⟩
    rw [found, Option.map_some, Yaml.printed_of_str prints]
  case h_2 missing =>
    cases reads
    rw [missing, Option.map_none]

/-- Settings that can be printed are those of the fault as it is written. -/
theorem readFault_eq {entries : List (Yaml × Yaml)} {fault : FaultSpec}
    (reads : readFault entries = .ok fault) : fault = .ofEntries entries := by
  rcases Except.bind_ok_iff.mp reads with ⟨type, typePrints, reads⟩
  rcases Except.bind_ok_iff.mp reads with ⟨target, targetPrints, reads⟩
  rcases Except.bind_ok_iff.mp reads with ⟨value, valuePrints, ⟨⟩⟩
  rw [FaultSpec.ofEntries, Yaml.printed_of_str typePrints, optionalText_eq targetPrints,
    optionalText_eq valuePrints]

theorem parseFault_ok {value : Yaml} {path : Path}
    {fault : { fault : FaultSpec // fault.type ∈ faultTypes }}
    (parsed : parseFault value path = .ok fault) :
    ∃ entries, value = .mapping entries ∧ fault.val = .ofEntries entries := by
  unfold parseFault at parsed
  split at parsed
  case h_1 entries =>
    rcases Except.bind_ok_iff.mp parsed with ⟨written, reads, parsed⟩
    split at parsed
    · cases parsed
      exact ⟨entries, rfl, readFault_eq reads⟩
    · cases parsed
  case h_2 => cases parsed

/-- The fault of an accepted scenario is the one that its mapping writes. -/
theorem parseScenario_fault {data : List (Yaml × Yaml)} {path : Path} {scenario : Scenario}
    (accepted : parseScenario data path = .ok scenario) :
    scenario.fault = .ofEntries (faultEntries data) := by
  rcases Except.bind_ok_iff.mp accepted with ⟨_, _, accepted⟩
  rcases Except.bind_ok_iff.mp accepted with ⟨_, _, accepted⟩
  rcases Except.bind_ok_iff.mp accepted with ⟨value, written, accepted⟩
  rcases Except.bind_ok_iff.mp accepted with ⟨fault, parsed, accepted⟩
  -- what is read behind the fault leaves it as it is
  iterate 24 rcases Except.bind_ok_iff.mp accepted with ⟨_, _, accepted⟩
  cases accepted
  rcases parseFault_ok parsed with ⟨entries, rfl, same⟩
  unfold Yaml.item at written
  split at written
  case h_1 found =>
    cases written
    simp only [faultEntries, found]
    exact same
  case h_2 => cases written

/-- The injector can execute the fault of an accepted mapping exactly when it
allows the target and the interface that the mapping writes. -/
theorem parseScenario_executable {data : List (Yaml × Yaml)} {path : Path} {scenario : Scenario}
    (accepted : parseScenario data path = .ok scenario) :
    scenario.fault.Executable ↔ (FaultSpec.ofEntries (faultEntries data)).Targetable := by
  rw [← parseScenario_fault accepted, FaultSpec.executable_iff_applyCommands]
  constructor
  · intro built
    constructor
    · intro kinds
      by_contra unnamed
      rcases FaultSpec.not_builds_of_service kinds unnamed with ⟨error, invalid, isValue⟩
      rw [built error invalid] at isValue
      cases isValue
    · intro known
      by_contra unnamed
      rcases FaultSpec.not_builds_of_interface known unnamed with ⟨error, invalid, isValue⟩
      rw [built error invalid] at isValue
      cases isValue
  · intro targetable error invalid
    rcases targetable.builds scenario.fault_known with ⟨commands, built⟩
    rw [built] at invalid
    cases invalid

end

/-- A scenario that stops a service, as its file writes it. -/
def stopMapping (target : String) : List (Yaml × Yaml) :=
  [(.text "id", .text "service_stop"),
    (.text "title", .text "Service stop"),
    (.text "category", .text "SERVICE_COMPONENT"),
    (.text "description", .text "Stop one service and start it again."),
    (.text "preconditions", .list []),
    (.text "fault",
      .mapping [(.text "type", .text "stop_service"), (.text "target", .text target)]),
    (.text "expected_control_plane", .text "The service is missing."),
    (.text "expected_user_plane", .text "Traffic may fail."),
    (.text "expected_events", .list [.text "component_failure"]),
    (.text "forbidden_events", .list []),
    (.text "recovery_action", .text "Start the service."),
    (.text "recovery_expectation", .text "The baseline passes."),
    (.text "timeout_seconds", .int 300),
    (.text "runtime_validated", .bool false)]

theorem stopTimeout_bounds : 0 < 300 ∧ 300 ≤ maxTimeoutSeconds := by simp [maxTimeoutSeconds]

/-- What the mapping is parsed to. -/
def serviceStop (target : String) : Scenario where
  id := "service_stop"
  title := "Service stop"
  category := "SERVICE_COMPONENT"
  description := "Stop one service and start it again."
  preconditions := []
  fault := ⟨"stop_service", some target, none⟩
  expectedControlPlane := "The service is missing."
  expectedUserPlane := "Traffic may fail."
  expectedEvents := ["component_failure"]
  forbiddenEvents := []
  recoveryAction := "Start the service."
  recoveryExpectation := "The baseline passes."
  timeoutSeconds := 300
  runtimeValidated := false
  fault_known := by simp [faultTypes]
  timeout_bounds := stopTimeout_bounds
  category_known := by simp [taxonomy]
  events_known := by simp [allEventNames]

theorem stopMapping_accepted [Interpreter] (target : String) (path : Path) :
    parseScenario (stopMapping target) path = .ok (serviceStop target) := rfl

theorem serviceStop_amf_executable : (serviceStop "amf").fault.Executable := by
  let := asciiInterpreter
  have accepted := stopMapping_accepted "amf" (.ofText "stop.yaml")
  refine (parseScenario_executable accepted).mpr ⟨fun _ => ⟨"amf", by decide, rfl⟩, ?_⟩
  intro impairment
  exact absurd impairment (by decide)

/-- MongoDB is not one of the allowed targets: the scenario is accepted, its fault
cannot be executed, and a run of it ends without a result. -/
theorem serviceStop_mongodb_lost :
    (∀ (_ : Interpreter) (path : Path),
      parseScenario (stopMapping "mongodb") path = .ok (serviceStop "mongodb")) ∧
    ¬(serviceStop "mongodb").fault.Executable ∧
    ∀ (_ : JsonLibrary) (identity : RunIdentity), ∃ trace error, error.isValueError = true ∧
      (executeFaultOnHost 0 (serviceStop "mongodb") (.ofText "out") identity 10).Runs () trace
        (.error error) () := by
  refine ⟨fun _ => stopMapping_accepted "mongodb", fun executable => ?_, fun _ identity => ?_⟩
  · have refused := executable.applyCommands _ rfl
    exact absurd refused (by decide)
  · have played : (executeFaultOnHost 0 (serviceStop "mongodb") (.ofText "out") identity 10 ()).play
        (Host.calm (fun _ => .exited 0 "" "") "" []) 0 = some ((.error (.valueError
          "fault target must be one of ['amf', 'gnb', 'smf', 'ue', 'upf']"), ()), 0) := rfl
    exact ⟨_, _, rfl, (Program.runs_of_play played).1⟩

end FivegLab
