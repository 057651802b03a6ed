import FivegLab.Json
import FivegLab.Text
import Mathlib.Tactic.MkIffOfInductiveProp

/-!
# The state of the core

A snapshot of the core's containers and logs, and what is wrong with it.
-/

namespace FivegLab

def open5gsNfs : List String := ["nrf", "ausf", "udm", "udr", "bsf", "pcf", "amf", "smf", "upf"]

def coreServices : List String := "mongodb" :: open5gsNfs ++ ["dn-server"]

/-- The metadata of a container, as the container engine reports it. -/
structure CoreContainer where
  id : Json
  image : Json
  status : Json
  startedAt : Json
  exitCode : Json
  restartCount : Json
  health : Json
  deriving DecidableEq, Repr

/-- The containers and the logs of the core, by service. -/
structure CoreSnapshot where
  containers : List (Json × CoreContainer) := []
  logs : List (String × String) := []
  deriving DecidableEq, Repr

namespace CoreSnapshot

variable (snapshot : CoreSnapshot)

/-- `containers.get(service)`. -/
def container (service : String) : Option CoreContainer :=
  (snapshot.containers.find? fun entry => entry.1 = .string service).map Prod.snd

/-- `logs.get(service, "")`. -/
def log (service : String) : String :=
  ((snapshot.logs.find? fun entry => entry.1 = service).map Prod.snd).getD ""

end CoreSnapshot

/-- The last success is later than every failure. -/
def LatestAssociationSucceeded (output success : String) (failures : List String) : Prop :=
  ∀ failure ∈ failures, Text.rfind output failure < Text.rfind output success

instance (output success : String) (failures : List String) :
    Decidable (LatestAssociationSucceeded output success failures) :=
  inferInstanceAs (Decidable (∀ failure ∈ failures, _))

def Registered (output : String) : Prop :=
  LatestAssociationSucceeded output "NF registered [Heartbeat:"
    ["NF de-registered", "Retry registration with NRF", "No heartbeat"]

def Associated (output : String) : Prop :=
  LatestAssociationSucceeded output "PFCP associated" ["PFCP de-associated", "No Heartbeat from"]

/-- A line of the log says that the function failed to initialize. -/
def FatalLogged (output : String) : Prop :=
  Text.Contains output "FATAL" ∨ Text.Contains output "Failed to initialize" ∨
    Text.Contains output "unknown key `db_uri`"

def InitializationLogged (service output : String) : Prop :=
  Text.Contains output (Text.upper service ++ " initialize...done")

instance (output : String) : Decidable (Registered output) :=
  inferInstanceAs (Decidable (LatestAssociationSucceeded _ _ _))

instance (output : String) : Decidable (Associated output) :=
  inferInstanceAs (Decidable (LatestAssociationSucceeded _ _ _))

instance (output : String) : Decidable (FatalLogged output) :=
  inferInstanceAs (Decidable (_ ∨ _ ∨ _))

instance (service output : String) : Decidable (InitializationLogged service output) :=
  inferInstanceAs (Decidable (Text.Contains _ _))

/-- What is wrong: for good, or not yet right. -/
structure CoreIssues where
  fatal : List String := []
  pending : List String := []
  deriving DecidableEq, Repr

def CoreIssues.append (first second : CoreIssues) : CoreIssues where
  fatal := first.fatal ++ second.fatal
  pending := first.pending ++ second.pending

/-- A note, if a condition fails. -/
def noteUnless (condition : Prop) [Decidable condition] (note : String) : List String :=
  if condition then [] else [note]

def initIssues (snapshot : CoreSnapshot) : CoreIssues :=
  match snapshot.container "log-init" with
  | none => { pending := ["log-init has not completed successfully"] }
  | some init =>
      if init.status = .string "exited" ∧ ¬init.exitCode.IsZero then
        { fatal := ["log-init failed"] }
      else if init.status ≠ .string "exited" ∨ ¬init.exitCode.IsZero then
        { pending := ["log-init has not completed successfully"] }
      else {}

/-- What the log of a network function tells. -/
def logIssues (snapshot : CoreSnapshot) (service : String) : CoreIssues :=
  if service ∈ open5gsNfs then
    let output := snapshot.log service
    { fatal := noteUnless (¬FatalLogged output)
        (service ++ ": initialization error in current-process logs")
      pending :=
        noteUnless (InitializationLogged service output)
            (service ++ ": missing initialization success") ++
          noteUnless (service ∉ ["nrf", "upf"] → Registered output)
            (service ++ ": not registered with NRF") ++
          noteUnless (service ∈ ["smf", "upf"] → Associated output)
            (service ++ ": PFCP association pending") }
  else {}

/-- The container restarted, or is in a state that it does not leave by itself. -/
def stopped (status restartCount : Json) : Except Raised Bool :=
  if ¬restartCount.IsZero then .ok true
  else do
    let status ← status.hashable
    return status ∈ [.string "exited", .string "dead", .string "restarting"]

def serviceIssues (snapshot : CoreSnapshot) (service : String) : Except Raised CoreIssues := do
  let state := snapshot.container service
  let status := (state.map CoreContainer.status).getD (.string "missing")
  let restartCount := (state.map CoreContainer.restartCount).getD (.int 0)
  if ← stopped status restartCount then
    return { fatal := [service ++ ": status=" ++ status.display ++ ", restarts=" ++
      restartCount.display] }
  else
    return CoreIssues.append
      { pending := noteUnless (status = .string "running") (service ++ ": " ++ status.display) ++
          noteUnless
            (service = "mongodb" → state.map CoreContainer.health = some (.string "healthy"))
            "MongoDB is not healthy" }
      (logIssues snapshot service)

/-- The issues of several services, in order. -/
def servicesIssues (snapshot : CoreSnapshot) : List String → Except Raised CoreIssues
  | [] => return {}
  | service :: services => do
      let issues ← serviceIssues snapshot service
      let more ← servicesIssues snapshot services
      return issues.append more

def coreIssues (snapshot : CoreSnapshot) : Except Raised CoreIssues := do
  let issues ← servicesIssues snapshot coreServices
  return (initIssues snapshot).append issues

/-- `log-init` has exited with status zero. -/
def CoreSnapshot.Initialized (snapshot : CoreSnapshot) : Prop :=
  ∃ init, snapshot.container "log-init" = some init ∧ init.status = .string "exited" ∧
    init.exitCode.IsZero

/-- The service runs, has never restarted, and its log tells of its success. -/
structure CoreSnapshot.ServiceReady (snapshot : CoreSnapshot) (service : String) : Prop where
  running : ∃ container, snapshot.container service = some container ∧
    container.status = .string "running" ∧ container.restartCount.IsZero ∧
    (service = "mongodb" → container.health = .string "healthy")
  initialized : service ∈ open5gsNfs → InitializationLogged service (snapshot.log service)
  noFatal : service ∈ open5gsNfs → ¬FatalLogged (snapshot.log service)
  registered : service ∈ open5gsNfs → service ∉ ["nrf", "upf"] → Registered (snapshot.log service)
  associated : service ∈ ["smf", "upf"] → Associated (snapshot.log service)

@[mk_iff]
structure CoreSnapshot.Ready (snapshot : CoreSnapshot) : Prop where
  initialized : snapshot.Initialized
  services : ∀ service ∈ coreServices, snapshot.ServiceReady service

@[simp]
theorem noteUnless_eq_nil_iff {condition : Prop} [Decidable condition] {note : String} :
    noteUnless condition note = [] ↔ condition := by
  simp [noteUnless]

theorem CoreIssues.append_eq_empty_iff {first second : CoreIssues} :
    first.append second = {} ↔ first = {} ∧ second = {} := by
  rcases first with ⟨fatal, pending⟩
  rcases second with ⟨fatal', pending'⟩
  simp only [append, mk.injEq, List.append_eq_nil_iff]
  tauto

theorem initIssues_eq_empty_iff {snapshot : CoreSnapshot} :
    initIssues snapshot = {} ↔ snapshot.Initialized := by
  rw [initIssues, CoreSnapshot.Initialized]
  cases snapshot.container "log-init" with
  | none => simp
  | some init =>
      simp only [Option.some.injEq, exists_eq_left']
      split
      case isTrue failed => simp [failed.2]
      case isFalse =>
        split
        case isTrue notYet => simpa [imp_iff_not_or] using notYet
        case isFalse ended => simpa using ended

theorem stopped_running {restartCount : Json} :
    stopped (.string "running") restartCount = .ok false ↔ restartCount.IsZero := by
  rw [stopped]
  split
  case isTrue restarted => simpa using restarted
  case isFalse still => simpa [Json.hashable, bind, Except.bind, pure, Except.pure] using still

theorem logIssues_eq_empty_iff {snapshot : CoreSnapshot} {service : String} :
    logIssues snapshot service = {} ↔
      (service ∈ open5gsNfs → InitializationLogged service (snapshot.log service)) ∧
      (service ∈ open5gsNfs → ¬FatalLogged (snapshot.log service)) ∧
      (service ∈ open5gsNfs → service ∉ ["nrf", "upf"] → Registered (snapshot.log service)) ∧
      (service ∈ ["smf", "upf"] → Associated (snapshot.log service)) := by
  rw [logIssues]
  split
  case isTrue known =>
    simp only [CoreIssues.mk.injEq, List.append_eq_nil_iff, noteUnless_eq_nil_iff, known,
      forall_const]
    tauto
  case isFalse unknown =>
    have neither : service ∉ ["smf", "upf"] := by
      intro either
      apply unknown
      revert either
      simp only [open5gsNfs, List.mem_cons, List.not_mem_nil, or_false]
      tauto
    simp [unknown, neither]

theorem serviceIssues_eq_empty_iff {snapshot : CoreSnapshot} {service : String} :
    serviceIssues snapshot service = .ok {} ↔ snapshot.ServiceReady service := by
  constructor
  · intro none
    simp only [serviceIssues, bind, Except.bind] at none
    split at none
    case h_1 => exact absurd none (by simp)
    case h_2 ended isStopped =>
      cases ended with
      | true => simp [pure, Except.pure] at none
      | false =>
          simp only [Bool.false_eq_true, if_false, pure, Except.pure, Except.ok.injEq,
            CoreIssues.append_eq_empty_iff, CoreIssues.mk.injEq, List.append_eq_nil_iff,
            noteUnless_eq_nil_iff, true_and, logIssues_eq_empty_iff] at none
          rcases none with ⟨⟨running, healthy⟩, initialized, noFatal, registered, associated⟩
          refine ⟨?_, initialized, noFatal, registered, associated⟩
          cases found : snapshot.container service with
          | none => simp [found] at running
          | some container =>
              simp only [found, Option.map_some, Option.getD_some, Option.some.injEq] at *
              rw [running, stopped_running] at isStopped
              exact ⟨container, rfl, running, isStopped, healthy⟩
  · intro ready
    rcases ready with ⟨⟨container, found, running, restarts, healthy⟩, initialized, noFatal,
      registered, associated⟩
    have notStopped := stopped_running.mpr restarts
    have noLogIssues := logIssues_eq_empty_iff.mpr ⟨initialized, noFatal, registered, associated⟩
    simpa [serviceIssues, found, running, notStopped, noLogIssues, bind, Except.bind, pure,
      Except.pure, CoreIssues.append, noteUnless] using healthy

theorem servicesIssues_eq_empty_iff {snapshot : CoreSnapshot} {services : List String} :
    servicesIssues snapshot services = .ok {} ↔
      ∀ service ∈ services, snapshot.ServiceReady service := by
  induction services with
  | nil => simp [servicesIssues, pure, Except.pure]
  | cons service services ih =>
      rw [List.forall_mem_cons, ← ih, ← serviceIssues_eq_empty_iff, servicesIssues]
      cases serviceIssues snapshot service with
      | error error => simp [bind, Except.bind]
      | ok issues =>
          cases servicesIssues snapshot services with
          | error error => simp [bind, Except.bind]
          | ok more => simp [bind, Except.bind, pure, Except.pure, CoreIssues.append_eq_empty_iff]

/-- A snapshot without issues is that of a ready core. -/
theorem coreIssues_eq_empty_iff {snapshot : CoreSnapshot} :
    coreIssues snapshot = .ok {} ↔ snapshot.Ready := by
  rw [CoreSnapshot.ready_iff, ← initIssues_eq_empty_iff, ← servicesIssues_eq_empty_iff, coreIssues]
  cases servicesIssues snapshot coreServices with
  | error error => simp [bind, Except.bind]
  | ok issues => simp [bind, Except.bind, pure, Except.pure, CoreIssues.append_eq_empty_iff]

end FivegLab
