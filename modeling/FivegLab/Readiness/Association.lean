import FivegLab.Marks
import FivegLab.Readiness.Core

/-!
# Associations of the core

The wait looks for the last success and the last loss of an association in the
whole log.  This follows the history that the log tells line by line.
-/

namespace FivegLab

open Text

/-- An association that the log of a network function tells about. -/
inductive Association where
  | registration
  | pfcp
  deriving DecidableEq, Repr

namespace Association

/-- The markers of an association, as they are looked for. -/
def markers : Association → Markers
  | .registration =>
      { success := "NF registered [Heartbeat:"
        failures := ["NF de-registered", "Retry registration with NRF", "No heartbeat"]
        someFailure := List.cons_ne_nil _ _
        apart := by simp
        withinLine := by simp }
  | .pfcp =>
      { success := "PFCP associated"
        failures := ["PFCP de-associated", "No Heartbeat from"]
        someFailure := List.cons_ne_nil _ _
        apart := by simp
        withinLine := by simp }

/-- The log tells that the association holds. -/
def Holds : Association → String → Prop
  | .registration => Registered
  | .pfcp => Associated

/-- The services whose association the core is checked for. -/
def Monitors : Association → String → Prop
  | .registration, service => service ∈ open5gsNfs ∧ service ∉ ["nrf", "upf"]
  | .pfcp, service => service ∈ ["smf", "upf"]

instance (association : Association) (service : String) :
    Decidable (association.Monitors service) :=
  match association with
  | .registration => inferInstanceAs (Decidable (_ ∧ _))
  | .pfcp => inferInstanceAs (Decidable (_ ∈ _))

variable {association : Association}

theorem holds_iff_scan {text : String} :
    association.Holds text ↔ association.markers.scan text = true := by
  rw [← Markers.latestSucceeded_iff_scan]
  cases association with
  | registration => exact Iff.rfl
  | pfcp => exact Iff.rfl

/-- Later lines without a mark leave the association as it is, and otherwise
their last mark decides. -/
theorem holds_append_iff {history block : String} :
    association.Holds (endLine history ++ block) ↔
      (association.markers.marks block).foldl follow (association.markers.scan history) = true := by
  rw [holds_iff_scan, Markers.scan_endLine_append]

theorem holds_append {history block : String} (holds : association.Holds history)
    (kept : association.markers.marks block = [] ∨
      (association.markers.marks block).getLast? = some .success) :
    association.Holds (endLine history ++ block) := by
  rw [holds_append_iff, holds_iff_scan.mp holds]
  rcases kept with silent | regained
  · rw [silent]
    rfl
  · rw [foldl_follow_of_last regained]
    rfl

theorem not_holds_append {history block : String}
    (lost : (association.markers.marks block).getLast? = some .failure) :
    ¬association.Holds (endLine history ++ block) := by
  rw [holds_append_iff, foldl_follow_of_last lost]
  exact Bool.false_ne_true

theorem Monitors.mem_open5gsNfs {service : String} (monitors : association.Monitors service) :
    service ∈ open5gsNfs := by
  cases association with
  | registration => exact monitors.1
  | pfcp =>
      simp only [Monitors, List.mem_cons, List.not_mem_nil, or_false] at monitors
      rcases monitors with rfl | rfl
      · decide
      · decide

end Association

/-- The snapshot after more lines in the log of a service, which begin on a new line. -/
def CoreSnapshot.appendLog (snapshot : CoreSnapshot) (service : String) (lines : List String) :
    CoreSnapshot where
  containers := snapshot.containers
  logs := snapshot.logs.map fun entry =>
    if entry.1 = service then (entry.1, endLine entry.2 ++ linesText lines) else entry

namespace CoreSnapshot

variable {snapshot : CoreSnapshot} {service : String} {block : List String}

theorem find?_appendLog (logs : List (String × String)) (other : String) :
    (logs.map fun entry => if entry.1 = service then (entry.1, endLine entry.2 ++ linesText block)
      else entry).find?
        (fun entry => entry.1 = other) =
      (logs.find? fun entry => entry.1 = other).map fun entry =>
        if entry.1 = service then (entry.1, endLine entry.2 ++ linesText block) else entry := by
  rw [List.find?_map]
  congr 2
  funext entry
  dsimp only [Function.comp]
  split <;> rfl

theorem log_appendLog_of_ne {other : String} (different : other ≠ service) :
    (snapshot.appendLog service block).log other = snapshot.log other := by
  rw [log, log, appendLog, find?_appendLog, Option.map_map]
  cases found : snapshot.logs.find? fun entry => entry.1 = other with
  | none => rfl
  | some entry =>
      have key : entry.1 = other := by simpa using List.find?_some found
      simp [key, different]

theorem log_appendLog (known : snapshot.log service ≠ "") :
    (snapshot.appendLog service block).log service =
      endLine (snapshot.log service) ++ linesText block := by
  rw [log] at known
  rw [log, log, appendLog, find?_appendLog, Option.map_map]
  cases found : snapshot.logs.find? fun entry => entry.1 = service with
  | none => simp [found] at known
  | some entry =>
      have key : entry.1 = service := by simpa using List.find?_some found
      simp [key]

end CoreSnapshot

section Verdict

variable {snapshot : CoreSnapshot} {service : String}

/-- A container that runs and has never restarted. -/
def CoreSnapshot.Runs (snapshot : CoreSnapshot) (service : String) : Prop :=
  ∃ container, snapshot.container service = some container ∧
    container.status = .string "running" ∧ container.restartCount.IsZero ∧
    (service = "mongodb" → container.health = .string "healthy")

/-- Only its log can speak against a service that runs. -/
theorem serviceIssues_of_runs (runs : snapshot.Runs service) :
    serviceIssues snapshot service = .ok (logIssues snapshot service) := by
  rcases runs with ⟨container, found, running, restarts, healthy⟩
  have notStopped := stopped_running.mpr restarts
  have nothing : noteUnless (service = "mongodb" → some container.health = some (.string "healthy"))
      "MongoDB is not healthy" = [] := by
    simpa using healthy
  simp only [serviceIssues, found, running, notStopped, Option.map_some, Option.getD_some, nothing,
    bind, Except.bind, pure, Except.pure, Bool.false_eq_true, if_false]
  simp [CoreIssues.append, noteUnless]

theorem servicesIssues_of_runs {services : List String}
    (runs : ∀ service ∈ services, snapshot.Runs service) :
    servicesIssues snapshot services = .ok
      { fatal := services.flatMap fun service => (logIssues snapshot service).fatal
        pending := services.flatMap fun service => (logIssues snapshot service).pending } := by
  induction services with
  | nil => rfl
  | cons service services ih =>
      rw [List.forall_mem_cons] at runs
      rw [servicesIssues, serviceIssues_of_runs runs.1, ih runs.2]
      rfl

theorem coreIssues_of_servicesIssues {issues : CoreIssues} (initialized : snapshot.Initialized)
    (found : servicesIssues snapshot coreServices = .ok issues) :
    coreIssues snapshot = .ok issues := by
  rw [coreIssues, found, initIssues_eq_empty_iff.mpr initialized]
  rfl

/-- The issues of a core whose containers are all as they should be. -/
theorem coreIssues_of_runs (initialized : snapshot.Initialized)
    (runs : ∀ service ∈ coreServices, snapshot.Runs service) :
    coreIssues snapshot = .ok
      { fatal := coreServices.flatMap fun service => (logIssues snapshot service).fatal
        pending := coreServices.flatMap fun service => (logIssues snapshot service).pending } :=
  coreIssues_of_servicesIssues initialized (servicesIssues_of_runs runs)

theorem logIssues_congr {other : CoreSnapshot} (same : other.log service = snapshot.log service) :
    logIssues other service = logIssues snapshot service := by
  rw [logIssues, logIssues, same]

end Verdict

section Append

variable {snapshot : CoreSnapshot} {association : Association} {service : String}
  {block : List String}

theorem CoreSnapshot.Ready.runs (ready : snapshot.Ready) :
    ∀ service ∈ coreServices, snapshot.Runs service :=
  fun service member => (ready.services service member).running

theorem CoreSnapshot.Ready.logIssues_eq (ready : snapshot.Ready) {service : String}
    (member : service ∈ coreServices) : logIssues snapshot service = {} := by
  have served := ready.services service member
  exact logIssues_eq_empty_iff.mpr ⟨served.initialized, served.noFatal, served.registered,
    served.associated⟩

theorem mem_coreServices_of_mem {service : String} (known : service ∈ open5gsNfs) :
    service ∈ coreServices := by
  rw [coreServices]
  exact List.mem_cons_of_mem _ (List.mem_append_left _ known)

theorem CoreSnapshot.Ready.log_appendLog (ready : snapshot.Ready) (known : service ∈ open5gsNfs) :
    (snapshot.appendLog service block).log service =
      endLine (snapshot.log service) ++ linesText block := by
  apply CoreSnapshot.log_appendLog
  intro empty
  have initialized := (ready.services service (mem_coreServices_of_mem known)).initialized known
  rw [InitializationLogged, empty, Contains, String.toList_empty, List.infix_nil] at initialized
  simp at initialized

theorem not_fatalLogged_append {history text : String} (before : ¬FatalLogged history)
    (after : ¬FatalLogged text) : ¬FatalLogged (endLine history ++ text) := by
  rintro (fatal | fatal | fatal)
  · rcases (contains_endLine_append (by simp)).mp fatal with first | second
    · exact before (.inl first)
    · exact after (.inl second)
  · rcases (contains_endLine_append (by simp)).mp fatal with first | second
    · exact before (.inr (.inl first))
    · exact after (.inr (.inl second))
  · rcases (contains_endLine_append (by simp)).mp fatal with first | second
    · exact before (.inr (.inr first))
    · exact after (.inr (.inr second))

theorem initializationLogged_append {service history : String} (known : service ∈ open5gsNfs)
    (logged : InitializationLogged service history) (text : String) :
    InitializationLogged service (endLine history ++ text) := by
  have withinLine : '\n' ∉ (Text.upper service ++ " initialize...done").toList := by
    simp only [open5gsNfs, List.mem_cons, List.not_mem_nil, or_false] at known
    rcases known with rfl | rfl | rfl | rfl | rfl | rfl | rfl | rfl | rfl <;> decide +kernel
  exact (contains_endLine_append withinLine).mpr (.inl logged)

theorem CoreSnapshot.ServiceReady.holds {service : String} (ready : snapshot.ServiceReady service)
    (monitors : association.Monitors service) : association.Holds (snapshot.log service) := by
  cases association with
  | registration => exact ready.registered monitors.1 monitors.2
  | pfcp => exact ready.associated monitors

/-- What speaks against a service after more lines is the association alone. -/
theorem logIssues_appendLog (ready : snapshot.Ready) (monitors : association.Monitors service)
    (noFatal : ¬FatalLogged (linesText block))
    (others : ∀ other ≠ association, other.markers.marks (linesText block) = []) :
    (logIssues (snapshot.appendLog service block) service).fatal = [] ∧
    ((logIssues (snapshot.appendLog service block) service).pending = [] ↔
      association.Holds (endLine (snapshot.log service) ++ linesText block)) := by
  have member := monitors.mem_open5gsNfs
  have served := ready.services service (mem_coreServices_of_mem member)
  have initialized := initializationLogged_append member (served.initialized member)
      (linesText block)
  have quiet := not_fatalLogged_append (served.noFatal member) noFatal
  have kept : ∀ other ≠ association, other.Monitors service →
      other.Holds (endLine (snapshot.log service) ++ linesText block) :=
    fun other different monitored =>
      Association.holds_append (served.holds monitored) (.inl (others other different))
  have monitored : (logIssues (snapshot.appendLog service block) service).pending = [] ↔
      (Association.registration.Monitors service →
        Registered (endLine (snapshot.log service) ++ linesText block)) ∧
      (Association.pfcp.Monitors service →
        Associated (endLine (snapshot.log service) ++ linesText block)) := by
    rw [logIssues, if_pos member]
    simp only [ready.log_appendLog member, List.append_eq_nil_iff, noteUnless_eq_nil_iff,
      initialized, true_and, Association.Monitors, member]
  constructor
  · rw [logIssues, if_pos member]
    simpa only [ready.log_appendLog member, noteUnless_eq_nil_iff] using quiet
  · rw [monitored]
    cases association with
    | registration =>
        have associated := kept .pfcp (by decide)
        exact ⟨fun all => all.1 monitors, fun holds => ⟨fun _ => holds, associated⟩⟩
    | pfcp =>
        have registered := kept .registration (by decide)
        exact ⟨fun all => all.2 monitors, fun holds => ⟨registered, fun _ => holds⟩⟩

theorem coreIssues_appendLog (ready : snapshot.Ready) (monitors : association.Monitors service)
    (noFatal : ¬FatalLogged (linesText block))
    (others : ∀ other ≠ association, other.markers.marks (linesText block) = []) :
    ∃ pending, coreIssues (snapshot.appendLog service block) = .ok { pending } ∧
      (pending = [] ↔ association.Holds (endLine (snapshot.log service) ++ linesText block)) := by
  have initialized : (snapshot.appendLog service block).Initialized := ready.initialized
  have issues := coreIssues_of_runs initialized ready.runs
  have here := logIssues_appendLog ready monitors noFatal others
  have elsewhere : ∀ other ∈ coreServices, other ≠ service →
      logIssues (snapshot.appendLog service block) other = {} := by
    intro other member different
    rw [logIssues_congr (CoreSnapshot.log_appendLog_of_ne different), ready.logIssues_eq member]
  have noneFatal : (coreServices.flatMap fun other =>
      (logIssues (snapshot.appendLog service block) other).fatal) = [] := by
    rw [List.flatMap_eq_nil_iff]
    intro other member
    by_cases same : other = service
    · rw [same]
      exact here.1
    · rw [elsewhere other member same]
  rw [noneFatal] at issues
  refine ⟨_, issues, ?_⟩
  rw [List.flatMap_eq_nil_iff, ← here.2]
  constructor
  · intro all
    exact all service (mem_coreServices_of_mem monitors.mem_open5gsNfs)
  · intro nothing other member
    by_cases same : other = service
    · rw [same]
      exact nothing
    · rw [elsewhere other member same]

end Append

/-- The formula of the last occurrences is a scan of the history, and later lines
change the verdict on a core that is ready as their last marker tells. -/
theorem coreIssues_follow_history :
    (∀ (association : Association) (lines : List String),
      association.Holds (linesText lines) ↔ association.markers.scan (linesText lines) = true) ∧
    ∀ (snapshot : CoreSnapshot) (association : Association) (service : String)
      (block : List String), coreIssues snapshot = .ok {} → association.Monitors service →
      ¬FatalLogged (linesText block) →
      (∀ other ≠ association, other.markers.marks (linesText block) = []) →
      (association.markers.marks (linesText block) = [] ∨
          (association.markers.marks (linesText block)).getLast? = some .success →
        coreIssues (snapshot.appendLog service block) = .ok {}) ∧
      ((association.markers.marks (linesText block)).getLast? = some .failure →
        ∃ pending, coreIssues (snapshot.appendLog service block) = .ok { pending } ∧
          pending ≠ []) := by
  refine ⟨fun _ _ => Association.holds_iff_scan, ?_⟩
  intro snapshot association service block passed monitors noFatal others
  have ready := coreIssues_eq_empty_iff.mp passed
  have before : association.Holds (snapshot.log service) :=
    (ready.services service (mem_coreServices_of_mem monitors.mem_open5gsNfs)).holds monitors
  rcases coreIssues_appendLog ready monitors noFatal others with ⟨pending, issues, decided⟩
  constructor
  · intro kept
    rw [issues, decided.mpr (Association.holds_append before kept)]
  · intro lost
    exact ⟨pending, issues, fun nothing => Association.not_holds_append lost (decided.mp nothing)⟩

/-- The log of a network function that is up, line by line. -/
def readyLines (service : String) : List String :=
  [Text.upper service ++ " initialize...done", "NF registered [Heartbeat:10s]", "PFCP associated"]

/-- A core that is up. -/
def readyCore : CoreSnapshot where
  containers :=
    (.string "log-init",
      ⟨.string "log-init", .null, .string "exited", .null, .int 0, .int 0, .null⟩) ::
      coreServices.map fun service => (.string service,
        ⟨.string service, .null, .string "running", .string "T0", .int 0, .int 0,
          .string "healthy"⟩)
  logs := open5gsNfs.map fun service => (service, linesText (readyLines service))

/-- The SMF loses its PFCP association, and later regains it. -/
theorem coreIssues_follow_history_lost :
    (∃ pending, coreIssues (readyCore.appendLog "smf" ["PFCP de-associated"]) = .ok { pending } ∧
      pending ≠ []) ∧
    coreIssues (readyCore.appendLog "smf" ["PFCP de-associated", "PFCP associated"]) = .ok {} := by
  have ready : coreIssues readyCore = .ok {} := by decide +kernel
  have apart : ∀ block : String, Association.registration.markers.marks block = [] →
      ∀ other ≠ Association.pfcp, other.markers.marks block = [] := by
    rintro block silent (_ | _) different
    · exact silent
    · exact absurd rfl different
  have lost := coreIssues_follow_history.2 readyCore .pfcp "smf" ["PFCP de-associated"] ready
    (by decide) (by decide +kernel) (apart _ (by decide +kernel))
  have regained := coreIssues_follow_history.2 readyCore .pfcp "smf"
    ["PFCP de-associated", "PFCP associated"] ready (by decide) (by decide +kernel)
    (apart _ (by decide +kernel))
  exact ⟨lost.2 (by decide +kernel), regained.1 (.inr (by decide +kernel))⟩

end FivegLab
