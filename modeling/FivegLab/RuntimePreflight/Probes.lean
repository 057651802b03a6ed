import FivegLab.Host.Issued
import FivegLab.Program.Noting
import FivegLab.RuntimePreflight.Basic

/-!
# The probes of the preflight

The commands of one probe, whatever they answer and wherever it stops: the container
is started once, and behind it comes the cleanup, which a returned run has finished.
-/

namespace FivegLab.RuntimePreflight

open Routine (attempt ofExcept raise)

/-- The call of the host, if the event is one. -/
def hostEvent : Event PreflightHost → Option (Event Host)
  | ⟨.host op, reply⟩ => some ⟨op, reply⟩
  | _ => none

/-- The command that an event issues. -/
def commandOf (event : Event PreflightHost) : Option HostCommand :=
  (hostEvent event).bind Event.issued

/-- The commands that a trace issues, in order. -/
abbrev commands (trace : List (Event PreflightHost)) : List HostCommand := noted commandOf trace

/-- The routine issues commands with the arguments of a block, and ends as told. -/
abbrev Issuing {α : Type} (block : List (List String)) (holds : α → List HostCommand → Prop)
    (routine : PreflightM α) : Prop :=
  routine.Block commandOf HostCommand.args block holds

/-- A call of the host whose reply may raise is such a call of the preflight. -/
theorem onHost_fallible {α : Type} (op : HostOp) (next : op.Reply → Except Raised α) :
    onHost (Routine.call (I := Host) op >>= fun reply => ofExcept (next reply)) =
      (Routine.call (I := PreflightHost) (.host op) >>= fun reply => ofExcept (next reply)) := by
  funext state
  refine congrArg (Program.call (I := PreflightHost) (.host op)) ?_
  funext reply
  have same (value : Except Raised α) :
      (ofExcept value : HostM α).realize hostCalls = ofExcept value := by
    cases value <;> rfl
  exact congrFun (same (next reply)) state

theorem execute_eq (args : List String) (timeout : ℕ) :
    execute args timeout = (do
      let ended ← Routine.call (I := PreflightHost) (.host (.spawn args [] timeout))
      ofExcept (CompletedProcess.ofEnd timeout ended)) :=
  onHost_fallible (.spawn args [] timeout) (CompletedProcess.ofEnd timeout)

theorem issuing_execute (args : List String) (timeout : ℕ) :
    Issuing [args] (fun result issued => ∃ ended, issued = [⟨args, [], ended⟩] ∧
      CompletedProcess.ofEnd timeout ended = .ok result) (execute args timeout) := by
  rw [execute_eq]
  exact Routine.block_noted (fun _ => rfl) fun _ => rfl

/-- A command whose end is kept, whatever it is. -/
theorem issuing_attempt_execute (args : List String) (timeout : ℕ) :
    Issuing [args] (fun result issued => ∃ ended, issued = [⟨args, [], ended⟩] ∧
      CompletedProcess.ofEnd timeout ended = result) (attempt (execute args timeout)) := by
  rw [execute_eq]
  exact Routine.block_attempt_noted (fun _ => rfl) fun _ => rfl

/-- A routine of the host that issues no command. -/
theorem issuing_onHost {α : Type} {routine : HostM α} (silent : Issues (fun _ => False) routine) :
    Issuing [] (fun _ issued => issued = []) (onHost routine) := by
  intro allowed earlier permitted
  have nothing : allowed earlier := by simpa using permitted [] List.prefix_rfl
  have calls := silent ()
  rw [Routine.Notes, Routine.Ensures, onHost, Routine.realize]
  generalize routine () = program at calls
  induction program with
  | done ended =>
      refine ⟨[], (List.append_nil _).symm, ?_⟩
      cases ended.1 with
      | error error => exact List.prefix_rfl
      | ok value => exact ⟨rfl, rfl⟩
  | call op next ih =>
      rintro reply _ rfl
      have none : commandOf ⟨.host op, reply⟩ = none := by
        cases op with
        | spawn => exact absurd calls.1 id
        | _ => rfl
      rw [none, Option.toList_none, List.append_nil]
      exact ⟨nothing, ih reply (calls.2 reply)⟩
  | unfinished => trivial

/-- The commands behind the start of a probe. -/
def cleanupArgs (role : ProbeRole) (name : String) (path : Path) : List (List String) :=
  [removeContainer name, findContainer name] ++
    if role = .logs then
      [removeFile name path, removeContainer (cleanupName name), findContainer (cleanupName name)]
    else []

def probeArgs (role : ProbeRole) (name : String) (path : Path) : List (List String) :=
  startProbe name path :: cleanupArgs role name path

/-- The command exited with zero, and what it printed passes a test. -/
def Exits (test : String → Prop) (ended : ProcessEnd) : Prop :=
  ∃ stdout stderr, ended = .exited 0 stdout stderr ∧ test stdout

/-- A probe that was run, with its cleanup; the last three ends are those of the
commands that only a log probe has. -/
structure Probed where
  service : String
  role : ProbeRole
  name : String
  path : Path
  started : ProcessEnd
  removed : ProcessEnd
  remaining : ProcessEnd
  fileRemoved : ProcessEnd
  fileContainerRemoved : ProcessEnd
  fileContainerRemaining : ProcessEnd

def ProbeRole.marker : ProbeRole → String
  | .init => "LOG_DIRECTORY_READY"
  | .logs => "RUNTIME_LOG_WRITE_PASS"
  | .bootstrap => "UPF_BOOTSTRAP_PASS"
  | .mongo => "MONGODB_PING_PASS"

namespace Probed

variable (probed : Probed)

/-- What the plan says of the probe. -/
def planned : String × ProbeRole := (probed.service, probed.role)

def commands : List HostCommand :=
  [⟨startProbe probed.name probed.path, [], probed.started⟩,
    ⟨removeContainer probed.name, [], probed.removed⟩,
    ⟨findContainer probed.name, [], probed.remaining⟩] ++
  if probed.role = .logs then
    [⟨removeFile probed.name probed.path, [], probed.fileRemoved⟩,
      ⟨removeContainer (cleanupName probed.name), [], probed.fileContainerRemoved⟩,
      ⟨findContainer (cleanupName probed.name), [], probed.fileContainerRemaining⟩]
  else []

/-- The probe exited with zero and printed its marker as a line, its container is gone,
and for a log probe its file and the container of the removal too. -/
def Passes : Prop :=
  Exits (probed.role.marker ∈ Text.splitlines ·) probed.started ∧
  Exits (Text.strip · = "") probed.remaining ∧
  (probed.role = .logs → Exits (fun _ => True) probed.fileRemoved ∧
    Exits (Text.strip · = "") probed.fileContainerRemaining)

end Probed

/-- The check of a result that was returned. -/
theorem ofEnd_exits_iff (test : String → Prop) {timeout : ℕ} {ended : ProcessEnd}
    {result : CompletedProcess} (returned : CompletedProcess.ofEnd timeout ended = .ok result) :
    result.returncode = 0 ∧ test result.stdout ↔ Exits test ended := by
  cases ended with
  | exited returncode stdout stderr =>
      cases returned
      constructor
      · rintro ⟨zero, passes⟩
        cases zero
        exact ⟨stdout, stderr, rfl, passes⟩
      · rintro ⟨_, _, ⟨⟩, passes⟩
        exact ⟨rfl, passes⟩
  | timedOut stdout stderr =>
      cases returned
      refine iff_of_false (fun both => by simpa using both.1) ?_
      rintro ⟨_, _, ⟨⟩, _⟩
  | raised error =>
      rw [CompletedProcess.ofEnd] at returned
      split at returned
      · cases returned
        refine iff_of_false (fun both => by simpa using both.1) ?_
        rintro ⟨_, _, ⟨⟩, _⟩
      · cases returned

/-- A check that passes. -/
def CapabilityCheck.Passes (check : CapabilityCheck) : Prop :=
  check.status ≠ .fail ∧ check.status ≠ .blocked

theorem capabilityStatus_eq_pass_iff {checks : List CapabilityCheck} :
    capabilityStatus checks = .pass ↔ ∀ check ∈ checks, check.Passes := by
  rw [capabilityStatus]
  constructor
  · intro passes check member
    split at passes
    · cases passes
    · split at passes
      · cases passes
      · rename_i unfailed unblocked
        simp only [List.any_eq_true, decide_eq_true_eq, not_exists, not_and] at unfailed unblocked
        exact ⟨unfailed check member, unblocked check member⟩
  · intro passes
    rw [if_neg, if_neg]
    · simpa using fun check member => (passes check member).2
    · simpa using fun check member => (passes check member).1

theorem issuing_cleanupProbe (name : String) :
    Issuing [removeContainer name, findContainer name] (fun check issued => ∃ removed remaining,
      issued = [⟨removeContainer name, [], removed⟩, ⟨findContainer name, [], remaining⟩] ∧
        (check.Passes ↔ Exits (Text.strip · = "") remaining)) (cleanupProbe name) := by
  refine ((issuing_execute _ _).bind fun first => (issuing_execute _ _).bind fun second =>
    Routine.block_pure _).mono ?_
  rintro _ _ ⟨first, _, _, rfl, ⟨removed, rfl, _⟩, second, _, _, rfl,
    ⟨remaining, rfl, returned⟩, rfl, rfl⟩
  refine ⟨removed, remaining, rfl, ?_⟩
  rw [← ofEnd_exits_iff _ returned, cleanupCheck]
  split
  case isTrue gone => exact iff_of_true (by simp [CapabilityCheck.Passes]) gone
  case isFalse there => exact iff_of_false (by simp [CapabilityCheck.Passes]) there

/-- A check passes if and only if its condition holds. -/
theorem passes_ite {condition : Prop} [Decidable condition] {name detail : String} :
    CapabilityCheck.Passes ⟨name, if condition then .pass else .fail, detail⟩ ↔ condition := by
  rw [CapabilityCheck.Passes]
  split
  case isTrue holds => exact iff_of_true (by simp) holds
  case isFalse fails => exact iff_of_false (by simp) fails

theorem issuing_cleanupLogFile (name : String) (path : Path) :
    Issuing ([removeFile name path] ++
      [removeContainer (cleanupName name), findContainer (cleanupName name)])
      (fun checks issued => ∃ file removed remaining,
        issued = [⟨removeFile name path, [], file⟩,
          ⟨removeContainer (cleanupName name), [], removed⟩,
          ⟨findContainer (cleanupName name), [], remaining⟩] ∧
        ((∀ check ∈ checks, check.Passes) ↔
          Exits (fun _ => True) file ∧ Exits (Text.strip · = "") remaining))
      (cleanupLogFile name path) := by
  have blocked := (issuing_execute (removeFile name path) 15).bind fun result =>
    (issuing_cleanupProbe (cleanupName name)).bind fun container =>
      Routine.block_pure [fileCheck name result, container]
  rw [List.append_nil] at blocked
  refine blocked.mono ?_
  rintro _ _ ⟨result, _, _, rfl, ⟨file, rfl, returned⟩, container, _, _, rfl,
    ⟨removed, remaining, rfl, gone⟩, rfl, rfl⟩
  refine ⟨file, removed, remaining, rfl, ?_⟩
  rw [List.forall_mem_cons, List.forall_mem_singleton, gone, fileCheck, passes_ite,
    ← ofEnd_exits_iff _ returned, and_true]

/-- The checks of a cleanup tell whether everything is gone. -/
theorem issuing_cleanup (service : String) (role : ProbeRole) (name : String) (path : Path) :
    Issuing (cleanupArgs role name path) (fun checks issued => ∀ started, ∃ probed : Probed,
      probed.planned = (service, role) ∧ probed.started = started ∧
        probed.commands = ⟨startProbe name path, [], started⟩ :: issued ∧
        ((∀ check ∈ checks, check.Passes) ↔ Exits (Text.strip · = "") probed.remaining ∧
          (role = .logs → Exits (fun _ => True) probed.fileRemoved ∧
            Exits (Text.strip · = "") probed.fileContainerRemaining)))
            (cleanup role name path) := by
  rw [cleanup, cleanupArgs]
  by_cases logs : role = .logs
  · simp only [if_pos logs]
    have blocked := (issuing_cleanupProbe name).bind fun container =>
      (issuing_cleanupLogFile name path).bind fun file => Routine.block_pure (container :: file)
    rw [List.append_nil] at blocked
    refine blocked.mono ?_
    rintro _ _ ⟨container, _, _, rfl, ⟨removed, remaining, rfl, gone⟩, checks, _, _, rfl,
      ⟨file, fileRemoved, fileRemaining, rfl, passes⟩, rfl, rfl⟩ started
    refine ⟨⟨service, role, name, path, started, removed, remaining, file, fileRemoved,
      fileRemaining⟩, rfl, rfl, ?_, ?_⟩
    · rw [Probed.commands, if_pos logs]
      rfl
    · rw [List.forall_mem_cons, gone, passes]
      exact and_congr_right fun _ => ⟨fun passes _ => passes, fun passes => passes logs⟩
  · simp only [if_neg logs]
    refine ((issuing_cleanupProbe name).bind fun container =>
      Routine.block_pure [container]).mono ?_
    rintro _ _ ⟨container, _, _, rfl, ⟨removed, remaining, rfl, gone⟩, rfl, rfl⟩ started
    refine ⟨⟨service, role, name, path, started, removed, remaining, removed, removed, removed⟩,
      rfl, rfl, ?_, ?_⟩
    · rw [Probed.commands, if_neg logs]
      rfl
    · rw [List.forall_mem_singleton, gone]
      exact ⟨fun passes => ⟨passes, fun same => absurd same logs⟩, And.left⟩

theorem issuing_setSignal (signal : Signal) (disposition : Disposition) :
    Issuing [] (fun _ issued => issued = []) (onHost (Host.setSignal signal disposition)) :=
  issuing_onHost (issues_call trivial)

theorem issuing_restoreHandlers (oldInt previousTerm : Disposition) :
    Issuing [] (fun _ issued => issued = []) (restoreHandlers oldInt previousTerm) := by
  refine ((issuing_setSignal _ _).bind fun _ => (issuing_setSignal _ _).bind fun _ =>
    Routine.block_pure ()).mono ?_
  rintro _ _ ⟨_, _, _, rfl, rfl, _, _, _, rfl, rfl, _, rfl⟩
  rfl

theorem issuing_protectedCleanup {block : List (List String)}
    {holds : List CapabilityCheck → List HostCommand → Prop} (previousTerm : Disposition)
    {role : ProbeRole} {name : String} {path : Path}
      (blocked : Issuing block holds (cleanup role name path)) :
    Issuing block holds (protectedCleanup previousTerm role name path) := by
  refine ((issuing_setSignal _ _).bind fun oldInt => (issuing_setSignal _ _).bind fun _ =>
    blocked.finally (issuing_restoreHandlers oldInt previousTerm)).mono ?_
  rintro _ _ ⟨_, _, _, rfl, rfl, _, _, _, rfl, rfl, holding⟩
  exact holding

/-- What is reported of a probe tells whether it passed. -/
theorem probeOutcome_passes_iff {service : String} {role : ProbeRole} {name marker : String}
    {timeout : ℕ} {ended : ProcessEnd} {found : CapabilityCheck}
    (reported : probeOutcome service role name marker (CompletedProcess.ofEnd timeout ended) =
      .ok found) :
    found.Passes ↔ Exits (marker ∈ Text.splitlines ·) ended := by
  cases returned : CompletedProcess.ofEnd timeout ended with
  | ok result =>
      rw [returned] at reported
      cases reported
      rw [probeCheck, passes_ite, ProbePassed]
      exact ofEnd_exits_iff (marker ∈ Text.splitlines ·) returned
  | error error =>
      rw [returned, probeOutcome] at reported
      split at reported
      · cases reported
        refine iff_of_false (by simp [CapabilityCheck.Passes, interruptedCheck]) ?_
        rintro ⟨_, _, rfl, _⟩
        cases returned
      · cases reported

theorem issuing_watchProbe (service : String) (role : ProbeRole) (name : String) (path : Path) :
    Issuing (probeArgs role name path) (fun checks issued => ∃ probed : Probed,
      probed.planned = (service, role) ∧ probed.commands = issued ∧
        ((∀ check ∈ checks, check.Passes) ↔ probed.Passes))
      (watchProbe service role name role.marker path) := by
  have blocked := (issuing_setSignal .term .interrupting).bind fun previous =>
    (issuing_attempt_execute (startProbe name path) (probeTimeout role)).bind fun ended =>
      (issuing_protectedCleanup previous (issuing_cleanup service role name path)).bind
        fun cleaned =>
          (Routine.block_ofExcept (probeOutcome service role name role.marker ended)).bind
          fun found => Routine.block_pure (found :: cleaned)
  rw [List.append_nil, List.append_nil] at blocked
  refine blocked.mono ?_
  rintro _ _ ⟨_, _, _, rfl, rfl, _, _, _, rfl, ⟨started, rfl, rfl⟩, cleaned, _, _, rfl, holding,
    found, _, _, rfl, ⟨reported, rfl⟩, rfl, rfl⟩
  rcases holding started with ⟨probed, planned, same, commands, passes⟩
  refine ⟨probed, planned, by simpa using commands, ?_⟩
  have role_eq : probed.role = role := congrArg Prod.snd planned
  rw [List.forall_mem_cons, probeOutcome_passes_iff reported, passes, Probed.Passes, same, role_eq]

theorem probeDocument_marker {settings : Fields} {role : ProbeRole} {service name : String}
    {volumeName document : Json} {marker : String}
    (built : probeDocument settings role service name volumeName = .ok (document, marker)) :
    marker = role.marker := by
  simp only [probeDocument, Except.bind_ok_iff] at built
  rcases built with ⟨⟨probe, shown⟩, served, ⟨⟩⟩
  cases role with
  | mongo => cases served; rfl
  | init | bootstrap | logs =>
      simp only [probeService, Except.bind_ok_iff] at served
      rcases served with ⟨_, -, ⟨⟩⟩
      rfl

/-- The body is run in some directory, which is removed however the body ends. -/
theorem notes_withTemporaryDirectory {α : Type} {block : Path → List (List String)}
    {holds : α → List HostCommand → Prop} {body : Path → PreflightM α}
    {allowed : List HostCommand → Prop} {earlier : List HostCommand}
    (blocked : ∀ directory, Issuing (block directory) holds (body directory))
    (permitted : ∀ directory (issued : List HostCommand),
      issued.map HostCommand.args <+: block directory → allowed (earlier ++ issued)) :
    Routine.Notes commandOf allowed (fun ended later => ∃ issued : List HostCommand,
      later = earlier ++ issued ∧
      match ended with
      | .ok value => holds value issued
      | .error _ => ∃ directory, issued.map HostCommand.args <+: block directory) earlier
      (withTemporaryDirectory body) := by
  have made : Issuing [] (fun _ issued => issued = []) makeTemporary :=
    Routine.block_silent fun _ => rfl
  refine Routine.notes_bind ((made allowed earlier fun issued none => ?_).mono ?_)
  · exact permitted ⟨false, []⟩ issued (none.trans List.nil_prefix)
  · rintro (error | directory) _ ⟨issued, rfl, ended⟩
    · exact ⟨issued, rfl, ⟨false, []⟩, ended.trans List.nil_prefix⟩
    · rw [ended.2, List.append_nil]
      refine ((blocked directory).finally (Routine.block_silent fun _ => rfl) allowed earlier
        (permitted directory)).mono ?_
      rintro (error | value) _ ⟨issued, rfl, ended⟩
      · exact ⟨issued, rfl, directory, ended⟩
      · exact ⟨issued, rfl, ended.2⟩

/-- A probe that is run to its end is started and cleaned up. -/
theorem notes_runProbe (service : String) (settings : Fields) (role : ProbeRole) (volumeName : Json)
    {allowed : List HostCommand → Prop} {earlier : List HostCommand}
    (permitted : ∀ name path (issued : List HostCommand),
      issued.map HostCommand.args <+: probeArgs role name path → allowed (earlier ++ issued)) :
    Routine.Notes commandOf allowed (fun ended later => ∃ issued : List HostCommand,
      later = earlier ++ issued ∧
      match ended with
      | .ok checks => ∃ probed : Probed, probed.planned = (service, role) ∧
          probed.commands = issued ∧
          ((∀ check ∈ checks, check.Passes) ↔ probed.Passes)
      | .error _ => ∃ name path, issued.map HostCommand.args <+: probeArgs role name path) earlier
      (runProbe service settings role volumeName) := by
  have nothing : allowed earlier := by
    simpa using permitted "" ⟨false, []⟩ [] List.nil_prefix
  have silent (reply : String) : commandOf ⟨.newName, reply⟩ = none := rfl
  refine Routine.notes_bind (Routine.notes_call (fun reply => ?_) fun hex => ?_)
  · rwa [silent reply, Option.toList_none, List.append_nil]
  rw [silent hex, Option.toList_none, List.append_nil]
  refine Routine.notes_bind (Routine.notes_ofExcept ?_)
  cases built :
    probeDocument settings role service ("open5gs-runtime-preflight-" ++ hex) volumeName with
  | error error => exact ⟨[], (List.append_nil _).symm, "", ⟨false, []⟩, List.nil_prefix⟩
  | ok document =>
      rcases document with ⟨document, marker⟩
      cases probeDocument_marker built
      have watched (directory : Path) :=
        (issuing_onHost (issues_writeText (directory / "compose.json")
        (doubleDollars (document.dumps .plain 0)))).bind fun _ => issuing_watchProbe service role
          ("open5gs-runtime-preflight-" ++ hex) (directory / "compose.json")
      refine (notes_withTemporaryDirectory watched fun directory issued begins =>
        permitted _ _ issued begins).mono ?_
      rintro (error | checks) _ ⟨issued, rfl, ended⟩
      · rcases ended with ⟨directory, begins⟩
        exact ⟨issued, rfl, _, _, begins⟩
      · rcases ended with ⟨_, _, after, rfl, rfl, probed, planned, rfl, passes⟩
        exact ⟨_, rfl, probed, planned, rfl, passes⟩

end FivegLab.RuntimePreflight
