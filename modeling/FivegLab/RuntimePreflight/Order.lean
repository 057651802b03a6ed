import FivegLab.RuntimePreflight.Probes

/-!
# The order of the preflight

The commands that a preflight issues, whatever they answer and wherever it stops:
nothing is created before what it needs has passed, the probes go by the plan, and
a probe is started only after those before it have passed and are gone.
-/

namespace FivegLab.RuntimePreflight

open Routine (attempt ofExcept raise Notes)

/-- The commands of the probes of a plan: those of probes that passed, and the first
of one more. -/
inductive ByPlan : List (String × ProbeRole) → List HostCommand → Prop
  | finished : ByPlan [] []
  | within {service : String} {role : ProbeRole} {plan : List (String × ProbeRole)}
      {issued : List HostCommand} (name : String) (path : Path)
      (begins : issued.map HostCommand.args <+: probeArgs role name path) :
      ByPlan ((service, role) :: plan) issued
  | passed {plan : List (String × ProbeRole)} {issued : List HostCommand} (probed : Probed)
      (passes : probed.Passes) (rest : ByPlan plan issued) :
      ByPlan (probed.planned :: plan) (probed.commands ++ issued)

theorem byPlan_nil (plan : List (String × ProbeRole)) : ByPlan plan [] := by
  rcases plan with _ | ⟨⟨service, role⟩, plan⟩
  · exact .finished
  · exact .within "" ⟨false, []⟩ List.nil_prefix

/-- The probes of a plan that were run to their ends: all but the last passed. -/
structure Done (plan : List (String × ProbeRole)) (done : List Probed) : Prop where
  planned : done.map Probed.planned <+: plan
  passed : ∀ probed ∈ done.dropLast, probed.Passes

/-- All probes of the plan have passed. -/
def AllPassed (plan : List (String × ProbeRole)) (done : List Probed) : Prop :=
  done.map Probed.planned = plan ∧ ∀ probed ∈ done, probed.Passes

theorem runProbes_of_not_pass {services volumeName : Json} {checks : List CapabilityCheck}
    (fails : ¬ ∀ check ∈ checks, check.Passes) (plan : List (String × ProbeRole)) :
    runProbes services volumeName plan checks = pure checks := by
  rcases plan with _ | ⟨⟨service, role⟩, plan⟩
  · rfl
  · rw [runProbes, if_pos]
    rwa [Ne, capabilityStatus_eq_pass_iff]

theorem notes_runProbes (services volumeName : Json) (plan : List (String × ProbeRole))
    {checks : List CapabilityCheck} {allowed : List HostCommand → Prop} {earlier : List HostCommand}
    (sound : ∀ check ∈ checks, check.Passes)
    (permitted : ∀ issued, ByPlan plan issued → allowed (earlier ++ issued)) :
    Notes commandOf allowed (fun ended later => ∃ issued, later = earlier ++ issued ∧
      match ended with
      | .ok checks => ∃ done, issued = done.flatMap Probed.commands ∧ Done plan done ∧
          ((∀ check ∈ checks, check.Passes) ↔ AllPassed plan done)
      | .error _ => ByPlan plan issued) earlier (runProbes services volumeName plan checks) := by
  induction plan generalizing checks earlier with
  | nil =>
      refine Routine.notes_pure ⟨[], (List.append_nil _).symm, [], rfl, ⟨List.nil_prefix, ?_⟩, ?_⟩
      · simp
      · exact iff_of_true sound ⟨rfl, by simp⟩
  | cons next plan ih =>
      rcases next with ⟨service, role⟩
      rw [runProbes, if_neg (not_not.mpr (capabilityStatus_eq_pass_iff.mpr sound))]
      refine Routine.notes_bind (Routine.notes_ofExcept ?_)
      cases serviceSettings services service with
      | error error => exact ⟨[], (List.append_nil _).symm, byPlan_nil _⟩
      | ok settings =>
          refine Routine.notes_bind ((notes_runProbe service settings role volumeName
            fun name path issued begins => permitted issued (.within name path begins)).mono ?_)
          rintro (error | found) _ ⟨issued, rfl, ended⟩
          · rcases ended with ⟨name, path, begins⟩
            exact ⟨issued, rfl, .within name path begins⟩
          rcases ended with ⟨probed, planned, rfl, passes⟩
          by_cases good : probed.Passes
          · have sound' : ∀ check ∈ checks ++ found, check.Passes := by
              rw [List.forall_mem_append]
              exact ⟨sound, passes.mpr good⟩
            refine (ih sound' fun issued rest => ?_).mono ?_
            · rw [List.append_assoc]
              exact permitted _ (planned ▸ .passed probed good rest)
            · rintro (error | result) _ ⟨issued, rfl, ended⟩
              · refine ⟨_, List.append_assoc _ _ _, ?_⟩
                exact planned ▸ .passed probed good ended
              · rcases ended with ⟨done, rfl, ⟨begins, passed⟩, all⟩
                refine ⟨_, List.append_assoc _ _ _, probed :: done, rfl, ⟨?_, ?_⟩, ?_⟩
                · rw [List.map_cons, planned]
                  exact List.prefix_cons_inj _ |>.mpr begins
                · rcases done with _ | ⟨second, done⟩
                  · simp
                  · rw [List.dropLast_cons_of_ne_nil (List.cons_ne_nil _ _), List.forall_mem_cons]
                    exact ⟨good, passed⟩
                · rw [all, AllPassed, AllPassed, List.map_cons, planned, List.forall_mem_cons,
                    List.cons.injEq]
                  exact ⟨fun ⟨whole, each⟩ => ⟨⟨rfl, whole⟩, good, each⟩,
                    fun ⟨⟨_, whole⟩, _, each⟩ => ⟨whole, each⟩⟩
          · have unsound : ¬ ∀ check ∈ checks ++ found, check.Passes := by
              rw [List.forall_mem_append, passes]
              exact fun both => good both.2
            change Notes _ _ _ _ (runProbes services volumeName plan (checks ++ found))
            rw [runProbes_of_not_pass unsound]
            refine Routine.notes_pure ⟨probed.commands, rfl, [probed], by simp, ⟨?_, by simp⟩, ?_⟩
            · rw [List.map_singleton, planned]
              exact List.prefix_append [_] plan
            · exact iff_of_false unsound fun all => good (all.2 probed List.mem_cons_self)

/-- The command changes nothing on the host. -/
def ReadsOnly (args : List String) : Prop :=
  args = dockerInfo ∨ args = composeVersion ∨ args = composeConfig ∨
  ∃ image, args = inspectImage image

/-- Commands that change nothing. -/
def Reading (issued : List HostCommand) : Prop := ∀ command ∈ issued, ReadsOnly command.args

theorem Reading.snoc {issued : List HostCommand} (reading : Reading issued) (command : HostCommand)
    (reads : ReadsOnly command.args) : Reading (issued ++ [command]) := by
  rw [Reading, List.forall_mem_append, List.forall_mem_singleton]
  exact ⟨reading, reads⟩

section

variable {α : Type} {allowed : List HostCommand → Prop} {earlier : List HostCommand}

theorem notes_execute {args : List String} {timeout : ℕ}
    {post : Except Raised CompletedProcess → List HostCommand → Prop}
    (permitted : ∀ ended, allowed (earlier ++ [⟨args, [], ended⟩]))
    (holds : ∀ ended, post (CompletedProcess.ofEnd timeout ended)
      (earlier ++ [⟨args, [], ended⟩])) :
    Notes commandOf allowed post earlier (execute args timeout) := by
  rw [execute_eq]
  exact Routine.notes_bind (Routine.notes_call permitted fun ended =>
    Routine.notes_ofExcept (holds ended))

/-- A routine that issues no command. -/
theorem notes_silent {routine : PreflightM α} {holds : α → List HostCommand → Prop}
    {post : Except Raised α → List HostCommand → Prop} (silent : Issuing [] holds routine)
    (permitted : allowed earlier) (raises : ∀ error, post (.error error) earlier)
    (returns : ∀ value, holds value [] → post (.ok value) earlier) :
    Notes commandOf allowed post earlier routine := by
  refine (silent allowed earlier fun issued none => ?_).mono ?_
  · rw [List.prefix_nil, List.map_eq_nil_iff] at none
    rwa [none, List.append_nil]
  · rintro (error | value) _ ⟨issued, rfl, ended⟩
    · rw [List.prefix_nil, List.map_eq_nil_iff] at ended
      rw [ended, List.append_nil]
      exact raises error
    · rcases ended with ⟨none, holding⟩
      rw [List.map_eq_nil_iff] at none
      subst none
      rw [List.append_nil]
      exact returns value holding

end

/-- The tools answer that they run on Linux, or the preflight is blocked. -/
theorem notes_runtimeTools {allowed : List HostCommand → Prop}
    (permitted : ∀ issued, Reading issued → allowed issued) :
    Notes commandOf allowed (fun ended later => Reading later ∧ ∀ check, ended = .ok check →
      check.status = .blocked ∨ check.status = .pass ∧ ∃ daemon version,
        later = [⟨dockerInfo, [], daemon⟩, ⟨composeVersion, [], version⟩] ∧
        Exits (fun stdout => daemonPlatform stdout = check.detail ∧
          Text.StartsWith check.detail "linux/") daemon ∧ Exits (fun _ => True) version)
      [] runtimeTools := by
  have start : Reading [] := List.forall_mem_nil _
  have daemonReads (ended : ProcessEnd) : Reading [⟨dockerInfo, [], ended⟩] :=
    start.snoc _ (.inl rfl)
  refine Routine.notes_bind (notes_silent (issuing_onHost (issues_call trivial))
    (permitted _ start) (fun error => ⟨start, by simp⟩) fun system _ => ?_)
  change Notes _ _ _ _ (ite _ _ _)
  split
  · exact Routine.notes_pure ⟨start, fun check same => .inl (by cases same; rfl)⟩
  refine Routine.notes_bind (notes_execute (fun ended => permitted _ (daemonReads ended))
    fun daemonEnd => ?_)
  cases answered : CompletedProcess.ofEnd 15 daemonEnd with
  | error error => exact ⟨daemonReads _, by simp⟩
  | ok daemon =>
      change Notes _ _ _ _ (ite _ _ _)
      split
      case isFalse =>
        exact Routine.notes_pure ⟨daemonReads _, fun check same => .inl (by cases same; rfl)⟩
      case isTrue good =>
        have versionReads (ended : ProcessEnd) := (daemonReads daemonEnd).snoc
          ⟨composeVersion, [], ended⟩ (.inr (.inl rfl))
        refine Routine.notes_bind (notes_execute (fun ended => permitted _ (versionReads ended))
          fun versionEnd => ?_)
        cases versioned : CompletedProcess.ofEnd 15 versionEnd with
        | error error => exact ⟨versionReads _, by simp⟩
        | ok version =>
            change Notes _ _ _ _ (ite _ _ _)
            split
            case isTrue =>
              exact Routine.notes_pure ⟨versionReads _, fun check same => .inl (by cases same; rfl)⟩
            case isFalse zero =>
              refine Routine.notes_pure ⟨versionReads _, fun check same => ?_⟩
              cases same
              refine .inr ⟨rfl, daemonEnd, versionEnd, rfl, ?_, ?_⟩
              · exact (ofEnd_exits_iff
                  (fun stdout => daemonPlatform stdout = daemonPlatform daemon.stdout ∧
                  Text.StartsWith (daemonPlatform daemon.stdout) "linux/") answered).mp
                    ⟨good.1, rfl, good.2⟩
              · exact (ofEnd_exits_iff (fun _ => True) versioned).mp ⟨not_not.mp zero, trivial⟩

/-- An image that was inspected. -/
structure Inspected where
  image : String
  ended : ProcessEnd

def Inspected.command (inspected : Inspected) : HostCommand :=
  ⟨inspectImage inspected.image, [], inspected.ended⟩

/-- The image is there, for the platform. -/
def Inspected.Native (platform : String) (inspected : Inspected) : Prop :=
  Exits (fun stdout => Text.StartsWith (Text.strip stdout) (platform ++ " ")) inspected.ended

variable [Library]

omit [Library] in
theorem imageCheck_passes_iff {platform name image : String} {timeout : ℕ} {ended : ProcessEnd}
    {result : CompletedProcess} (returned : CompletedProcess.ofEnd timeout ended = .ok result) :
    (imageCheck platform name image result).Passes ↔ Inspected.Native platform ⟨image, ended⟩ := by
  rw [Inspected.Native, ← ofEnd_exits_iff _ returned, imageCheck]
  split
  case isTrue native => exact iff_of_true (by simp [CapabilityCheck.Passes]) native
  case isFalse foreign => exact iff_of_false (by simp [CapabilityCheck.Passes]) foreign

theorem notes_inspectImages (platform : String) (services : Json) (names : List String)
    {allowed : List HostCommand → Prop} {earlier : List HostCommand} (reading : Reading earlier)
    (permitted : ∀ issued, Reading issued → allowed issued) :
    Notes commandOf allowed (fun ended later => Reading later ∧ ∀ checks, ended = .ok checks →
      ∃ images : List Inspected, later = earlier ++ images.map Inspected.command ∧
        names.mapM (serviceImage services) = .ok (images.map Inspected.image) ∧
        ((∀ check ∈ checks, check.Passes) ↔ ∀ image ∈ images, image.Native platform))
      earlier (inspectImages platform services names) := by
  induction names generalizing earlier with
  | nil =>
      refine Routine.notes_pure ⟨reading, ?_⟩
      rintro _ ⟨⟩
      exact ⟨[], (List.append_nil _).symm, rfl, by simp⟩
  | cons name names ih =>
      refine Routine.notes_bind (Routine.notes_ofExcept ?_)
      cases named : serviceImage services name with
      | error error => exact ⟨reading, by simp⟩
      | ok image =>
          have reads (ended : ProcessEnd) := reading.snoc
            ⟨inspectImage image, [], ended⟩ (.inr (.inr (.inr ⟨image, rfl⟩)))
          refine Routine.notes_bind (notes_execute (fun ended => permitted _ (reads ended))
            fun ended => ?_)
          cases returned : CompletedProcess.ofEnd 15 ended with
          | error error => exact ⟨reads _, by simp⟩
          | ok result =>
              refine Routine.notes_bind ((ih (reads ended)).mono ?_)
              rintro (error | checks) later ⟨readings, rest⟩
              · exact ⟨readings, by simp⟩
              · rcases rest checks rfl with ⟨images, rfl, mapped, passes⟩
                refine Routine.notes_pure ⟨readings, ?_⟩
                rintro _ ⟨⟩
                refine ⟨⟨image, ended⟩ :: images, ?_, ?_, ?_⟩
                · rw [List.append_assoc]
                  rfl
                · rw [List.mapM_cons, named, mapped]
                  rfl
                · rw [List.forall_mem_cons, List.forall_mem_cons, passes,
                    imageCheck_passes_iff returned]

/-- The arguments with which the log volume is created. -/
def CreatesVolume (compose : Json) (args : List String) : Prop :=
  ∃ volumeName project, logVolumeName compose = .ok volumeName ∧
  compose.index "name" = .ok project ∧
    commandArguments (createVolume (project.toYaml Library.floatValue).printed volumeName) =
    .ok args

theorem issuing_loadYaml (path : Path) : Issuing [] (fun _ _ => True) (loadYaml path) := by
  refine ((issuing_onHost (issues_readText path)).bind fun text =>
    (Routine.block_ofExcept (Library.safeLoad text)).bind
      (?_ : ∀ value, Issuing [] (fun _ _ => True) _)).mono fun _ _ _ => trivial
  intro value allowed earlier _
  cases value with
  | mapping entries => exact Routine.notes_pure ⟨[], (List.append_nil _).symm, rfl, trivial⟩
  | _ => exact Routine.notes_raise ⟨[], (List.append_nil _).symm, List.nil_prefix⟩

/-- No check of the contract fails. -/
def MeetsContract (contract : List Check) : Prop := ∀ check ∈ contract, check.status ≠ .fail

omit [Library] in
theorem contractFailures_eq_nil_iff {contract : List Check} :
    contractFailures contract = [] ↔ MeetsContract contract := by
  simp [contractFailures, MeetsContract]

omit [Library] in
theorem contractFailures_fail {contract : List Check} (failing : contractFailures contract ≠ []) :
    ¬ ∀ check ∈ contractFailures contract, check.Passes := by
  intro all
  rcases List.exists_mem_of_ne_nil _ failing with ⟨failure, member⟩
  have passes := all failure member
  rw [contractFailures, List.mem_map] at member
  rcases member with ⟨check, -, rfl⟩
  exact passes.1 rfl

/-- What is resolved from the document. -/
def ResolvedFrom (stdout : String) (resolved : Resolved) : Prop :=
  JsonLibrary.loads stdout = .ok resolved.compose ∧
  resolved.compose.index "services" = .ok resolved.services ∧
  ∃ entries checks upf, composeEntries resolved.compose = .ok entries ∧
    Config.validateContainerRuntimeContract entries = .ok checks ∧
    resolved.contract = checks ++ Config.validateUpfAddressAlignment entries upf

theorem issuing_resolveCompose (repoRoot : Path) (stdout : String) :
    Issuing [] (fun resolved _ => ResolvedFrom stdout resolved)
      (resolveCompose repoRoot stdout) := by
  refine ((Routine.block_ofExcept (JsonLibrary.loads stdout)).bind fun compose =>
    (Routine.block_ofExcept (composeEntries compose)).bind fun entries =>
      (Routine.block_ofExcept (Config.validateContainerRuntimeContract entries)).bind
        fun contract =>
        (issuing_loadYaml (repoRoot / "configs/open5gs/upf.yaml")).bind fun upf =>
          (Routine.block_ofExcept (compose.index "services")).bind fun services =>
            Routine.block_pure _).mono ?_
  rintro _ _ ⟨compose, _, _, -, ⟨loaded, -⟩, entries, _, _, -, ⟨mapped, -⟩, checks, _, _, -,
    ⟨validated, -⟩, upf, _, _, -, -, services, _, _, -, ⟨served, -⟩, rfl, -⟩
  exact ⟨loaded, served, entries, checks, upf, mapped, validated, rfl⟩

/-- What a preflight found before its probes, and the commands that told it. -/
structure Preparation where
  platform : String
  resolved : Resolved
  daemon : ProcessEnd
  version : ProcessEnd
  config : ProcessEnd
  images : List Inspected
  createArgs : List String
  created : ProcessEnd

namespace Preparation

/-- The commands before the log volume is created. -/
def inspections (preparation : Preparation) : List HostCommand :=
  [⟨dockerInfo, [], preparation.daemon⟩, ⟨composeVersion, [], preparation.version⟩,
    ⟨composeConfig, [], preparation.config⟩] ++ preparation.images.map Inspected.command

def commands (preparation : Preparation) : List HostCommand :=
  preparation.inspections ++ [⟨preparation.createArgs, [], preparation.created⟩]

/-- Everything that the log volume and the probes need: Docker runs on Linux, the
configuration meets its contract, and the images of all probes are there. -/
structure Ready (mongodb : Bool) (preparation : Preparation) : Prop where
  daemon : Exits (fun stdout => daemonPlatform stdout = preparation.platform ∧
    Text.StartsWith preparation.platform "linux/") preparation.daemon
  version : Exits (fun _ => True) preparation.version
  config : Exits (fun stdout => ResolvedFrom stdout preparation.resolved) preparation.config
  contract : MeetsContract preparation.resolved.contract
  named : (requiredImages mongodb).mapM (serviceImage preparation.resolved.services) =
    .ok (preparation.images.map Inspected.image)
  native : ∀ image ∈ preparation.images, image.Native preparation.platform
  create : CreatesVolume preparation.resolved.compose preparation.createArgs

/-- The log volume has been created. -/
def Created (preparation : Preparation) : Prop := Exits (fun _ => True) preparation.created

end Preparation

/-- The commands of a preflight so far: none that changes anything, or those of a preparation
that found everything, and behind them probes by the plan. -/
def Permitted (mongodb : Bool) (issued : List HostCommand) : Prop :=
  Reading issued ∨ ∃ preparation : Preparation, preparation.Ready mongodb ∧ ∃ behind,
    issued = preparation.commands ++ behind ∧ ByPlan (probePlan mongodb) behind ∧
      (behind ≠ [] → preparation.Created)

/-- The commands of a preflight that returned, and whether its checks passed. -/
def Completed (mongodb : Bool) (issued : List HostCommand) (passes : Prop) : Prop :=
  (Reading issued ∧ ¬ passes) ∨ ∃ preparation : Preparation, preparation.Ready mongodb ∧
    ∃ done, issued = preparation.commands ++ done.flatMap Probed.commands ∧
      Done (probePlan mongodb) done ∧ (done ≠ [] → preparation.Created) ∧
      (passes ↔ preparation.Created ∧ AllPassed (probePlan mongodb) done)

/-- The commands by which the tools and the configuration were found. -/
def Found (platform : String) (resolved : Resolved) (issued : List HostCommand) : Prop :=
  ∃ daemon version config,
    issued = [⟨dockerInfo, [], daemon⟩, ⟨composeVersion, [], version⟩,
      ⟨composeConfig, [], config⟩] ∧
    Exits (fun stdout => daemonPlatform stdout = platform ∧ Text.StartsWith platform "linux/")
      daemon ∧
    Exits (fun _ => True) version ∧ Exits (fun stdout => ResolvedFrom stdout resolved) config

theorem notes_checkRuntime {mongodb : Bool} {environment : CapabilityCheck} {resolved : Resolved}
    {allowed : List HostCommand → Prop} {earlier : List HostCommand}
    (found : Found environment.detail resolved earlier)
    (meets : MeetsContract resolved.contract)
    (permitted : ∀ issued, Permitted mongodb issued → allowed issued) :
    Notes commandOf allowed (fun ended later => ∀ checks, ended = .ok checks →
      Completed mongodb later (∀ check ∈ checks, check.Passes)) earlier
      (checkRuntime environment resolved mongodb) := by
  rcases found with ⟨daemon, version, config, rfl, linux, versioned, configured⟩
  have reading : Reading [⟨dockerInfo, [], daemon⟩, ⟨composeVersion, [], version⟩,
      ⟨composeConfig, [], config⟩] := by
    rw [Reading, List.forall_mem_cons, List.forall_mem_cons, List.forall_mem_singleton]
    exact ⟨.inl rfl, .inr (.inl rfl), .inr (.inr (.inl rfl))⟩
  refine Routine.notes_bind ((notes_inspectImages environment.detail resolved.services
    (requiredImages mongodb) reading fun issued reads => permitted issued (.inl reads)).mono ?_)
  rintro (error | images) later ⟨readings, rest⟩
  · simp
  rcases rest images rfl with ⟨inspected, rfl, named, passes⟩
  change Notes _ _ _ _ (ite _ _ _)
  split
  case isTrue foreign =>
    refine Routine.notes_pure ?_
    rintro _ ⟨⟩
    exact .inl ⟨readings, fun all => foreign (capabilityStatus_eq_pass_iff.mpr all)⟩
  case isFalse good =>
    have good := capabilityStatus_eq_pass_iff.mp (not_not.mp good)
    refine Routine.notes_bind (Routine.notes_bind (Routine.notes_ofExcept ?_))
    cases volumed : logVolumeName resolved.compose with
    | error error => simp
    | ok volumeName =>
    refine Routine.notes_bind (Routine.notes_ofExcept ?_)
    cases projected : resolved.compose.index "name" with
    | error error => simp
    | ok project =>
    refine Routine.notes_bind (Routine.notes_ofExcept ?_)
    cases argued :
      commandArguments (createVolume (project.toYaml Library.floatValue).printed volumeName) with
    | error error => simp
    | ok args =>
    let preparation (created : ProcessEnd) : Preparation :=
      ⟨environment.detail, resolved, daemon, version, config, inspected, args, created⟩
    have ready (created : ProcessEnd) : (preparation created).Ready mongodb :=
      ⟨linux, versioned, configured, meets, named, passes.mp (List.forall_mem_cons.mp good).2,
        volumeName, project, volumed,
        projected, argued⟩
    refine Routine.notes_bind (notes_execute (fun created => permitted _ ?_) fun created => ?_)
    · exact .inr ⟨preparation created, ready created, [], (List.append_nil _).symm, byPlan_nil _,
        fun nonempty => absurd rfl nonempty⟩
    cases returned : CompletedProcess.ofEnd 15 created with
    | error error => simp
    | ok prepared =>
    have created_iff : (volumeCheck volumeName prepared).Passes ↔
        (preparation created).Created := by
      rw [volumeCheck, passes_ite, Preparation.Created, ← ofEnd_exits_iff _ returned, and_true]
    refine Routine.notes_pure ?_
    have all_iff :
        (∀ check ∈ environment :: images ++ [volumeCheck volumeName prepared], check.Passes) ↔
        (preparation created).Created := by
      rw [List.forall_mem_append, List.forall_mem_singleton, created_iff]
      exact and_iff_right good
    by_cases made : (preparation created).Created
    · refine (notes_runProbes resolved.services volumeName (probePlan mongodb) (all_iff.mpr made)
        fun issued byPlan => permitted _ ?_).mono ?_
      · exact .inr ⟨preparation created, ready created, issued, rfl, byPlan, fun _ => made⟩
      · rintro (error | result) _ ⟨issued, rfl, ended⟩
        · simp
        · rcases ended with ⟨done, rfl, isDone, all⟩
          rintro _ ⟨⟩
          exact .inr ⟨preparation created, ready created, done, rfl, isDone, fun _ => made,
            all.trans (and_iff_right made).symm⟩
    · change Notes _ _ _ _ (runProbes _ _ _ (environment :: images ++ [_]))
      rw [runProbes_of_not_pass fun all => made (all_iff.mp all)]
      refine Routine.notes_pure ?_
      rintro _ ⟨⟩
      refine .inr ⟨preparation created, ready created, [], (List.append_nil _).symm,
        ⟨List.nil_prefix, List.forall_mem_nil _⟩, fun nonempty => absurd rfl nonempty, ?_⟩
      exact iff_of_false (fun all => made (all_iff.mp all)) fun all => made all.1

theorem notes_runRuntimePreflight {mongodb : Bool} {allowed : List HostCommand → Prop}
    (repoRoot : Path) (permitted : ∀ issued, Permitted mongodb issued → allowed issued) :
    Notes commandOf allowed (fun ended later => ∀ checks, ended = .ok checks →
      Completed mongodb later (∀ check ∈ checks, check.Passes)) []
      (runRuntimePreflight repoRoot mongodb) := by
  have fails {check : CapabilityCheck} {checks : List CapabilityCheck} {issued : List HostCommand}
      (reading : Reading issued) (bad : ¬ check.Passes) :
      Completed mongodb issued (∀ other ∈ check :: checks, other.Passes) :=
    .inl ⟨reading, fun all => bad (all check List.mem_cons_self)⟩
  refine Routine.notes_bind
    ((notes_runtimeTools fun issued reading => permitted _ (.inl reading)).mono ?_)
  rintro (error | environment) later ⟨reading, told⟩
  · simp
  change Notes _ _ _ _ (ite _ _ _)
  split
  case isTrue stopped =>
    refine Routine.notes_pure ?_
    rintro _ ⟨⟩
    refine fails reading fun good => ?_
    rcases told environment rfl with blocked | ⟨passes, _⟩
    · exact good.2 blocked
    · exact stopped passes
  case isFalse passes =>
  have passes := not_not.mp passes
  obtain ⟨daemon, version, rfl, linux, versioned⟩ : ∃ daemon version, _ := by
    rcases told environment rfl with blocked | ⟨_, found⟩
    · rw [passes] at blocked
      cases blocked
    · exact found
  have reads (config : ProcessEnd) := reading.snoc
    ⟨composeConfig, [], config⟩ (.inr (.inr (.inl rfl)))
  refine Routine.notes_bind (notes_execute (fun config => permitted _ (.inl (reads config)))
    fun config => ?_)
  cases returned : CompletedProcess.ofEnd 15 config with
  | error error => simp
  | ok configured =>
  change Notes _ _ _ _ (ite _ _ _)
  split
  case isTrue =>
    refine Routine.notes_pure ?_
    rintro _ ⟨⟩
    exact fails (reads config) (by simp [CapabilityCheck.Passes])
  case isFalse zero =>
  refine Routine.notes_bind (Routine.notes_attempt (notes_silent
    (issuing_resolveCompose repoRoot configured.stdout) (permitted _ (.inl (reads config))) ?_ ?_))
  · intro error
    change Notes _ _ _ _ (ite _ _ _)
    split
    · refine Routine.notes_pure ?_
      rintro _ ⟨⟩
      exact fails (reads config) (by simp [CapabilityCheck.Passes])
    · exact Routine.notes_raise (by simp)
  · intro resolved from_
    change Notes _ _ _ _ (ite _ _ _)
    split
    case isTrue failing =>
      refine Routine.notes_pure ?_
      rintro _ ⟨⟩
      exact .inl ⟨reads config, contractFailures_fail failing⟩
    case isFalse sound =>
      refine notes_checkRuntime ⟨daemon, version, config, rfl, linux, versioned, ?_⟩ ?_ permitted
      · exact (ofEnd_exits_iff (fun stdout => ResolvedFrom stdout resolved) returned).mp
          ⟨not_not.mp zero, from_⟩
      · exact contractFailures_eq_nil_iff.mp (not_not.mp sound)

section

omit [Library]

/-- A network function of the resolved configuration. -/
def labProbed (name : String) : String × Json :=
  (name, .object [("image", .string "open5gs:2.8.0"), ("user", .string "999:999"),
    ("depends_on", .object [("log-init",
      .object [("condition", .string "service_completed_successfully")])]),
    ("volumes", .strings ["open5gs-logs:/var/log/open5gs"])])

/-- The resolved configuration of a lab that meets the contract. -/
def labResolved : Json :=
  .object [("name", .string "lab"),
    ("volumes", .object [("open5gs-logs", .object [("name", .string "lab_open5gs-logs")])]),
    ("services", .object ([
      ("log-init", .object [("image", .string "open5gs:2.8.0"), ("user", .string "0:0"),
        ("network_mode", .string "none"), ("read_only", .bool true), ("cap_drop", .strings ["ALL"]),
        ("cap_add", .strings ["CHOWN", "FOWNER", "DAC_OVERRIDE"]),
        ("entrypoint", .strings ["/bin/sh", "/lab/prepare-runtime-logs.sh"]),
        ("volumes", .strings ["open5gs-logs:/var/log/open5gs",
          "./scripts/prepare_runtime_logs.sh:/lab/prepare-runtime-logs.sh:ro"])]),
      ("mongodb", .object [("environment", .strings ["GLIBC_TUNABLES=glibc.pthread.rseq=1"])]),
      ("upf", .object [("image", .string "open5gs:2.8.0"), ("user", .string "0:0"),
        ("depends_on", .object [("log-init",
          .object [("condition", .string "service_completed_successfully")])]),
        ("cap_add", .strings ["NET_ADMIN"]), ("devices", .strings ["/dev/net/tun:/dev/net/tun"]),
        ("entrypoint", .strings ["/bin/sh", "/lab/upf-entrypoint.sh"]),
        ("sysctls", .object [("net.ipv4.ip_forward", .int 1),
          ("net.ipv6.conf.all.disable_ipv6", .int 0),
            ("net.ipv6.conf.default.disable_ipv6", .int 0)]),
        ("environment", .object [("IPV4_TUN_ADDR", .string "10.45.1.1/24"),
          ("IPV4_TUN_SUBNET", .string "10.45.1.0/24"), ("IPV6_TUN_ADDR", .string "::1/64"),
          ("ENABLE_NAT", .string "true")]),
        ("volumes", .strings ["open5gs-logs:/var/log/open5gs",
          "./scripts/upf-entrypoint.sh:/lab/upf-entrypoint.sh:ro"])])] ++
      ["nrf", "ausf", "udm", "udr", "bsf", "pcf", "amf", "smf"].map labProbed))]

/-- The documents of the lab, read from any text. -/
abbrev labLibrary : Library where
  loads _ := .ok labResolved
  toUnicode := asciiTables
  safeLoad _ := .ok (.mapping [(.text "upf", .mapping [(.text "session", .list [.mapping [
    (.text "subnet", .text "10.45.1.0/24"), (.text "gateway", .text "10.45.1.1")]])])])
  floatValue _ := none

/-- What the commands of a host print on which everything is there. -/
def labPrints (args : List String) : String :=
  if args = dockerInfo then "linux/x86_64\n"
  else if args = composeConfig then labResolved.dumps .plain 0
  else if args.take 3 = ["docker", "image", "inspect"] then "linux/amd64 sha256:1f\n"
  else if args.take 2 = ["docker", "ps"] then "\n"
  else "LOG_DIRECTORY_READY\nRUNTIME_LOG_WRITE_PASS\nUPF_BOOTSTRAP_PASS\n"

/-- A host on which everything is there. -/
def labHost : Responder PreflightHost ℚ := fun clock op =>
  match op with
  | .host op => Host.calm (fun args => .exited 0 (labPrints args) "") "" [] clock op
  | .newName => ("2f", clock)
  | .makeTemporary => (.ok (.ofText "/tmp/5g-lab-runtime-preflight-1"), clock)
  | .removeTemporary _ => (.ok (), clock)

theorem labHost_returns :
    (@runRuntimePreflight labLibrary (.ofText "/lab") false).returns labHost () 0
    (fun checks => capabilityStatus checks = .pass) := by
  decide +kernel

end

/-- Wherever a preflight stops, its commands are permitted: before the probes nothing is
created until everything is ready, and a probe is started only behind probes that passed
and are gone. -/
theorem runRuntimePreflight_permitted {repoRoot : Path} {mongodb : Bool}
    {trace : List (Event PreflightHost)}
    (emits : (runRuntimePreflight repoRoot mongodb).Emits () trace) :
    Permitted mongodb (commands trace) :=
  (notes_runRuntimePreflight repoRoot fun _ permitted => permitted).of_emits
    (.inl (List.forall_mem_nil _)) emits

omit [Library] in
/-- The commands of the lab's preflight are permitted. -/
theorem labHost_permitted : @Permitted labLibrary false (commands
    ((@runRuntimePreflight labLibrary (.ofText "/lab") false ()).transcript labHost 0)) := by
  let := labLibrary
  rcases Routine.runs_of_returns labHost_returns with ⟨checks, _, runs, _⟩
  exact runRuntimePreflight_permitted runs.emits

section

omit [Library]

theorem Probed.length_commands {probed other : Probed} (roles : probed.role = other.role) :
    probed.commands.length = other.commands.length := by
  rw [Probed.commands, Probed.commands, roles]
  split <;> rfl

theorem Probed.passes_of_commands {probed other : Probed} (roles : probed.role = other.role)
    (same : probed.commands = other.commands) (passes : other.Passes) : probed.Passes := by
  rcases passes with ⟨started, remaining, file⟩
  by_cases logs : other.role = .logs
  · rw [Probed.commands, Probed.commands, if_pos logs, if_pos (roles.trans logs)] at same
    simp only [List.cons_append, List.nil_append, List.cons.injEq, HostCommand.mk.injEq] at same
    rcases same with
      ⟨⟨-, -, startedSame⟩, -, ⟨-, -, remainingSame⟩, ⟨-, -, fileSame⟩, -, ⟨-, -, containerSame⟩, -⟩
    rw [Probed.Passes, roles, startedSame, remainingSame, fileSame, containerSame]
    exact ⟨started, remaining, file⟩
  · rw [Probed.commands, Probed.commands, if_neg logs, if_neg (roles ▸ logs)] at same
    simp only [List.cons_append, List.nil_append, List.cons.injEq, HostCommand.mk.injEq] at same
    rcases same with ⟨⟨-, -, startedSame⟩, -, ⟨-, -, remainingSame⟩, -⟩
    rw [Probed.Passes, roles, startedSame, remainingSame]
    exact ⟨started, remaining, fun same => absurd same logs⟩

/-- The commands of the probes of a plan tell whether all of them passed. -/
theorem AllPassed.of_commands {plan : List (String × ProbeRole)} {done other : List Probed}
    (begins : done.map Probed.planned <+: plan) (all : AllPassed plan other)
    (same : done.flatMap Probed.commands = other.flatMap Probed.commands) :
    AllPassed plan done := by
  induction plan generalizing done other with
  | nil =>
      rw [List.prefix_nil, List.map_eq_nil_iff] at begins
      subst begins
      exact ⟨rfl, List.forall_mem_nil _⟩
  | cons next plan ih =>
      rcases all with ⟨planned, passed⟩
      rcases other with _ | ⟨last, other⟩
      · cases planned
      rw [List.map_cons, List.cons.injEq] at planned
      rcases planned with ⟨rfl, planned⟩
      rcases done with _ | ⟨probed, done⟩
      · simp [Probed.commands] at same
      rw [List.map_cons, List.cons_prefix_cons] at begins
      rcases begins with ⟨first, begins⟩
      have roles : probed.role = last.role := congrArg Prod.snd first
      rw [List.flatMap_cons, List.flatMap_cons] at same
      rcases List.append_inj same (Probed.length_commands roles) with ⟨firstSame, rest⟩
      rw [List.forall_mem_cons] at passed
      rcases ih begins ⟨planned, passed.2⟩ rest with ⟨whole, each⟩
      refine ⟨?_, List.forall_mem_cons.mpr ⟨?_, each⟩⟩
      · rw [List.map_cons, first, whole]
      · exact Probed.passes_of_commands roles firstSame passed.1

theorem length_of_mapM {α β : Type} {build : α → Except Raised β} {values : List α} {built : List β}
    (mapped : values.mapM build = .ok built) : built.length = values.length := by
  induction values generalizing built with
  | nil =>
      cases mapped
      rfl
  | cons value values ih =>
      simp only [List.mapM_cons, Except.bind_ok_iff] at mapped
      rcases mapped with ⟨_, -, rest, restMapped, ⟨⟩⟩
      rw [List.length_cons, List.length_cons, ih restMapped]

end

omit [Library] in
theorem createVolume_args {project : String} {volumeName : Json} {args : List String}
    (argued : commandArguments (createVolume project volumeName) = .ok args) :
    ∃ rest, args = "docker" :: "volume" :: rest := by
  simp only [createVolume, List.map_cons, List.map_nil, List.cons_append, List.nil_append,
    commandArguments, Except.bind_ok_iff] at argued
  rcases argued with ⟨_, ⟨rest, -, ⟨⟩⟩, ⟨⟩⟩
  exact ⟨rest, rfl⟩

theorem CreatesVolume.not_readsOnly {compose : Json} {args : List String}
    (creates : CreatesVolume compose args) : ¬ReadsOnly args := by
  rcases creates with ⟨volumeName, project, -, -, argued⟩
  rcases createVolume_args argued with ⟨rest, rfl⟩
  rintro (same | same | same | ⟨image, same⟩) <;>
    simp [dockerInfo, composeVersion, composeConfig, inspectImage] at same

namespace Preparation

variable {mongodb : Bool} {preparation other : Preparation} {behind behind' : List HostCommand}

theorem Ready.length_commands (ready : preparation.Ready mongodb) :
    preparation.inspections.length = (requiredImages mongodb).length + 3 := by
  rw [inspections, List.length_append, List.length_map, ← length_of_mapM ready.named,
    List.length_map, Nat.add_comm]
  rfl

/-- The commands of a preparation tell whether the volume was created. -/
theorem Ready.commands_inj (ready : preparation.Ready mongodb) (ready' : other.Ready mongodb)
    (same : preparation.commands ++ behind = other.commands ++ behind') :
    preparation.created = other.created ∧ behind = behind' := by
  simp only [commands, List.append_assoc] at same
  rcases List.append_inj same (ready.length_commands.trans ready'.length_commands.symm) with
    ⟨-, rest⟩
  simp only [List.cons_append, List.nil_append, List.cons.injEq, HostCommand.mk.injEq] at rest
  exact ⟨rest.1.2.2, rest.2⟩

end Preparation

/-- A preflight that returns has cleaned up behind every probe that it started, and its
checks pass if and only if its commands are those of a full preflight: everything was
ready, the volume was created, and every probe of the plan passed and is gone. -/
theorem runRuntimePreflight_pass_iff {repoRoot : Path} {mongodb : Bool}
    {trace : List (Event PreflightHost)} {checks : List CapabilityCheck}
    (runs : (runRuntimePreflight repoRoot mongodb).Runs () trace (.ok checks) ()) :
    (Reading (commands trace) ∨ ∃ preparation : Preparation, ∃ done, preparation.Ready mongodb ∧
      Done (probePlan mongodb) done ∧
      commands trace = preparation.commands ++ done.flatMap Probed.commands) ∧
    (capabilityStatus checks = .pass ↔ ∃ preparation : Preparation, ∃ done,
      preparation.Ready mongodb ∧ preparation.Created ∧ AllPassed (probePlan mongodb) done ∧
      commands trace = preparation.commands ++ done.flatMap Probed.commands) := by
  have notes :=
    notes_runRuntimePreflight repoRoot fun issued (permitted : Permitted mongodb issued) =>
    permitted
  have completed := notes.of_runs runs checks rfl
  rw [capabilityStatus_eq_pass_iff]
  rcases completed with ⟨reading, fails⟩ | ⟨preparation, ready, done, same, isDone, -, passes⟩
  · refine ⟨.inl reading, iff_of_false fails ?_⟩
    rintro ⟨preparation, done, ready, -, -, same⟩
    have created : (⟨preparation.createArgs, [], preparation.created⟩ : HostCommand) ∈
        RuntimePreflight.commands trace := by
      rw [same, Preparation.commands]
      simp
    exact ready.create.not_readsOnly (reading _ created)
  · refine ⟨.inr ⟨preparation, done, ready, isDone, same⟩, passes.trans ⟨?_, ?_⟩⟩
    · rintro ⟨made, all⟩
      exact ⟨preparation, done, ready, made, all, same⟩
    · rintro ⟨other, others, ready', made, all, same'⟩
      rcases ready.commands_inj ready' (same.symm.trans same') with ⟨created, rest⟩
      refine ⟨?_, all.of_commands isDone.planned rest⟩
      rw [Preparation.Created, created]
      exact made

omit [Library] in
/-- The lab's preflight is a full one. -/
theorem labHost_passes : ∃ (preparation : Preparation) (done : List Probed),
    @Preparation.Ready labLibrary false preparation ∧ preparation.Created ∧
      AllPassed (probePlan false) done ∧
      commands ((@runRuntimePreflight labLibrary (.ofText "/lab") false ()).transcript labHost 0) =
        preparation.commands ++ done.flatMap Probed.commands := by
  let := labLibrary
  rcases Routine.runs_of_returns labHost_returns with ⟨checks, _, runs, passes⟩
  exact (runRuntimePreflight_pass_iff runs).2.mp (of_decide_eq_true passes)

end FivegLab.RuntimePreflight
