import FivegLab.Orchestration.Canonical
import FivegLab.Orchestration.Unlocking

/-!
# The identity of a run

What a baseline result that the gate accepts tells of the run that stored it:
the commit, the configuration files, the Compose configuration and the Docker
engine are those of the accepting run, unless both runs failed to find out.
-/

namespace FivegLab

open Routine Host

theorem encode_injective {text text' : String} (same : encode text = encode text') :
    text = text' := by
  rw [← String.toByteArray_inj, ← String.utf8Encode_toList, ← String.utf8Encode_toList,
    List.utf8Encode, List.utf8Encode]
  exact congrArg List.toByteArray same

def commitProbe : List String := ["git", "rev-parse", "HEAD"]

/-- A probe has exited 0 and printed a text. -/
def Printed (args : List String) (trace : List (Event Host)) (text : String) : Prop :=
  ∃ result, (⟨.subprocess args 5, .ok result⟩ : Event Host) ∈ trace ∧ result.returncode = 0 ∧
    Text.strip result.stdout = text

/-- A configuration file that has been read. -/
structure ConfigFile where
  path : Path
  relative : Path
  bytes : Bytes

namespace ConfigFile

variable (file : ConfigFile)

def read : Event Host := ⟨.readBytes file.path, .ok file.bytes⟩

def digest : String × String := (file.relative.text, Sha256.hexdigest file.bytes)

end ConfigFile

theorem issued_reads (files : List ConfigFile) : issued (files.map ConfigFile.read) = [] := by
  induction files with
  | nil => rfl
  | cons file files ih =>
      rw [List.map_cons, issued_cons, ih]
      rfl

theorem configDigests_runs {repoRoot : Path} {paths : List Path} {before after : Unit}
    {trace : List (Event Host)} {digests : List (String × String)}
    (runs : (configDigests repoRoot paths).Runs before trace (.ok digests) after) :
    ∃ files : List ConfigFile, trace = files.map ConfigFile.read ∧
      digests = files.map ConfigFile.digest ∧
      ∀ file ∈ files, file.path.relativeTo repoRoot = .ok file.relative := by
  induction paths generalizing trace digests before with
  | nil =>
      rw [configDigests, runs_pure_iff] at runs
      rcases runs with ⟨trace_eq, digests_eq, _⟩
      rw [Except.ok.injEq] at digests_eq
      exact ⟨[], trace_eq, digests_eq, by simp⟩
  | cons path paths ih =>
      rw [configDigests, runs_bind_ok_iff] at runs
      rcases runs with ⟨_, relative, _, _, rfl, within, runs⟩
      rw [runs_ofExcept_iff] at within
      rw [runs_bind_ok_iff] at runs
      rcases runs with ⟨_, digest, _, _, rfl, digested, runs⟩
      rw [sha256File, runs_bind_ok_iff] at digested
      rcases digested with ⟨_, bytes, _, _, rfl, returned, hashed⟩
      rw [runs_readBytes_iff] at returned
      rw [runs_pure_iff, Except.ok.injEq] at hashed
      rw [runs_bind_ok_iff] at runs
      rcases runs with ⟨_, others, _, _, rfl, rest, ended⟩
      rw [runs_pure_iff, Except.ok.injEq] at ended
      rcases ih rest with ⟨files, reads, digests_eq, relatives⟩
      refine ⟨⟨path, relative, bytes⟩ :: files, ?_, ?_, ?_⟩
      · simp [within.1, returned, hashed.1, reads, ended.1, ConfigFile.read]
      · rw [ended.2.1, hashed.2.1, digests_eq]
        rfl
      · exact List.forall_mem_cons.mpr ⟨within.2.1.symm, relatives⟩

/-- The operations that resolve the Compose configuration. -/
def HostOp.ResolvesCompose : HostOp → Prop
  | .spawn args _ _ => args = resolveCompose
  | .getSignal _ => True
  | .setSignal _ _ => True
  | _ => False

section

variable [JsonLibrary]

theorem calls_effectiveComposeState : effectiveComposeState.Calls HostOp.ResolvesCompose := by
  refine calls_bind ?_ fun result => ?_
  · refine calls_bind (calls_call trivial) fun previousTerm => calls_bind ?_ fun _ =>
      calls_bind (calls_call rfl) fun _ => calls_bind (calls_call trivial) fun _ => calls_ofExcept _
    unfold interruptOnTerm
    split
    · exact calls_bind (calls_call trivial) fun _ => calls_pure _
    · exact calls_pure _
  · cases readCompose result with
    | ok effective => exact calls_pure _
    | error error =>
        dsimp only
        split
        · exact calls_pure _
        · exact calls_raise _

/-- What the resolved configuration is known by. -/
def ComposeKnown (ended : ProcessEnd) (state : ComposeState) : Prop :=
  state = .unavailable ∨ ∃ stdout stderr document images,
    ended = .exited 0 stdout stderr ∧ JsonLibrary.loads stdout = .ok document ∧
      composeState document = .ok (.available (contextFingerprint document) images) ∧
      state = .available (contextFingerprint document) images

omit [JsonLibrary] in
theorem composeState_ok {document : Json} {state : ComposeState}
    (resolved : composeState document = .ok state) :
    ∃ images, state = .available (contextFingerprint document) images := by
  rw [composeState, Except.bind_ok_iff] at resolved
  rcases resolved with ⟨services, _, resolved⟩
  cases services with
  | object services =>
      rcases Except.bind_ok_iff.mp resolved with ⟨images, _, same⟩
      cases same
      exact ⟨images, rfl⟩
  | _ => simp at resolved

theorem effectiveComposeState_runs {before after : Unit} {trace : List (Event Host)}
    {state : ComposeState} (runs : effectiveComposeState.Runs before trace (.ok state) after) :
    ∃ ended, issued trace = [⟨resolveCompose, [], ended⟩] ∧ ComposeKnown ended state := by
  rw [effectiveComposeState, runs_bind_ok_iff] at runs
  rcases runs with ⟨_, result, _, _, rfl, ran, runs⟩
  rcases runCommand_issued ran with ⟨ended, commands, outcome⟩
  have silent {rest : List (Event Host)} (none : rest = []) : issued rest = [] := by rw [none]; rfl
  cases read : readCompose result with
  | error error =>
      simp only [read] at runs
      split at runs
      · rw [runs_pure_iff, Except.ok.injEq] at runs
        exact ⟨ended, by simp [commands, silent runs.1], .inl runs.2.1⟩
      · simp at runs
  | ok effective =>
      simp only [read, runs_pure_iff, Except.ok.injEq] at runs
      refine ⟨ended, by simp [commands, silent runs.1], .inr ?_⟩
      rw [readCompose] at read
      split at read
      case isTrue => simp at read
      case isFalse zero =>
        rcases Except.bind_ok_iff.mp read with ⟨document, loaded, resolved⟩
        rcases composeState_ok resolved with ⟨images, rfl⟩
        exact ⟨_, _, document, images, ofEnd_succeeds outcome (by simpa using zero),
          loaded, resolved,
          runs.2.1⟩

/-- The answer of a probe, or what stands for a probe that failed. -/
def Probed (args : List String) (trace : List (Event Host)) (failed answer : String) : Prop :=
  Printed args trace answer ∨ (∀ text, ¬Printed args trace text) ∧ answer = failed

/-- What a context tells of the run that it was made in. -/
structure ManifestRun (repoRoot : Path) (trace : List (Event Host)) (context : RuntimeContext) :
    Prop where
  commit : Probed commitProbe trace "unknown" context.gitCommit
  engine : Probed engineVersion trace "unavailable" context.dockerEngine
  compose : ∃ ended, issued trace = [⟨resolveCompose, [], ended⟩] ∧
    ComposeKnown ended context.effectiveCompose
  files : ∃ files : List ConfigFile, context.configSha256 = files.map ConfigFile.digest ∧
    (∀ file ∈ files, file.path.relativeTo repoRoot = .ok file.relative) ∧
    ∀ path bytes, (⟨.readBytes path, .ok bytes⟩ : Event Host) ∈ trace ↔
      ∃ file ∈ files, file.path = path ∧ file.bytes = bytes

omit [JsonLibrary] in
theorem printed_singleton {args : List String} {reply : Except Raised CompletedProcess}
    {text : String} : Printed args [⟨.subprocess args 5, reply⟩] text ↔
      ∃ result, reply = .ok result ∧ result.returncode = 0 ∧ Text.strip result.stdout = text := by
  simp [Printed, eq_comm]

omit [JsonLibrary] in
theorem repositoryCommit_runs {before after : Unit} {trace : List (Event Host)} {commit : String}
    (runs : repositoryCommit.Runs before trace (.ok commit) after) :
    ∃ reply, trace = [⟨.subprocess commitProbe 5, reply⟩] ∧
      Probed commitProbe trace "unknown" commit := by
  rw [repositoryCommit, runs_bind_ok_iff] at runs
  rcases runs with ⟨_, result, _, _, rfl, asked, answered⟩
  rw [runs_subprocess_iff] at asked
  rw [runs_pure_iff, Except.ok.injEq] at answered
  rcases answered with ⟨rfl, rfl, _⟩
  rw [List.append_nil, asked]
  refine ⟨_, rfl, ?_⟩
  change Probed commitProbe [⟨.subprocess commitProbe 5, _⟩] _ _
  simp only [Probed, printed_singleton, Except.ok.injEq, exists_eq_left']
  split
  case isTrue zero => exact .inl ⟨zero, rfl⟩
  case isFalse failed => exact .inr ⟨fun _ printed => failed printed.1, rfl⟩

omit [JsonLibrary] in
theorem dockerEngineIdentity_runs {before after : Unit} {trace : List (Event Host)}
    {engine : String} (runs : dockerEngineIdentity.Runs before trace (.ok engine) after) :
    ∃ reply, trace = [⟨.subprocess engineVersion 5, reply⟩] ∧
      Probed engineVersion trace "unavailable" engine := by
  rw [dockerEngineIdentity, runs_bind_ok_iff] at runs
  rcases runs with ⟨_, attempted, _, _, rfl, asked, answered⟩
  rw [runs_attempt_iff] at asked
  rcases asked with ⟨_, same, asked⟩
  rw [Except.ok.injEq] at same
  subst same
  rw [runs_subprocess_iff] at asked
  cases attempted with
  | ok result =>
      simp only [runs_pure_iff, Except.ok.injEq] at answered
      rcases answered with ⟨rfl, rfl, _⟩
      rw [List.append_nil, asked]
      refine ⟨_, rfl, ?_⟩
      simp only [Probed, printed_singleton, Except.ok.injEq, exists_eq_left']
      split
      case isTrue zero => exact .inl ⟨zero, rfl⟩
      case isFalse failed => exact .inr ⟨fun _ printed => failed printed.1, rfl⟩
  | error error =>
      simp only at answered
      split at answered
      · rw [runs_pure_iff, Except.ok.injEq] at answered
        rcases answered with ⟨rfl, rfl, _⟩
        rw [List.append_nil, asked]
        exact ⟨_, rfl, .inr ⟨by simp [printed_singleton], rfl⟩⟩
      · simp at answered

omit [JsonLibrary] in
/-- A probe is not answered by what else happens. -/
theorem probed_of_mem {args : List String} {trace whole : List (Event Host)}
    {failed answer : String} (probed : Probed args trace failed answer)
    (same : ∀ reply, (⟨.subprocess args 5, reply⟩ : Event Host) ∈ whole ↔
      ⟨.subprocess args 5, reply⟩ ∈ trace) :
    Probed args whole failed answer := by
  simpa only [Probed, Printed, same] using probed

theorem runtimeContextManifest_runs {repoRoot : Path} {before after : Unit}
    {trace : List (Event Host)} {context : RuntimeContext}
    (runs : (runtimeContextManifest repoRoot).Runs before trace (.ok context) after) :
    ManifestRun repoRoot trace context := by
  simp only [runtimeContextManifest, configPaths, runs_bind_ok_iff, runs_glob_iff, runs_pure_iff,
    runs_fact_iff, Except.ok.injEq] at runs
  rcases runs with
    ⟨_, paths, _, _, rfl, ⟨_, open5gs, _, _, rfl, ⟨_, rfl, _⟩, _, ueransim, _, _, rfl,
    ⟨_, rfl, _⟩, rfl, _⟩, composing, compose, _, _, rfl, resolving, _, commit, _, _, rfl,
    committing, _, digests, _,
    _, rfl, digesting, _, node, _, _, rfl, ⟨_, rfl, _⟩, _, system, _, _, rfl, ⟨_, rfl, _⟩,
      _, release, _,
    _, rfl, ⟨_, rfl, _⟩, _, machine, _, _, rfl, ⟨_, rfl, _⟩, _, engine, _, _, rfl,
      identifying, rfl, rfl,
    _⟩
  rcases effectiveComposeState_runs resolving with ⟨ended, commands, known⟩
  rcases repositoryCommit_runs committing with ⟨committed, rfl, commitProbed⟩
  rcases configDigests_runs digesting with ⟨files, rfl, rfl, relatives⟩
  rcases dockerEngineIdentity_runs identifying with ⟨identified, rfl, engineProbed⟩
  have resolves := Calls.of_emits calls_effectiveComposeState resolving.emits
  have noProbe (args : List String) (timeout : ℕ)
      (reply : Except Raised CompletedProcess) :
      (⟨.subprocess args timeout, reply⟩ : Event Host) ∉ composing := fun member =>
    (resolves _ member : False)
  have noFile (path : Path) (reply : Except Raised Bytes) :
      (⟨.readBytes path, reply⟩ : Event Host) ∉ composing := fun member =>
    (resolves _ member : False)
  have noRead (args : List String) (timeout : ℕ) (reply : Except Raised CompletedProcess) :
      (⟨.subprocess args timeout, reply⟩ : Event Host) ∉ files.map ConfigFile.read := by
    simp [ConfigFile.read]
  have different : commitProbe ≠ engineVersion := by decide
  constructor
  · refine probed_of_mem commitProbed fun reply => ?_
    simp [noProbe, noRead, different]
  · refine probed_of_mem engineProbed fun reply => ?_
    simp [noProbe, noRead, different.symm]
  · refine ⟨ended, ?_, known⟩
    simp [commands, issued_reads, Event.issued]
  · refine ⟨files, rfl, relatives, fun path bytes => ?_⟩
    simp [noFile, ConfigFile.read]

namespace Json

omit [JsonLibrary]

theorem exists_alike_field {fields fields' : List (String × Json)}
    (alikes : List.Forall₂ AlikeField fields fields') {field : String × Json}
    (member : field ∈ fields) : ∃ field' ∈ fields', AlikeField field field' := by
  induction alikes with
  | nil => simp at member
  | cons head _ ih =>
      rcases List.mem_cons.mp member with rfl | member
      · exact ⟨_, List.mem_cons_self, head⟩
      · rcases ih member with ⟨field', member', alike⟩
        exact ⟨field', List.mem_cons_of_mem _ member', alike⟩

/-- Alike mappings have alike values for one key. -/
theorem alike_field (key : String) {value value' : Json} {fields fields' : List (String × Json)}
    (alike : Alike (.object fields) (.object fields')) (distinct : (fields'.map Prod.fst).Nodup)
    (member : (key, value) ∈ fields) (member' : (key, value') ∈ fields') : Alike value value' := by
  rcases alike with ⟨reordered, permuted, alikes⟩
  rcases exists_alike_field (alikeFields_iff.mp alikes) member with ⟨field, found, sameKey, same⟩
  have unique : field = (key, value') :=
    List.inj_on_of_nodup_map distinct (permuted.mem_iff.mp found) member' sameKey.symm
  rw [unique] at same
  exact same

theorem Alike.flip_fields {fields fields' : List (String × Json)}
    (alikes : List.Forall₂ AlikeField fields fields') {field' : String × Json}
    (member' : field' ∈ fields') : ∃ field ∈ fields, AlikeField field field' := by
  induction alikes with
  | nil => simp at member'
  | cons head _ ih =>
      rcases List.mem_cons.mp member' with rfl | member'
      · exact ⟨_, List.mem_cons_self, head⟩
      · rcases ih member' with ⟨field, member, alike⟩
        exact ⟨field, List.mem_cons_of_mem _ member, alike⟩

def fieldOfText (text : String × String) : String × Json := (text.1, .string text.2)

theorem alikeField_text {text text' : String × String}
    (alike : AlikeField (fieldOfText text) (fieldOfText text')) : text = text' := by
  simp only [AlikeField, fieldOfText, Alike, Json.string.injEq] at alike
  exact Prod.ext alike.1 alike.2

/-- Mappings to texts are alike when they have the same fields. -/
theorem mem_iff_of_alike_texts {texts texts' : List (String × String)}
    (alike : Alike (.object (texts.map fieldOfText)) (.object (texts'.map fieldOfText)))
    (text : String × String) : text ∈ texts ↔ text ∈ texts' := by
  rcases alike with ⟨reordered, permuted, alikes⟩
  rw [alikeFields_iff] at alikes
  constructor
  · intro member
    rcases exists_alike_field alikes (List.mem_map_of_mem member) with ⟨field, found, same⟩
    rcases List.mem_map.mp (permuted.mem_iff.mp found) with ⟨text', member', rfl⟩
    rw [alikeField_text same]
    exact member'
  · intro member'
    rcases Alike.flip_fields alikes (permuted.mem_iff.mpr (List.mem_map_of_mem member')) with
      ⟨field, found, same⟩
    rcases List.mem_map.mp found with ⟨text', member, rfl⟩
    rw [← alikeField_text same]
    exact member

theorem lookup_mem {key : String} {fields : List (String × Json)} {value : Json}
    (found : lookup key fields = some value) : ∃ field ∈ fields, field.2 = value := by
  rw [lookup, Option.map_eq_some_iff] at found
  rcases found with ⟨field, found, same⟩
  exact ⟨field, List.mem_reverse.mp (List.mem_of_find?_eq_some found), same⟩

theorem properFloats_lookup {key : String} {fields : List (String × Json)} {value : Json}
    (proper : ProperFields fields) (found : lookup key fields = some value) :
    value.ProperFloats := by
  rcases lookup_mem found with ⟨field, member, rfl⟩
  exact properFields_iff.mp proper field member

end Json

omit [JsonLibrary] in
theorem composeImages_proper {services images : List (String × Json)}
    (proper : Json.ProperFields services) (listed : composeImages services = .ok images) :
    Json.ProperFields images := by
  induction services generalizing images with
  | nil =>
      cases listed
      exact proper
  | cons entry services ih =>
      rcases entry with ⟨name, service⟩
      rw [composeImages, Except.bind_ok_iff] at listed
      rcases listed with ⟨contains, _, listed⟩
      split at listed
      · rcases Except.bind_ok_iff.mp listed with ⟨image, found, listed⟩
        rcases Except.bind_ok_iff.mp listed with ⟨others, rest, same⟩
        cases same
        refine ⟨?_, ih proper.2 rest⟩
        cases service with
        | object fields =>
            rw [Json.index] at found
            split at found
            case h_1 value looked =>
              cases found
              exact Json.properFloats_lookup proper.1 looked
            case h_2 => simp at found
        | _ => simp [Json.index] at found
      · exact ih proper.2 listed

omit [JsonLibrary] in
theorem composeState_proper {document : Json} {sha256 : String} {images : List (String × Json)}
    (proper : document.ProperFloats)
    (resolved : composeState document = .ok (.available sha256 images)) :
    Json.ProperFields images := by
  rw [composeState, Except.bind_ok_iff] at resolved
  rcases resolved with ⟨services, found, resolved⟩
  cases services with
  | object services =>
      rcases Except.bind_ok_iff.mp resolved with ⟨images', listed, same⟩
      cases same
      refine composeImages_proper ?_ listed
      cases document with
      | object fields =>
          rw [Json.get, Except.ok.injEq] at found
          cases looked : Json.lookup "services" fields with
          | none => simp [looked] at found
          | some value =>
              rw [looked, Option.getD_some] at found
              subst found
              exact Json.properFloats_lookup proper looked
      | _ => simp [Json.get] at found
  | _ => simp at resolved

/-- A run makes its context after it has made its directory. -/
theorem openRun_runs {repoRoot outputRoot : Path} {scenario : Scenario}
    {trace : List (Event Host)} {opened : OpenedRun}
    (runs : (openRun repoRoot outputRoot scenario).Runs () trace (.ok opened) ()) :
    ∃ clock made manifest writing, trace = clock :: made :: (manifest ++ writing) ∧
      (runtimeContextManifest repoRoot).Runs () manifest (.ok opened.context) () := by
  simp only [openRun, runs_bind_ok_iff, runs_utcNow_iff, runs_makeDirectory_iff, runs_pure_iff,
    Except.ok.injEq] at runs
  rcases runs with
    ⟨_, startedAt, _, _, rfl, ⟨clock, rfl, _⟩, _, _, _, _, rfl, rfl, manifest, context, _,
    _, rfl, makes, writing, _, _, _, rfl, _, rfl, rfl, _⟩
  exact ⟨⟨.utcNow, clock⟩, ⟨.makeDirectory (outputRoot / makeRunId scenario.id startedAt) false,
    .ok ()⟩, manifest, writing, by simp, makes⟩

theorem runFault_scenarioId {rounds : ℕ} {scenario : Scenario} {opened : OpenedRun}
    {baselineResult : Option Path} {settleSeconds : ℤ} {before after : Unit}
    {trace : List (Event Host)} {result : ScenarioResult}
    (runs : (runFault rounds scenario opened baselineResult settleSeconds).Runs before trace
      (.ok result) after) : result.scenarioId = scenario.id := by
  rw [runFault, runs_bind_ok_iff] at runs
  rcases runs with ⟨_, gate, _, _, rfl, _, runs⟩
  split at runs
  case isFalse =>
    rw [finishRun_runs runs]
    rfl
  case isTrue =>
    rw [runs_bind_ok_iff] at runs
    rcases runs with ⟨_, live, _, _, rfl, _, runs⟩
    split at runs
    case isTrue =>
      rw [runs_bind_ok_iff] at runs
      rcases runs with ⟨_, executed, _, _, rfl, executes, runs⟩
      rw [finishRun_runs runs]
      exact executeFaultOnHost_scenarioId executes
    case isFalse =>
      rw [blockUnhealthy, runs_bind_ok_iff] at runs
      rcases runs with ⟨_, evidence, _, _, rfl, _, runs⟩
      rw [finishRun_runs runs]
      rfl

/-- A run whose result the gate accepts was a baseline in its own context, which is
resolved. -/
theorem runRuntimeScenario_accepted {rounds : ℕ} {repoRoot outputRoot : Path} {scenario : Scenario}
    {baselineResult : Option Path} {settleSeconds : ℤ} {trace : List (Event Host)}
    {result : ScenarioResult} {fingerprint : String}
    (runs : (runRuntimeScenario rounds repoRoot scenario outputRoot baselineResult
      settleSeconds).Runs () trace (.ok result) ())
    (accepted : Accepted result.fields fingerprint) :
    ∃ opening opened rest, trace = opening ++ rest ∧
      (openRun repoRoot outputRoot scenario).Runs () opening (.ok opened) () ∧
      opened.fingerprint = fingerprint ∧ opened.context.effectiveCompose.isAvailable = true := by
  rcases accepted_fields_iff.mp accepted with ⟨isBaseline, passed, _, stamped, _⟩
  rw [runRuntimeScenario, runs_bind_ok_iff] at runs
  rcases runs with ⟨opening, opened, _, rest, rfl, opens, runs⟩
  refine ⟨opening, opened, rest, rfl, opens, ?_⟩
  rw [runs_bind_ok_iff] at runs
  rcases runs with ⟨blocking, reasons, _, more, rfl, _, runs⟩
  dsimp only at runs
  split at runs
  case isTrue =>
    rw [finishRun_runs runs] at passed
    simp [OpenedRun.blocked, blockedResult] at passed
  case isFalse unblocked =>
    rw [ne_eq, not_not, List.append_eq_nil_iff, RuntimeContext.unresolved_eq_nil_iff] at unblocked
    split at runs
    case isTrue different => exact absurd (runFault_scenarioId runs ▸ isBaseline) different
    case isFalse =>
      rw [runBaseline, runs_bind_ok_iff] at runs
      rcases runs with ⟨_, executed, _, _, rfl, executes, runs⟩
      rw [finishRun_runs runs, (executeBaseline_result executes).2.2, Option.some.injEq] at stamped
      exact ⟨stamped, unblocked.2⟩

/-- What a gate that is passed has read. -/
theorem validateBaselineResult_passed {path : Path} {fingerprint : String}
    {reading : List (Event Host)} {gate : BaselineGate}
    (reads : (validateBaselineResult (some path) fingerprint).Runs () reading (.ok gate) ())
    (passed : gate.passed = true) :
    ∃ text data, (⟨.readText path, .ok text⟩ : Event Host) ∈ reading ∧
      JsonLibrary.loads text = .ok data ∧ gate = judgeDocument data fingerprint := by
  rw [validateBaselineResult, runs_bind_ok_iff] at reads
  rcases reads with ⟨_, present, _, _, rfl, _, reads⟩
  split at reads
  case isFalse =>
    rw [runs_pure_iff, Except.ok.injEq] at reads
    simp [reads.2.1] at passed
  case isTrue =>
    rw [judgeFile, runs_bind_ok_iff] at reads
    rcases reads with ⟨_, loaded, _, _, rfl, attempted, reads⟩
    rw [runs_attempt_iff] at attempted
    rcases attempted with ⟨_, same, attempted⟩
    rw [Except.ok.injEq] at same
    subst same
    cases loaded with
    | error error =>
        dsimp only at reads
        split at reads
        · rw [runs_pure_iff, Except.ok.injEq] at reads
          simp [reads.2.1] at passed
        · simp at reads
    | ok data =>
        dsimp only at reads
        rw [runs_pure_iff, Except.ok.injEq] at reads
        rw [loadFile, runs_bind_ok_iff] at attempted
        rcases attempted with ⟨_, text, _, _, rfl, returned, parsed⟩
        rw [runs_readText_iff] at returned
        rw [runs_ofExcept_iff] at parsed
        exact ⟨text, data, by simp [returned], parsed.2.1.symm, reads.2.1⟩

/-- A run that has made its context, with the commit and the engine that its probes
tell when they succeed. -/
structure ProbedRun where
  repoRoot : Path
  trace : List (Event Host)
  context : RuntimeContext
  makes : (runtimeContextManifest repoRoot).Runs () trace (.ok context) ()
  commit : String
  engine : String
  commitHex : ∀ c ∈ commit.toList, c ∈ "0123456789abcdef".toList
  engineParts : '|' ∈ engine.toList
  tellsCommit : ∀ text, Printed commitProbe trace text → text = commit
  tellsEngine : ∀ text, Printed engineVersion trace text → text = engine

namespace ProbedRun

variable (run : ProbedRun)

/-- The commit was found out. -/
def KnowsCommit : Prop := Printed commitProbe run.trace run.commit

/-- The Docker engine was found out. -/
def KnowsEngine : Prop := Printed engineVersion run.trace run.engine

/-- The file of this name in the repository was read, with these bytes. -/
def ReadsFile (name : String) (bytes : Bytes) : Prop :=
  ∃ path relative, path.relativeTo run.repoRoot = .ok relative ∧ relative.text = name ∧
    (⟨.readBytes path, .ok bytes⟩ : Event Host) ∈ run.trace

/-- The resolved Compose configuration. -/
def Resolves (document : Json) : Prop :=
  ∃ stdout stderr, ⟨resolveCompose, [], .exited 0 stdout stderr⟩ ∈ issued run.trace ∧
    JsonLibrary.loads stdout = .ok document

/-- The run goes on and stores a result. -/
def Stores (result : ScenarioResult) : Prop :=
  ∃ rounds outputRoot scenario baselineResult settleSeconds clock made rest,
    (runRuntimeScenario rounds run.repoRoot scenario outputRoot baselineResult
      settleSeconds).Runs ()
      (clock :: made :: (run.trace ++ rest)) (.ok result) ()

/-- The gate of the run reads a stored result, and is passed. -/
def Accepts (result : ScenarioResult) : Prop :=
  ∃ path reading gate,
    (∀ reply, (⟨.readText path, reply⟩ : Event Host) ∈ reading → reply = .ok result.json.pretty) ∧
    (validateBaselineResult (some path) run.context.fingerprint).Runs () reading (.ok gate) () ∧
    gate.passed = true

end ProbedRun

/-- The digests that two runs compare have not collided. -/
structure NoCollision (first second : ProbedRun) : Prop where
  contexts : first.context.fingerprint = second.context.fingerprint →
    encode (canonical first.context.json) = encode (canonical second.context.json)
  documents : ∀ document document', first.Resolves document → second.Resolves document' →
    contextFingerprint document = contextFingerprint document' →
    encode (canonical document) = encode (canonical document')
  files : ∀ name bytes bytes', first.ReadsFile name bytes → second.ReadsFile name bytes' →
    Sha256.hexdigest bytes = Sha256.hexdigest bytes' → bytes = bytes'

/-- Two runs had the same configuration: in every file, and in the resolved Compose
configuration up to the order of its keys. -/
structure SameConfiguration (first second : ProbedRun) : Prop where
  files : ∀ name bytes, first.ReadsFile name bytes ↔ second.ReadsFile name bytes
  documents : ∀ document document', first.Resolves document → second.Resolves document' →
    Json.Alike document document'

/-- Two runs had one identity. -/
structure SameIdentity (first second : ProbedRun) :
    Prop extends SameConfiguration first second where
  commit : first.commit = second.commit
  engine : first.engine = second.engine

/-- Loaded documents print their floats as numbers. -/
def LoadsProper : Prop :=
  ∀ text document, JsonLibrary.loads text = .ok document → document.ProperFloats

omit [JsonLibrary] in
theorem RuntimeContext.json_proper {context : RuntimeContext}
    (images : Json.ProperFields context.effectiveCompose.images) : context.json.ProperFloats := by
  have digests : Json.ProperFields
      (context.configSha256.map fun file => (file.1, Json.string file.2)) := by
    rw [Json.properFields_iff]
    intro field member
    rcases List.mem_map.mp member with ⟨file, _, rfl⟩
    trivial
  have compose : context.effectiveCompose.json.ProperFloats := by
    cases state : context.effectiveCompose with
    | unavailable => simp [ComposeState.json, Json.ProperFloats, Json.ProperFields]
    | available sha256 images' =>
        rw [state] at images
        simpa [ComposeState.json, Json.ProperFloats, Json.ProperFields, ComposeState.images]
          using images
  simp [RuntimeContext.json, Json.ProperFloats, Json.ProperFields, digests, images, compose]

theorem ProbedRun.images_proper (run : ProbedRun) (proper : LoadsProper) :
    Json.ProperFields run.context.effectiveCompose.images := by
  rcases (runtimeContextManifest_runs run.makes).compose with ⟨_, _, unavailable | ⟨_, _, document,
    images, _, loaded, resolved, available⟩⟩
  · rw [unavailable]
    trivial
  · rw [available]
    exact composeState_proper (proper _ _ loaded) resolved

section

variable {first second : ProbedRun} {result : ScenarioResult}

/-- The gate accepts a stored result for its fingerprint. -/
theorem ProbedRun.fingerprint_eq (stores : first.Stores result)
    (faithful : JsonLibrary.loads result.json.pretty = .ok result.json)
    (accepts : second.Accepts result) :
    first.context.fingerprint = second.context.fingerprint ∧
      first.context.effectiveCompose.isAvailable = true := by
  rcases accepts with ⟨path, reading, gate, stored, reads, passed⟩
  rcases validateBaselineResult_passed reads passed with ⟨text, data, returned, loaded, judged⟩
  have text_eq := stored _ returned
  rw [Except.ok.injEq] at text_eq
  subst text_eq
  rw [faithful, Except.ok.injEq] at loaded
  subst loaded
  rw [judged, result.json_eq] at passed
  rcases stores with
    ⟨rounds, outputRoot, scenario, baselineResult, settleSeconds, clock, made, rest,
    runs⟩
  rcases runRuntimeScenario_accepted runs (judgeFields_passed_iff.mp passed) with
    ⟨opening, opened, rest', split, opens, fingerprint_eq, available⟩
  rcases openRun_runs opens with ⟨clock', made', manifest, writing, rfl, makes⟩
  simp only [List.cons_append, List.append_assoc, List.cons.injEq] at split
  rcases makes.unique first.makes split.2.2.symm with ⟨_, same, _⟩
  rw [Except.ok.injEq] at same
  rw [← same]
  exact ⟨fingerprint_eq, available⟩

theorem contexts_alike (proper : LoadsProper) (noCollision : NoCollision first second)
    (same : first.context.fingerprint = second.context.fingerprint) :
    Json.Alike first.context.json second.context.json :=
  Json.alike_of_canonical_eq (RuntimeContext.json_proper (first.images_proper proper))
    (RuntimeContext.json_proper (second.images_proper proper))
    (encode_injective (noCollision.contexts same))

/-- The entry of a context on its host. -/
def hostEntry (context : RuntimeContext) : Json := .object
  [("node", .string context.node), ("system", .string context.system),
    ("release", .string context.release), ("machine", .string context.machine),
    ("docker_engine", .string context.dockerEngine)]

/-- The entries of alike contexts. -/
theorem context_entries (alike : Json.Alike first.context.json second.context.json) :
    first.context.gitCommit = second.context.gitCommit ∧
      first.context.dockerEngine = second.context.dockerEngine ∧
      (∀ file, file ∈ first.context.configSha256 ↔ file ∈ second.context.configSha256) ∧
      Json.Alike first.context.effectiveCompose.json second.context.effectiveCompose.json := by
  have commit : Json.Alike (.string first.context.gitCommit) (.string second.context.gitCommit) :=
    Json.alike_field "git_commit" alike (by simp) (by simp) (by simp)
  have digests : Json.Alike (.object (first.context.configSha256.map Json.fieldOfText))
      (.object (second.context.configSha256.map Json.fieldOfText)) :=
    Json.alike_field "config_sha256" alike (by simp) (by simp [Json.fieldOfText])
      (by simp [Json.fieldOfText])
  have compose : Json.Alike first.context.effectiveCompose.json
      second.context.effectiveCompose.json :=
    Json.alike_field "effective_compose" alike (by simp) (by simp) (by simp)
  have host : Json.Alike (hostEntry first.context) (hostEntry second.context) :=
    Json.alike_field "host" alike (by simp) (by simp [hostEntry]) (by simp [hostEntry])
  have engine : Json.Alike (.string first.context.dockerEngine)
      (.string second.context.dockerEngine) :=
    Json.alike_field "docker_engine" host (by simp) (by simp) (by simp)
  simp only [Json.Alike, Json.string.injEq] at commit engine
  exact ⟨commit, engine, Json.mem_iff_of_alike_texts digests, compose⟩

omit [JsonLibrary] in
/-- An available configuration is only like one with the same digest. -/
theorem compose_digest {state : ComposeState} {sha256 : String} {images : List (String × Json)}
    (alike : Json.Alike (ComposeState.available sha256 images).json state.json) :
    ∃ images', state = .available sha256 images' := by
  cases state with
  | unavailable =>
      have available : Json.Alike (.bool true) (.bool false) :=
        Json.alike_field "available" alike (by simp) (by simp) (by simp)
      simp [Json.Alike] at available
  | available sha256' images' =>
      have digest : Json.Alike (.string sha256) (.string sha256') :=
        Json.alike_field "sha256" alike (by simp) (by simp) (by simp)
      simp only [Json.Alike, Json.string.injEq] at digest
      exact ⟨images', by rw [digest]⟩

/-- What a run resolves is what its context has the digest of. -/
theorem ProbedRun.Resolves.digest {run : ProbedRun} {document : Json} {sha256 : String}
    {images : List (String × Json)} (resolves : run.Resolves document)
    (available : run.context.effectiveCompose = .available sha256 images) :
    sha256 = contextFingerprint document := by
  rcases (runtimeContextManifest_runs run.makes).compose with ⟨ended, commands, known⟩
  rcases resolves with ⟨stdout, stderr, member, loads⟩
  rw [commands, List.mem_singleton] at member
  rw [available] at known
  rcases known with none | ⟨stdout', stderr', document', images', ended_eq, loads', _, same⟩
  · simp at none
  · simp only [HostCommand.mk.injEq, true_and] at member
    rw [ended_eq, ProcessEnd.exited.injEq] at member
    rw [member.2.1, loads', Except.ok.injEq] at loads
    rw [ComposeState.available.injEq] at same
    rw [same.1, loads]

/-- A file that one run has read was read by the other, with the same bytes. -/
theorem reads_of_digests (noCollision : ∀ name bytes bytes', first.ReadsFile name bytes →
      second.ReadsFile name bytes' → Sha256.hexdigest bytes = Sha256.hexdigest bytes' →
      bytes = bytes')
    (digests : ∀ file ∈ first.context.configSha256, file ∈ second.context.configSha256)
    {name : String} {bytes : Bytes} (reads : first.ReadsFile name bytes) :
    second.ReadsFile name bytes := by
  rcases (runtimeContextManifest_runs first.makes).files with ⟨files, listed, relatives, read_iff⟩
  rcases (runtimeContextManifest_runs second.makes).files with
    ⟨files', listed', relatives', read_iff'⟩
  have known := reads
  rcases reads with ⟨path, relative, within, rfl, read⟩
  rcases (read_iff path bytes).mp read with ⟨file, member, rfl, rfl⟩
  rw [relatives file member, Except.ok.injEq] at within
  have digest : file.digest ∈ first.context.configSha256 := by
    rw [listed]
    exact List.mem_map_of_mem member
  have digest' := digests _ digest
  rw [listed', List.mem_map] at digest'
  rcases digest' with ⟨file', member', same⟩
  rw [ConfigFile.digest, ConfigFile.digest, Prod.mk.injEq] at same
  have reads' : second.ReadsFile relative.text file'.bytes :=
    ⟨file'.path, file'.relative, relatives' file' member', by rw [same.1, within],
      (read_iff' _ _).mpr ⟨file', member', rfl, rfl⟩⟩
  rw [noCollision _ _ _ known reads' same.2.symm]
  exact reads'

/-- The configuration of an accepting run is that of the run that it accepts. -/
theorem sameConfiguration (proper : LoadsProper) (noCollision : NoCollision first second)
    (alike : Json.Alike first.context.json second.context.json)
    (available : first.context.effectiveCompose.isAvailable = true) :
    SameConfiguration first second := by
  rcases context_entries alike with ⟨_, _, digests, compose⟩
  constructor
  · intro name bytes
    constructor
    · exact reads_of_digests noCollision.files fun file => (digests file).mp
    · exact reads_of_digests (fun name bytes bytes' reads reads' same =>
        (noCollision.files name bytes' bytes reads' reads same.symm).symm) fun file =>
          (digests file).mpr
  · intro document document' resolves resolves'
    cases state : first.context.effectiveCompose with
    | unavailable => simp [state, ComposeState.isAvailable] at available
    | available sha256 images =>
        rw [state] at compose
        rcases compose_digest compose with ⟨images', state'⟩
        have same : contextFingerprint document = contextFingerprint document' := by
          rw [← resolves.digest state, ← resolves'.digest state']
        have texts := encode_injective
          (noCollision.documents document document' resolves resolves' same)
        rcases resolves with ⟨stdout, _, _, loads⟩
        rcases resolves' with ⟨stdout', _, _, loads'⟩
        exact Json.alike_of_canonical_eq (proper _ _ loads) (proper _ _ loads') texts

omit [JsonLibrary] in
/-- A truthful probe answers the truth, or it has failed. -/
theorem Probed.truth {args : List String} {trace : List (Event Host)} {failed answer truth : String}
    (probed : Probed args trace failed answer)
    (tells : ∀ text, Printed args trace text → text = truth) :
    Printed args trace truth ∧ answer = truth ∨ ¬Printed args trace truth ∧ answer = failed := by
  rcases probed with printed | ⟨none, same⟩
  · have same := tells answer printed
    exact .inl ⟨same ▸ printed, same⟩
  · exact .inr ⟨none truth, same⟩

omit [JsonLibrary] in
/-- Two truthful probes with one answer tell one truth, unless both have failed. -/
theorem truth_eq_of_probed {args : List String} {trace trace' : List (Event Host)}
    {failed answer answer' truth truth' : String} (probed : Probed args trace failed answer)
    (probed' : Probed args trace' failed answer') (same : answer = answer')
    (tells : ∀ text, Printed args trace text → text = truth)
    (tells' : ∀ text, Printed args trace' text → text = truth') (proper : truth ≠ failed)
    (proper' : truth' ≠ failed)
    (known : Printed args trace truth ∨ Printed args trace' truth' ∨ truth = truth') :
    truth = truth' := by
  rcases probed.truth tells with ⟨_, isTruth⟩ | ⟨unknown, isFailed⟩
  · rcases probed'.truth tells' with ⟨_, isTruth'⟩ | ⟨_, isFailed'⟩
    · rw [← isTruth, ← isTruth', same]
    · exact absurd (by rw [← isTruth, same, isFailed']) proper
  · rcases probed'.truth tells' with ⟨_, isTruth'⟩ | ⟨unknown', _⟩
    · exact absurd (by rw [← isTruth', ← same, isFailed]) proper'
    · rcases known with printed | printed' | equal
      · exact absurd printed unknown
      · exact absurd printed' unknown'
      · exact equal

omit [JsonLibrary] in
theorem ne_unknown {commit : String} (hex : ∀ c ∈ commit.toList, c ∈ "0123456789abcdef".toList) :
    commit ≠ "unknown" := by
  rintro rfl
  exact absurd (hex 'u' (by decide)) (by decide)

omit [JsonLibrary] in
theorem ne_unavailable {engine : String} (parts : '|' ∈ engine.toList) :
    engine ≠ "unavailable" := by
  rintro rfl
  exact absurd parts (by decide)

/-- The baseline gate identifies the run whose result it accepts, exactly when the
commit is not lost in both runs, nor the Docker engine. -/
theorem validateBaselineResult_identifies (proper : LoadsProper) (first second : ProbedRun)
    (result : ScenarioResult) (noCollision : NoCollision first second)
    (stores : first.Stores result)
    (faithful : JsonLibrary.loads result.json.pretty = .ok result.json)
    (accepts : second.Accepts result) :
    SameIdentity first second ↔
      (first.KnowsCommit ∨ second.KnowsCommit ∨ first.commit = second.commit) ∧
      (first.KnowsEngine ∨ second.KnowsEngine ∨ first.engine = second.engine) := by
  rcases ProbedRun.fingerprint_eq stores faithful accepts with ⟨same, available⟩
  have alike := contexts_alike proper noCollision same
  have entries := context_entries alike
  have manifest := runtimeContextManifest_runs first.makes
  have manifest' := runtimeContextManifest_runs second.makes
  constructor
  · intro identity
    exact ⟨.inr (.inr identity.commit), .inr (.inr identity.engine)⟩
  · rintro ⟨commitKnown, engineKnown⟩
    refine ⟨sameConfiguration proper noCollision alike available, ?_, ?_⟩
    · exact truth_eq_of_probed manifest.commit manifest'.commit entries.1 first.tellsCommit
        second.tellsCommit (ne_unknown first.commitHex) (ne_unknown second.commitHex) commitKnown
    · exact truth_eq_of_probed manifest.engine manifest'.engine entries.2.1 first.tellsEngine
        second.tellsEngine (ne_unavailable first.engineParts) (ne_unavailable second.engineParts)
        engineKnown

end

end

/-- A Compose configuration without services. -/
def composeDocument : Json := .object [("services", .object [])]

def composeText : String := "\x7b\"services\":\x7b\x7d\x7d"

/-- A library that loads one more text. -/
abbrev JsonLibrary.withDocument (text : String) (document : Json) (other : JsonLibrary) :
    JsonLibrary where
  loads text' := if text' = text then .ok document else other.loads text'

/-- What the examples load: the Compose configuration, the core and a stored result. -/
abbrev identifyingLibrary (result : ScenarioResult) : JsonLibrary :=
  .withDocument composeText composeDocument (.ofDocuments [coreDocument, result.json])

/-- What `git rev-parse HEAD` answers, where it may refuse to read the repository. -/
def headAnswer : Option String → CompletedProcess
  | some commit => ⟨0, commit ++ "\n", ""⟩
  | none => ⟨128, "", "fatal: detected dubious ownership"⟩

/-- A host with this answer of `git`. -/
def identifyingHost (head : Option String) : Responder Host ℚ := fun clock op =>
  match op with
  | .subprocess args _ =>
      (.ok (if args = commitProbe then headAnswer head else ⟨0, "27.3|linux|amd64|6.8", ""⟩), clock)
  | .spawn _ _ _ => (.exited 0 composeText "", clock)
  | op => Host.calm (fun _ => .exited 0 "" "") "" [] clock op

def identifiedContext (head : Option String) : RuntimeContext where
  gitCommit := head.getD "unknown"
  configSha256 := runtimeContextPaths.map fun path => (path, Sha256.hexdigest [])
  effectiveCompose := .available (contextFingerprint composeDocument) []
  node := "Linux"
  system := "Linux"
  release := "Linux"
  machine := "Linux"
  dockerEngine := "27.3|linux|amd64|6.8"

def identifiedIdentity (head : Option String) : RunIdentity where
  runId := makeRunId "baseline_e2e" "2026-09-13T00:00:00Z"
  startedAt := "2026-09-13T00:00:00Z"
  fingerprint := (identifiedContext head).fingerprint

def identifiedDirectory : Path := Path.ofText "out" / (identifiedIdentity none).runId

def identifiedRun (head : Option String) : OpenedRun where
  runId := (identifiedIdentity head).runId
  startedAt := (identifiedIdentity head).startedAt
  outputDir := identifiedDirectory
  context := identifiedContext head

/-- The answers of `git` in the runs below. -/
def headCommits : List (Option String) := [none, some "2f6c1e0b7d94a3586e1fb20c94d7358ae6014bd3"]

theorem identifying_played {head : Option String} (known : head ∈ headCommits)
    (other : JsonLibrary) :
    (@runtimeContextManifest (.withDocument composeText composeDocument other) (.ofText ".")
      ()).play (identifyingHost head) 0 = some ((.ok (identifiedContext head), ()), 0) := by
  simp only [headCommits, List.mem_cons, List.not_mem_nil, or_false] at known
  rcases known with rfl | rfl
  · rfl
  · rfl

theorem identified_passes : ∀ head ∈ headCommits,
    (@executeBaseline ⟨fun _ => .ok coreDocument⟩ 3 baselineE2e identifiedDirectory
      (identifiedIdentity head) 10).returns healthyHost () 0
      (fun result => result.status = .pass) := by
  decide +kernel

theorem identified_unblocked :
    blockingReason.returns healthyHost () 0 (fun reasons => reasons = []) := by
  decide +kernel

theorem ScenarioResult.json_proper (result : ScenarioResult) : result.json.ProperFloats := by
  have strings (texts : List String) : Json.ProperItems (texts.map Json.string) := by
    rw [Json.properItems_iff]
    simp [Json.ProperFloats]
  have assertions (assertions : List AssertionResult) :
      Json.ProperItems (assertions.map AssertionResult.json) := by
    rw [Json.properItems_iff]
    simp [AssertionResult.json, Json.ProperFloats, Json.ProperFields]
  have evidence : Json.ProperItems (result.evidence.map EvidenceRef.json) := by
    rw [Json.properItems_iff]
    simp [EvidenceRef.json, Json.ProperFloats, Json.ProperFields]
  have stamp : (Json.ofOption result.baselineContextFingerprint).ProperFloats := by
    cases result.baselineContextFingerprint <;> trivial
  simp [ScenarioResult.json, Json.ProperFloats, Json.ProperFields, Json.strings,
    strings, assertions,
    evidence, stamp]

theorem coreDocument_proper : coreDocument.ProperFloats := by
  have running (service : String) : (runningContainer service).ProperFloats := by
    simp [runningContainer, Json.ProperFloats, Json.ProperFields]
  have all : Json.ProperItems (initContainer :: coreServices.map runningContainer) := by
    rw [Json.properItems_iff]
    simp [running, initContainer, Json.ProperFloats, Json.ProperFields]
  exact all

theorem identifyingLibrary_proper (result : ScenarioResult) :
    @LoadsProper (identifyingLibrary result) := by
  intro text document loaded
  unfold JsonLibrary.loads at loaded
  dsimp only at loaded
  split at loaded
  · rw [Except.ok.injEq] at loaded
    subst loaded
    simp [composeDocument, Json.ProperFloats, Json.ProperFields]
  · unfold JsonLibrary.loads at loaded
    dsimp only at loaded
    split at loaded
    case h_1 found =>
      rw [Except.ok.injEq] at loaded
      subst loaded
      have member := List.mem_of_find?_eq_some found
      simp only [List.mem_cons, List.not_mem_nil, or_false] at member
      rcases member with rfl | rfl
      · exact coreDocument_proper
      · exact result.json_proper
    case h_2 => simp at loaded

/-- A result is stored on lines of its own. -/
theorem pretty_ne_composeText (result : ScenarioResult) : result.json.pretty ≠ composeText := by
  have nonempty : (Json.Layout.indented.order (Json.dumpFields .indented 1 result.fields)).map
      (fun field => Json.quote field.1 ++ Json.Layout.indented.keySeparator ++ field.2) ≠ [] := by
    rw [← List.length_pos_iff, List.length_map, (Json.Layout.order_perm _ _).length_eq]
    exact Nat.zero_lt_succ _
  have line : Json.Layout.indented.break 1 = "\n" ++ String.ofList [' ', ' '] := rfl
  intro same
  rw [Json.pretty, result.json_eq, Json.dumps, Json.enclose, if_neg nonempty, line] at same
  have second := congrArg (fun text => text.toList[1]?) same
  simp [composeText] at second

theorem coreDocument_ne_composeText : coreDocument.dumps .canonical 0 ≠ composeText := by
  have nonempty : Json.dumpItems .canonical 1
      (initContainer :: coreServices.map runningContainer) ≠ [] := by
    simp [Json.dumpItems]
  have left : ("[" : String).toList = ['['] := rfl
  have right : ("]" : String).toList = [']'] := rfl
  rcases Json.enclose_ends .canonical 0 nonempty left right with ⟨items, chars⟩
  intro same
  rw [coreDocument, Json.dumps, ← String.toList_inj, chars] at same
  simp [composeText] at same

theorem identifyingLibrary_core (result : ScenarioResult) :
    (identifyingLibrary result).loads (coreDocument.dumps .canonical 0) = .ok coreDocument := by
  unfold JsonLibrary.loads
  dsimp only
  rw [if_neg coreDocument_ne_composeText]
  exact JsonLibrary.ofDocuments_loads coreDocument _

theorem identifyingLibrary_result (result : ScenarioResult) :
    (identifyingLibrary result).loads result.json.pretty = .ok result.json := by
  unfold JsonLibrary.loads
  dsimp only
  rw [if_neg (pretty_ne_composeText result)]
  unfold JsonLibrary.loads
  simp [Json.pretty, coreDocument_text_ne]

section

variable (result : ScenarioResult)

def identifyingTrace (head : Option String) : List (Event Host) :=
  (@runtimeContextManifest (identifyingLibrary result) (.ofText ".") ()).transcript
    (identifyingHost head) 0

variable {head : Option String} (known : head ∈ headCommits)

include known

theorem identifyingTrace_runs :
    (@runtimeContextManifest (identifyingLibrary result) (.ofText ".")).Runs ()
      (identifyingTrace result head) (.ok (identifiedContext head)) () :=
  (Program.runs_of_play (identifying_played known _)).1

theorem identifyingTrace_answered {args : List String} {timeout : ℕ}
    {reply : Except Raised CompletedProcess}
    (member : (⟨.subprocess args timeout, reply⟩ : Event Host) ∈ identifyingTrace result head) :
    reply = .ok (if args = commitProbe then headAnswer head
      else ⟨0, "27.3|linux|amd64|6.8", ""⟩) := by
  have admits := (Program.runs_of_play (identifying_played known
    (.ofDocuments [coreDocument, result.json]))).2
  rcases admits.answered member with ⟨world, _, answer⟩
  exact (Prod.ext_iff.mp answer).1.symm

/-- Only the commit that `git` answers is found out. -/
theorem identifyingTrace_commit (text : String)
    (printed : Printed commitProbe (identifyingTrace result head) text) : head = some text := by
  rcases printed with ⟨reply, member, zero, rfl⟩
  have answered := identifyingTrace_answered result known member
  rw [if_pos rfl, Except.ok.injEq] at answered
  subst answered
  have stripped : ∀ head ∈ headCommits, (headAnswer head).returncode = 0 →
      head = some (Text.strip (headAnswer head).stdout) := by
    decide +kernel
  exact stripped head known zero

theorem identifyingTrace_engine (text : String)
    (printed : Printed engineVersion (identifyingTrace result head) text) :
    text = "27.3|linux|amd64|6.8" := by
  rcases printed with ⟨reply, member, _, rfl⟩
  have answered := identifyingTrace_answered result known member
  rw [if_neg (by decide), Except.ok.injEq] at answered
  rw [answered]
  decide +kernel

/-- The run, with a commit that it does not find out or that `git` answers. -/
def identifyingRun (commit : String) (hex : ∀ c ∈ commit.toList, c ∈ "0123456789abcdef".toList)
    (answers : ∀ text, head = some text → text = commit) : @ProbedRun (identifyingLibrary result) :=
  let := identifyingLibrary result
  { repoRoot := .ofText "."
    trace := identifyingTrace result head
    context := identifiedContext head
    makes := identifyingTrace_runs result known
    commit
    engine := "27.3|linux|amd64|6.8"
    commitHex := hex
    engineParts := by decide
    tellsCommit := fun text printed =>
      answers text (identifyingTrace_commit result known text printed)
    tellsEngine := identifyingTrace_engine result known }

end

theorem identifying_manifests [JsonLibrary] (head : Option String) : ∃ trace,
    (writeManifests (.ofText ".") identifiedDirectory "baseline_e2e"
      (identifiedContext head)).Runs () trace (.ok ()) () := by
  have written : (writeManifests (.ofText ".") identifiedDirectory "baseline_e2e"
      (identifiedContext head)).returns healthyHost () 0 (fun _ => true) := rfl
  rcases runs_of_returns written with ⟨_, _, runs, _⟩
  exact ⟨_, runs⟩

/-- A baseline that nothing blocks runs to its end. -/
theorem runRuntimeScenario_baseline [JsonLibrary] (baselineResult : Option Path) {rounds : ℕ}
    {repoRoot outputRoot : Path} {scenario : Scenario} {settleSeconds : ℤ}
    {opening blocking going : List (Event Host)} {opened : OpenedRun} {reasons : List String}
    {result : ScenarioResult} (isBaseline : scenario.id = "baseline_e2e")
    (opens : (openRun repoRoot outputRoot scenario).Runs () opening (.ok opened) ())
    (blocks : blockingReason.Runs () blocking (.ok reasons) ())
    (unblocked : reasons ++ opened.context.unresolved = [])
    (goes : (runBaseline rounds scenario opened settleSeconds).Runs () going (.ok result) ()) :
    (runRuntimeScenario rounds repoRoot scenario outputRoot baselineResult settleSeconds).Runs ()
      (opening ++ (blocking ++ going)) (.ok result) () := by
  refine opens.bind (blocks.bind ?_)
  dsimp only
  rw [if_neg (not_not.mpr unblocked), if_neg (not_not.mpr isBaseline)]
  exact goes

/-- A baseline run stores a passing result in this context. -/
theorem exists_identified_result {head : Option String} (known : head ∈ headCommits) :
    ∃ result clock made rest,
      (@runRuntimeScenario (identifyingLibrary result) 3 (.ofText ".") baselineE2e (.ofText "out")
        none 10).Runs () (clock :: made :: (identifyingTrace result head ++ rest)) (.ok result)
        () ∧ Accepted result.fields (identifiedContext head).fingerprint := by
  rcases played_of_returns (identified_passes head known) with ⟨result, _, _, played, passes⟩
  let library := identifyingLibrary result
  rw [← executeBaseline_playsAs (healthyHost_loadAlike (identifyingLibrary_core result)) 3
    baselineE2e identifiedDirectory (identifiedIdentity head) 10 () 0] at played
  have executes : (executeBaseline 3 baselineE2e identifiedDirectory (identifiedIdentity head)
      10).Runs () _ (.ok result) () :=
    (Program.runs_of_play played).1
  rcases exists_stored (identifiedContext head).fingerprint (identifyingLibrary_result result)
    identifiedDirectory with ⟨writing, _, _, writes, _⟩
  rcases runs_of_returns identified_unblocked with ⟨reasons, _, blocked, empty⟩
  rcases identifying_manifests head with ⟨manifests, manifested⟩
  have asked : utcNow.Runs () [⟨.utcNow, "2026-09-13T00:00:00Z"⟩]
      (.ok "2026-09-13T00:00:00Z") () :=
    runs_utcNow_iff.mpr ⟨_, rfl, rfl⟩
  have made : (makeDirectory identifiedDirectory false).Runs ()
      [⟨.makeDirectory identifiedDirectory false, .ok ()⟩] (.ok ()) () :=
    runs_makeDirectory_iff.mpr rfl
  have opens : (openRun (.ofText ".") (.ofText "out") baselineE2e).Runs () _
      (.ok (identifiedRun head)) () :=
    asked.bind (made.bind ((identifyingTrace_runs result known).bind
      (manifested.bind (runs_pure_iff.mpr ⟨rfl, rfl, rfl⟩))))
  have unblocked : reasons ++ (identifiedRun head).context.unresolved = [] := by
    rw [of_decide_eq_true empty]
    rfl
  have finishes : (finishRun identifiedDirectory result).Runs () _ (.ok result) () :=
    writes.bind (runs_pure_iff.mpr ⟨rfl, rfl, rfl⟩)
  have goes : (runBaseline 3 baselineE2e (identifiedRun head) 10).Runs () _ (.ok result) () :=
    executes.bind finishes
  have whole := runRuntimeScenario_baseline none rfl opens blocked unblocked goes
  simp only [List.append_assoc, List.cons_append, List.nil_append, List.append_nil] at whole
  refine ⟨result, _, _, _, whole, ?_⟩
  rcases executeBaseline_result executes with ⟨sameScenario, ready, stamped⟩
  have passed : result.status = .pass := by simpa using passes
  exact accepted_fields_iff.mpr ⟨sameScenario, passed, ready.mpr passed, stamped,
    Sha256.hexdigest_length _, Sha256.hexdigest_hex _⟩

/-- Two runs that only differ in their commits have no digests to collide. -/
theorem identifyingRun_noCollision (result : ScenarioResult) {head : Option String}
    (known : head ∈ headCommits) {commit commit' : String}
    (hex : ∀ c ∈ commit.toList, c ∈ "0123456789abcdef".toList)
    (hex' : ∀ c ∈ commit'.toList, c ∈ "0123456789abcdef".toList)
    (answers : ∀ text, head = some text → text = commit)
    (answers' : ∀ text, head = some text → text = commit') :
    @NoCollision (identifyingLibrary result) (identifyingRun result known commit hex answers)
      (identifyingRun result known commit' hex' answers') := by
  let := identifyingLibrary result
  constructor
  · intro _
    rfl
  · intro document document' resolves resolves' _
    rcases (runtimeContextManifest_runs (identifyingTrace_runs result known)).compose with
      ⟨ended, commands, _⟩
    rcases resolves with ⟨stdout, stderr, member, loads⟩
    rcases resolves' with ⟨stdout', stderr', member', loads'⟩
    have only : (⟨resolveCompose, [], .exited 0 stdout stderr⟩ : HostCommand) =
        ⟨resolveCompose, [], ended⟩ :=
      List.mem_singleton.mp (commands ▸ member)
    have only' : (⟨resolveCompose, [], .exited 0 stdout' stderr'⟩ : HostCommand) =
        ⟨resolveCompose, [], ended⟩ :=
      List.mem_singleton.mp (commands ▸ member')
    simp only [← only, HostCommand.mk.injEq, ProcessEnd.exited.injEq, true_and] at only'
    rw [only'.1, loads, Except.ok.injEq] at loads'
    rw [loads']
  · rintro name bytes bytes' ⟨path, _, _, _, read⟩ ⟨path', _, _, _, read'⟩ _
    have admits := (Program.runs_of_play (identifying_played known
      (.ofDocuments [coreDocument, result.json]))).2
    rcases admits.answered read with ⟨world, _, answer⟩
    rcases admits.answered read' with ⟨world', _, answer'⟩
    have same : Except.ok [] = (Except.ok bytes : Except Raised Bytes) := (Prod.ext_iff.mp answer).1
    have same' : Except.ok [] = (Except.ok bytes' : Except Raised Bytes) :=
      (Prod.ext_iff.mp answer').1
    rw [Except.ok.injEq] at same same'
    rw [← same, ← same']

/-- One run accepts what the other has stored, if `git` answers them alike. -/
theorem exists_accepted_result {head : Option String} (known : head ∈ headCommits) :
    ∃ result : ScenarioResult, ∀ (commit commit' : String)
      (hex : ∀ c ∈ commit.toList, c ∈ "0123456789abcdef".toList)
      (hex' : ∀ c ∈ commit'.toList, c ∈ "0123456789abcdef".toList)
      (answers : ∀ text, head = some text → text = commit)
      (answers' : ∀ text, head = some text → text = commit'),
    @ProbedRun.Stores (identifyingLibrary result)
      (identifyingRun result known commit hex answers) result ∧
    @ProbedRun.Accepts (identifyingLibrary result)
      (identifyingRun result known commit' hex' answers') result := by
  rcases exists_identified_result known with ⟨result, clock, made, rest, runs, accepted⟩
  let := identifyingLibrary result
  rcases exists_stored (identifiedContext head).fingerprint (identifyingLibrary_result result)
    (.ofText "out") with ⟨writing, reading, intact, writes, reads⟩
  refine ⟨result, fun commit commit' hex hex' answers answers' => ⟨?_, ?_⟩⟩
  · exact ⟨3, .ofText "out", baselineE2e, none, 10, clock, made, rest, runs⟩
  · exact ⟨_, reading, _, (intact _ _ (writeResult_lastWritten writes)).2, reads,
      judgeFields_passed_iff.mpr accepted⟩

/-- Two runs in which `git` fails accept each other at different commits. -/
theorem not_identifies : ¬∀ (_ : JsonLibrary) (first second : ProbedRun)
    (result : ScenarioResult), LoadsProper → NoCollision first second → first.Stores result →
    JsonLibrary.loads result.json.pretty = .ok result.json → second.Accepts result →
    SameIdentity first second := by
  intro identifies
  have known : none ∈ headCommits := List.mem_cons_self
  have silent (commit : String) : ∀ text, none = some text → text = commit :=
    fun _ told => (by cases told)
  rcases exists_accepted_result known with ⟨result, accepted⟩
  have hex : ∀ c ∈ "0a".toList, c ∈ "0123456789abcdef".toList := by simp
  have hex' : ∀ c ∈ "1b".toList, c ∈ "0123456789abcdef".toList := by simp
  rcases accepted "0a" "1b" hex hex' (silent _) (silent _) with ⟨stores, accepts⟩
  have identity := identifies (identifyingLibrary result) _ _ result
    (identifyingLibrary_proper result)
    (identifyingRun_noCollision result known hex hex' (silent _) (silent _)) stores
    (identifyingLibrary_result result) accepts
  have same : "0a" = "1b" := @SameIdentity.commit (identifyingLibrary result) _ _ identity
  exact absurd same (by simp)

/-- Two runs in which `git` answers the commit have one identity. -/
theorem validateBaselineResult_identifies_unmoved : ∃ (_ : JsonLibrary)
    (first second : ProbedRun) (result : ScenarioResult), first.KnowsCommit ∧ first.KnowsEngine ∧
      first.Stores result ∧ second.Accepts result ∧ SameIdentity first second := by
  have known : some "2f6c1e0b7d94a3586e1fb20c94d7358ae6014bd3" ∈ headCommits := by
    simp [headCommits]
  have answers : ∀ text, some "2f6c1e0b7d94a3586e1fb20c94d7358ae6014bd3" = some text →
      text = "2f6c1e0b7d94a3586e1fb20c94d7358ae6014bd3" :=
    fun _ told => (Option.some.inj told).symm
  have digits : "2f6c1e0b7d94a3586e1fb20c94d7358ae6014bd3".toList.all
      (fun c => "0123456789abcdef".toList.elem c) = true := by
    decide +kernel
  have hex : ∀ c ∈ "2f6c1e0b7d94a3586e1fb20c94d7358ae6014bd3".toList,
      c ∈ "0123456789abcdef".toList :=
    fun c member => List.elem_iff.mp (List.all_eq_true.mp digits c member)
  rcases exists_accepted_result known with ⟨result, accepted⟩
  rcases accepted _ _ hex hex answers answers with ⟨stores, accepts⟩
  let := identifyingLibrary result
  let run := identifyingRun result known _ hex answers
  have manifest := runtimeContextManifest_runs (identifyingTrace_runs result known)
  have knowsCommit : run.KnowsCommit :=
    manifest.commit.resolve_right fun lost => absurd lost.2 (by decide)
  have knowsEngine : run.KnowsEngine :=
    manifest.engine.resolve_right fun lost => absurd lost.2 (by decide)
  have identity := validateBaselineResult_identifies (identifyingLibrary_proper result) run run
    result (identifyingRun_noCollision result known hex hex answers answers) stores
    (identifyingLibrary_result result) accepts
  exact ⟨identifyingLibrary result, run, run, result, knowsCommit, knowsEngine, stores, accepts,
    identity.mpr ⟨.inl knowsCommit, .inl knowsEngine⟩⟩

end FivegLab
