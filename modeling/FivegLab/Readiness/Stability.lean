import FivegLab.Readiness.Wait

/-!
# Soundness of the core readiness

A wait that passes has seen a ready core in every poll of a window that is long
enough, and no service that changed its identity while it ran.
-/

namespace FivegLab

open Routine CoreProbe

/-- A snapshot, and the clock right after it. -/
structure Poll where
  snapshot : CoreSnapshot
  now : ℚ
  deriving DecidableEq, Repr

/-- The polls in a trace that did not end the wait at once. -/
def polls : List (Event CoreProbe) → List Poll
  | ⟨.readCore _, .ok snapshot⟩ :: ⟨.monotonic, now⟩ :: rest => ⟨snapshot, now⟩ :: polls rest
  | _ :: rest => polls rest
  | [] => []

@[simp]
theorem polls_nil : polls [] = [] := rfl

@[simp]
theorem polls_monotonic (now : ℚ) (rest : List (Event CoreProbe)) :
    polls (⟨.monotonic, now⟩ :: rest) = polls rest := rfl

@[simp]
theorem polls_sleep (seconds : ℚ) (ended : Except Raised Unit) (rest : List (Event CoreProbe)) :
    polls (⟨.sleep seconds, ended⟩ :: rest) = polls rest := rfl

@[simp]
theorem polls_readCore (deadline now : ℚ) (snapshot : CoreSnapshot)
    (rest : List (Event CoreProbe)) :
    polls (⟨.readCore deadline, .ok snapshot⟩ :: ⟨.monotonic, now⟩ :: rest) =
      ⟨snapshot, now⟩ :: polls rest := rfl

/-- How the reads of the core in a trace ended. -/
def coreReads (trace : List (Event CoreProbe)) : List (Except Raised CoreSnapshot) :=
  trace.filterMap fun event =>
    match event with
    | ⟨.readCore _, ended⟩ => some ended
    | _ => none

/-- The readings of the clock in a trace. -/
def clockReadings (trace : List (Event CoreProbe)) : List ℚ :=
  trace.filterMap fun event =>
    match event with
    | ⟨.monotonic, now⟩ => some now
    | _ => none

/-- When no service is found changed, every running service is known by its
identity afterwards, and nothing that was known is forgotten. -/
theorem trackIdentities_known {snapshot : CoreSnapshot} {services : List String}
    {known : List (String × CoreIdentity)}
    (unchanged : (trackIdentities snapshot services known).1 = []) :
    (∀ service identity, known.lookup service = some identity →
      (trackIdentities snapshot services known).2.lookup service = some identity) ∧
    ∀ service ∈ services, ∀ identity, snapshot.identity service = some identity →
      (trackIdentities snapshot services known).2.lookup service = some identity := by
  induction services generalizing known with
  | nil => simp [trackIdentities]
  | cons head services ih =>
      rw [trackIdentities] at unchanged ⊢
      cases running : snapshot.identity head with
      | none =>
          simp only [running] at unchanged ⊢
          rcases ih unchanged with ⟨kept, found⟩
          refine ⟨kept, ?_⟩
          rintro service (_ | ⟨_, member⟩) identity identified
          · simp [running] at identified
          · exact found service member identity identified
      | some identity =>
          simp only [running, List.append_eq_nil_iff, noteUnless_eq_nil_iff] at unchanged ⊢
          rcases ih unchanged.2 with ⟨kept, found⟩
          constructor
          · intro service before was
            apply kept
            rw [List.lookup_cons]
            cases same : service == head with
            | true =>
                rw [beq_iff_eq] at same
                subst same
                rw [unchanged.1 before was]
            | false => exact was
          · rintro service (_ | ⟨_, member⟩) other identified
            · apply kept
              rw [running] at identified
              simpa using identified
            · exact found service member other identified

/-- What the wait knows of the polls so far. -/
structure CoreWait.Tracks (wait : CoreWait) (history : List Poll) : Prop where
  identities : ∀ service ∈ coreServices, ∀ poll ∈ history, ∀ identity,
    poll.snapshot.identity service = some identity →
      wait.identities.lookup service = some identity
  stable : ∀ since, wait.stableSince = some since →
    ∃ before first window, history = before ++ first :: window ∧ first.now = since ∧
      ∀ poll ∈ first :: window, poll.snapshot.Ready

/-- The wait has passed at the last of the polls. -/
def CoreWait.PassedAt (settings : WaitSettings) (deadline : ℚ) (wait : CoreWait)
    (last : Poll) : Prop :=
  ∃ since, wait.stableSince = some since ∧ settings.stableSeconds ≤ last.now - since ∧
    last.now < deadline

variable {settings : WaitSettings} {deadline now : ℚ} {wait after : CoreWait}
  {trace : List (Event CoreProbe)} {history : List Poll} {snapshot : CoreSnapshot}
  {pending : List String}

theorem CoreWait.assess_passedAt (notYet : wait.passed = false)
    (passed : (wait.assess settings deadline now pending).passed = true) :
    (wait.assess settings deadline now pending).PassedAt settings deadline ⟨snapshot, now⟩ := by
  unfold assess at passed ⊢
  split at passed
  case isTrue => simp [notYet] at passed
  case isFalse settled =>
    rw [if_neg settled]
    dsimp only at passed ⊢
    split at passed
    case isTrue reached =>
      rw [if_pos reached]
      exact ⟨_, rfl, reached⟩
    case isFalse => simp [notYet] at passed

@[simp]
theorem CoreWait.assess_identities :
    (wait.assess settings deadline now pending).identities = wait.identities := by
  unfold assess
  split
  · rfl
  · dsimp only
    split <;> rfl

theorem CoreWait.assess_stableSince :
    (wait.assess settings deadline now pending).stableSince =
      if pending ≠ [] then none else some (wait.stableSince.getD now) := by
  unfold assess
  split
  · rfl
  · dsimp only
    split <;> rfl

theorem CoreWait.Tracks.assess (tracks : wait.Tracks history) (settings : WaitSettings)
    (deadline now : ℚ)
    (unchanged : (trackIdentities snapshot coreServices wait.identities).1 = [])
    (issues : coreIssues snapshot = .ok { pending }) :
    (CoreWait.assess settings deadline now pending { wait with
      snapshot
      identities := (trackIdentities snapshot coreServices wait.identities).2 }).Tracks
      (history ++ [⟨snapshot, now⟩]) := by
  rcases trackIdentities_known unchanged with ⟨kept, found⟩
  constructor
  · intro service core poll member identity identified
    rw [assess_identities]
    rcases List.mem_append.mp member with earlier | latest
    · exact kept service identity (tracks.identities service core poll earlier identity identified)
    · rw [List.mem_singleton] at latest
      subst latest
      exact found service core identity identified
  · intro since
    rw [assess_stableSince]
    split
    case isTrue => simp
    case isFalse settled =>
      rw [ne_eq, not_not] at settled
      subst settled
      have ready : snapshot.Ready := coreIssues_eq_empty_iff.mp issues
      intro sinceWhen
      cases stable : wait.stableSince with
      | none =>
          simp only [stable, Option.getD_none, Option.some.injEq] at sinceWhen
          refine ⟨history, ⟨snapshot, now⟩, [], rfl, sinceWhen, ?_⟩
          simpa using ready
      | some start =>
          simp only [stable, Option.getD_some, Option.some.injEq] at sinceWhen
          rcases tracks.stable start stable with ⟨before, first, window, rfl, rfl, windowReady⟩
          refine ⟨before, first, window ++ [⟨snapshot, now⟩], by simp, sinceWhen, ?_⟩
          intro poll member
          rw [← List.cons_append, List.mem_append, List.mem_singleton] at member
          rcases member with earlier | rfl
          · exact windowReady poll earlier
          · exact ready

@[simp]
theorem runs_readCore_iff {outcome : Except Raised CoreSnapshot} :
    (CoreProbe.readCore deadline).Runs wait trace outcome after ↔
      trace = [⟨.readCore deadline, outcome⟩] ∧ after = wait := by
  simp only [CoreProbe.readCore]
  rw [runs_raising_iff]
  simp

@[simp]
theorem runs_coreMonotonic_iff {outcome : Except Raised ℚ} :
    CoreProbe.monotonic.Runs wait trace outcome after ↔
      ∃ reply, trace = [⟨.monotonic, reply⟩] ∧ outcome = .ok reply ∧ after = wait :=
  runs_call_iff

@[simp]
theorem runs_coreSleep_iff {seconds : ℚ} {outcome : Except Raised Unit} :
    (CoreProbe.sleep seconds).Runs wait trace outcome after ↔
      trace = [⟨.sleep seconds, outcome⟩] ∧ after = wait := by
  simp only [CoreProbe.sleep]
  rw [runs_raising_iff]
  simp

/-- A poll that ends the wait without success, or one whose snapshot is assessed. -/
theorem poll_runs {stop : Bool}
    (runs : (poll settings deadline).Runs wait trace (.ok stop) after) :
    (stop = true ∧ after.passed = wait.passed) ∨
    ∃ snapshot now pending, trace = [⟨.readCore deadline, .ok snapshot⟩, ⟨.monotonic, now⟩] ∧
      coreIssues snapshot = .ok { pending } ∧
      (trackIdentities snapshot coreServices wait.identities).1 = [] ∧
      after = CoreWait.assess settings deadline now pending { wait with
        snapshot
        identities := (trackIdentities snapshot coreServices wait.identities).2 } ∧
      stop = after.passed := by
  simp only [poll, runs_bind_ok_iff, runs_readCore_iff, runs_update_iff, runs_ofExcept_iff,
    runs_state_iff, Except.ok.injEq] at runs
  rcases runs with ⟨_, snapshot, _, _, rfl, ⟨rfl, rfl⟩, _, _, _, _, rfl, ⟨rfl, _, rfl⟩, _, issues,
    _, _, rfl, ⟨rfl, found, rfl⟩, _, _, _, _, rfl, ⟨rfl, rfl, rfl⟩, _, _, _, _, rfl,
    ⟨rfl, _, rfl⟩, runs⟩
  split at runs
  case isTrue =>
    simp only [runs_update_bind_iff, runs_pure_iff, Except.ok.injEq] at runs
    rcases runs with ⟨rfl, rfl, rfl⟩
    exact .inl ⟨rfl, rfl⟩
  case isFalse none =>
    rw [ne_eq, not_not, List.append_eq_nil_iff] at none
    simp only [runs_bind_ok_iff, runs_coreMonotonic_iff, runs_update_iff, runs_state_iff,
      runs_pure_iff, Except.ok.injEq] at runs
    rcases runs with ⟨_, now, _, _, rfl, ⟨_, rfl, rfl, rfl⟩, _, _, _, _, rfl, ⟨rfl, _, rfl⟩, _, _,
      _, _, rfl, ⟨rfl, rfl, rfl⟩, rfl, rfl, rfl⟩
    rcases issues with ⟨fatal, pending⟩
    simp only at none
    rw [none.1] at found
    exact .inr ⟨snapshot, now, pending, rfl, found.symm, none.2, rfl, rfl⟩

theorem poll_raises {error : Raised}
    (runs : (poll settings deadline).Runs wait trace (.error error) after) :
    after.passed = wait.passed := by
  rw [poll, runs_bind_iff] at runs
  rcases runs with ⟨_, _, read⟩ | ⟨_, snapshot, _, _, _, read, runs⟩
  · rw [(runs_readCore_iff.mp read).2]
  · rw [runs_readCore_iff] at read
    rw [runs_update_bind_iff, runs_bind_iff] at runs
    rcases runs with ⟨_, _, found⟩ | ⟨_, issues, _, _, _, found, runs⟩
    · rw [(runs_ofExcept_iff.mp found).2.2, read.2]
    · rw [runs_ofExcept_iff] at found
      rw [runs_state_bind_iff, runs_update_bind_iff] at runs
      split at runs
      case isTrue =>
        rw [runs_update_bind_iff, runs_pure_iff] at runs
        simp at runs
      case isFalse =>
        rw [runs_bind_iff] at runs
        rcases runs with ⟨_, _, clock⟩ | ⟨_, _, _, _, _, _, runs⟩
        · simp at clock
        · rw [runs_update_bind_iff, runs_state_bind_iff, runs_pure_iff] at runs
          simp at runs

/-- A loop that raises has not passed. -/
theorem watch_raises {rounds : ℕ} {error : Raised} (notYet : wait.passed = false)
    (runs : (watch settings deadline rounds).Runs wait trace (.error error) after) :
    after.passed = false := by
  induction rounds generalizing wait trace with
  | zero => exact absurd runs not_runs_unfinished
  | succ rounds ih =>
      rw [watch, runs_bind_iff] at runs
      rcases runs with ⟨_, _, clock⟩ | ⟨_, now, _, _, _, clock, runs⟩
      · simp at clock
      · rcases runs_coreMonotonic_iff.mp clock with ⟨_, _, _, rfl⟩
        split at runs
        case isFalse => simp at runs
        case isTrue =>
          rw [runs_bind_iff] at runs
          rcases runs with ⟨_, _, polled⟩ | ⟨_, stop, middle, _, _, polled, runs⟩
          · rw [poll_raises polled, notYet]
          · cases stop with
            | true => simp at runs
            | false =>
                have middleNotYet : middle.passed = false := by
                  rcases poll_runs polled with ⟨stopped, _⟩ | ⟨_, _, _, _, _, _, _, stopped⟩
                  · exact absurd stopped (by simp)
                  · exact stopped.symm
                simp only [Bool.false_eq_true, if_false] at runs
                rw [runs_bind_iff] at runs
                rcases runs with ⟨_, _, clock⟩ | ⟨_, _, _, _, _, clock, runs⟩
                · simp at clock
                · rcases runs_coreMonotonic_iff.mp clock with ⟨_, _, _, rfl⟩
                  rw [runs_bind_iff] at runs
                  rcases runs with ⟨_, _, slept⟩ | ⟨_, _, _, _, _, slept, runs⟩
                  · rw [(runs_coreSleep_iff.mp slept).2, middleNotYet]
                  · rcases runs_coreSleep_iff.mp slept with ⟨_, rfl⟩
                    exact ih middleNotYet runs

/-- A loop that passes has tracked every poll, and passed at the last one.  Its
last call reads the clock, so what follows adds its own polls only. -/
theorem watch_passes {rounds : ℕ} (tracks : wait.Tracks history) (notYet : wait.passed = false)
    (runs : (watch settings deadline rounds).Runs wait trace (.ok ()) after)
    (passed : after.passed = true) :
    ∃ earlier last, history ++ polls trace = earlier ++ [last] ∧
      after.Tracks (history ++ polls trace) ∧ after.PassedAt settings deadline last ∧
      coreReads trace = (polls trace).map (fun poll => .ok poll.snapshot) ∧
      ∀ rest, polls (trace ++ rest) = polls trace ++ polls rest := by
  induction rounds generalizing wait trace history with
  | zero => exact absurd runs not_runs_unfinished
  | succ rounds ih =>
      rw [watch, runs_bind_ok_iff] at runs
      rcases runs with ⟨_, _, _, _, rfl, clock, runs⟩
      rcases runs_coreMonotonic_iff.mp clock with ⟨_, rfl, _, rfl⟩
      split at runs
      case isFalse =>
        simp only [runs_pure_iff] at runs
        rcases runs with ⟨rfl, _, rfl⟩
        simp [notYet] at passed
      case isTrue =>
        rw [runs_bind_ok_iff] at runs
        rcases runs with ⟨_, stop, middle, _, rfl, polled, runs⟩
        rcases poll_runs polled with ⟨rfl, unchanged⟩ |
          ⟨snapshot, now, pending, rfl, issues, unchanged, rfl, rfl⟩
        · simp only [if_true, runs_pure_iff] at runs
          rcases runs with ⟨rfl, _, rfl⟩
          rw [unchanged, notYet] at passed
          exact absurd passed (by simp)
        · have middleTracks := tracks.assess settings deadline now unchanged issues
          split at runs
          case isTrue stopped =>
            simp only [runs_pure_iff] at runs
            rcases runs with ⟨rfl, _, rfl⟩
            refine ⟨history, ⟨snapshot, now⟩, by simp, by simpa using middleTracks, ?_,
              by simp [coreReads], by simp⟩
            exact CoreWait.assess_passedAt notYet stopped
          case isFalse unstopped =>
            simp only [runs_bind_ok_iff, runs_coreMonotonic_iff, runs_coreSleep_iff] at runs
            rcases runs with ⟨_, _, _, _, rfl, ⟨_, rfl, _, rfl⟩, _, _, _, _, rfl, ⟨rfl, rfl⟩, runs⟩
            rcases ih middleTracks (by simpa using unstopped) runs with
              ⟨earlier, last, split, tracked, passedAt, complete, separate⟩
            refine ⟨earlier, last, ?_, ?_, passedAt, ?_, ?_⟩
            · simpa using split
            · simpa using tracked
            · simpa [coreReads] using complete
            · simpa using separate

theorem guardedWatch_passes {rounds : ℕ} {outcome : Except Raised Unit}
    (runs : (guardedWatch settings deadline rounds).Runs {} trace outcome after)
    (passed : after.passed = true) :
    ∃ earlier last, polls trace = earlier ++ [last] ∧ after.Tracks (polls trace) ∧
      after.PassedAt settings deadline last ∧
      coreReads trace = (polls trace).map (fun poll => .ok poll.snapshot) ∧
      ∀ rest, polls (trace ++ rest) = polls trace ++ polls rest := by
  have empty : ({} : CoreWait).Tracks [] := ⟨by simp, by simp⟩
  rw [guardedWatch, runs_bind_iff] at runs
  rcases runs with ⟨_, _, attempted⟩ | ⟨first, ended, middle, rest, rfl, attempted, runs⟩
  · simp at attempted
  · rw [runs_attempt_iff] at attempted
    rcases attempted with ⟨_, same, watched⟩
    rw [Except.ok.injEq] at same
    subst same
    cases ended with
    | ok _ =>
        simp only [runs_pure_iff] at runs
        rcases runs with ⟨rfl, _, rfl⟩
        simpa using watch_passes empty rfl watched passed
    | error error =>
        have notPassed := watch_raises rfl watched
        dsimp only at runs
        split at runs
        case isTrue =>
          rw [runs_update_iff] at runs
          rcases runs with ⟨_, _, rfl⟩
          simp [notPassed] at passed
        case isFalse =>
          rw [runs_raise_iff] at runs
          rcases runs with ⟨_, _, rfl⟩
          simp [notPassed] at passed

/-- What the polls of a wait that passed have seen, when the deadline is known:
a window of ready snapshots, long enough and before the deadline, and no service
with two identities. -/
structure StableCore (settings : WaitSettings) (deadline : ℚ) (polls : List Poll) : Prop where
  window : ∃ i j first last, i ≤ j ∧ j + 1 = polls.length ∧
    polls[i]? = some first ∧ polls[j]? = some last ∧
    settings.stableSeconds ≤ last.now - first.now ∧ last.now < deadline ∧
    ∀ k poll, i ≤ k → polls[k]? = some poll → poll.snapshot.Ready
  identities : ∀ service ∈ coreServices, ∀ first ∈ polls, ∀ second ∈ polls,
    ∀ identity identity', first.snapshot.identity service = some identity →
      second.snapshot.identity service = some identity' → identity = identity'

theorem stableCore_of_passedAt {earlier : List Poll} {last : Poll}
    (tracks : wait.Tracks (earlier ++ [last])) (passedAt : wait.PassedAt settings deadline last) :
    StableCore settings deadline (earlier ++ [last]) := by
  rcases passedAt with ⟨since, sinceWhen, long, inTime⟩
  rcases tracks.stable since sinceWhen with ⟨before, first, window, split, rfl, ready⟩
  constructor
  · refine ⟨before.length, earlier.length, first, last, ?_, by simp, by simp [split], by simp, long,
      inTime, ?_⟩
    · have lengths := congrArg List.length split
      simp only [List.length_append, List.length_cons, List.length_nil] at lengths
      omega
    · intro k poll after found
      rw [split, List.getElem?_append_right after] at found
      exact ready poll (List.mem_of_getElem? found)
  · intro service core first firstMember second secondMember identity identity' running running'
    have known := tracks.identities service core first firstMember identity running
    have known' := tracks.identities service core second secondMember identity' running'
    exact Option.some.inj (known.symm.trans known')

/-- A wait that passes has seen a stable core: its deadline is counted from the
first reading of the clock, and every read of the core is one of its polls. -/
theorem waitCoreReady_sound (settings : WaitSettings) (rounds : ℕ)
    (trace : List (Event CoreProbe)) (result : ReadinessResult) (after : CoreWait)
    (runs : (waitCoreReady settings rounds).Runs {} trace (.ok result) after)
    (passed : result.passed = true) :
    ∃ started rest, trace = ⟨.monotonic, started⟩ :: rest ∧
      coreReads trace = (polls trace).map (fun poll => .ok poll.snapshot) ∧
      StableCore settings (started + settings.timeout) (polls trace) := by
  rw [waitCoreReady] at runs
  split at runs
  case isTrue => simp at runs
  case isFalse =>
    simp only [runs_bind_ok_iff, runs_coreMonotonic_iff, runs_state_iff, runs_pure_iff,
      Except.ok.injEq] at runs
    rcases runs with
      ⟨_, started, _, _, rfl, ⟨_, rfl, rfl, rfl⟩, watched, _, waited, _, rfl, guarded,
      _, finished, _, _, rfl, ⟨_, rfl, rfl, rfl⟩, _, _, _, _, rfl, ⟨rfl, rfl, rfl⟩, rfl, rfl, rfl⟩
    rcases guardedWatch_passes guarded passed with
      ⟨earlier, last, split, tracks, passedAt, complete, separate⟩
    have watchedPolls :
        polls ([⟨.monotonic, started⟩] ++ (watched ++ ([⟨.monotonic, finished⟩] ++ ([] ++ [])))) =
          polls watched := by
      simp [separate]
    refine ⟨started, _, rfl, ?_, ?_⟩
    · rw [watchedPolls, ← complete]
      simp [coreReads]
    · rw [watchedPolls, split]
      rw [split] at tracks
      exact stableCore_of_passedAt tracks passedAt

/-- A poll whose snapshot has no fatal issue. -/
theorem runs_poll (issues : coreIssues snapshot = .ok { pending })
    (unchanged : (trackIdentities snapshot coreServices wait.identities).1 = [])
    (assessed : after = CoreWait.assess settings deadline now pending { wait with
      snapshot
      identities := (trackIdentities snapshot coreServices wait.identities).2 }) :
    (poll settings deadline).Runs wait [⟨.readCore deadline, .ok snapshot⟩, ⟨.monotonic, now⟩]
      (.ok after.passed) after := by
  subst after
  rw [poll, runs_bind_iff]
  refine .inr ⟨[⟨.readCore deadline, .ok snapshot⟩], snapshot, wait, [⟨.monotonic, now⟩], rfl,
    runs_readCore_iff.mpr ⟨rfl, rfl⟩, ?_⟩
  rw [runs_update_bind_iff, runs_bind_iff]
  refine .inr ⟨[], { pending }, _, _, rfl, runs_ofExcept_iff.mpr ⟨rfl, issues.symm, rfl⟩, ?_⟩
  rw [runs_state_bind_iff, runs_update_bind_iff, if_neg (by simp [unchanged]), runs_bind_iff]
  refine .inr ⟨_, now, _, [], rfl, runs_coreMonotonic_iff.mpr ⟨now, rfl, rfl, rfl⟩, ?_⟩
  rw [runs_update_bind_iff, runs_state_bind_iff]
  exact runs_pure_iff.mpr ⟨rfl, rfl, rfl⟩

/-- The calls of a round of the loop, with a clock that stands still in between. -/
def roundTrace (settings : WaitSettings) (deadline now : ℚ) (snapshot : CoreSnapshot) :
    List (Event CoreProbe) :=
  [⟨.monotonic, now⟩, ⟨.readCore deadline, .ok snapshot⟩, ⟨.monotonic, now⟩, ⟨.monotonic, now⟩,
    ⟨.sleep (min settings.interval (max 0 (deadline - now))), .ok ()⟩]

theorem runs_watch_again {rounds : ℕ} {middle : CoreWait} {outcome : Except Raised Unit}
    (inTime : now < deadline)
    (polled : (poll settings deadline).Runs wait
      [⟨.readCore deadline, .ok snapshot⟩, ⟨.monotonic, now⟩] (.ok middle.passed) middle)
    (notYet : middle.passed = false)
    (rest : (watch settings deadline rounds).Runs middle trace outcome after) :
    (watch settings deadline (rounds + 1)).Runs wait
      (roundTrace settings deadline now snapshot ++ trace) outcome after := by
  rw [watch, runs_bind_iff]
  refine .inr ⟨[⟨.monotonic, now⟩], now, wait, _, rfl, runs_coreMonotonic_iff.mpr (by simp), ?_⟩
  rw [if_pos inTime, runs_bind_iff]
  refine .inr ⟨_, _, middle, _, rfl, polled, ?_⟩
  rw [if_neg (by simp [notYet]), runs_bind_iff]
  refine .inr ⟨[⟨.monotonic, now⟩], now, middle, _, rfl, runs_coreMonotonic_iff.mpr (by simp), ?_⟩
  rw [runs_bind_iff]
  exact .inr ⟨_, (), middle, trace, rfl, runs_coreSleep_iff.mpr ⟨rfl, rfl⟩, rest⟩

theorem runs_watch_stop {rounds : ℕ} (inTime : now < deadline)
    (polled : (poll settings deadline).Runs wait
      [⟨.readCore deadline, .ok snapshot⟩, ⟨.monotonic, now⟩] (.ok after.passed) after)
    (passed : after.passed = true) :
    (watch settings deadline (rounds + 1)).Runs wait
      [⟨.monotonic, now⟩, ⟨.readCore deadline, .ok snapshot⟩, ⟨.monotonic, now⟩]
        (.ok ()) after := by
  rw [watch, runs_bind_iff]
  refine .inr ⟨[⟨.monotonic, now⟩], now, wait, _, rfl, runs_coreMonotonic_iff.mpr (by simp), ?_⟩
  rw [if_pos inTime, runs_bind_iff]
  refine .inr ⟨_, _, after, [], rfl, polled, ?_⟩
  rw [if_pos passed]
  exact runs_pure_iff.mpr ⟨rfl, rfl, rfl⟩

/-- The log of a network function that is up. -/
def steadyLog (service : String) : String :=
  Text.upper service ++ " initialize...done" ++
    (if service ∈ ["nrf", "upf"] then "" else "NF registered [Heartbeat:") ++
    if service ∈ ["smf", "upf"] then "PFCP associated" else ""

/-- The core with every service running as the container of its name. -/
def steadyCore : CoreSnapshot where
  containers :=
    (.string "log-init",
      ⟨.string "log-init", .null, .string "exited", .null, .int 0, .int 0, .null⟩) ::
      coreServices.map fun service => (.string service,
        ⟨.string service, .null, .string "running", .string "T0", .int 0, .int 0,
          .string "healthy"⟩)
  logs := open5gsNfs.map fun service => (service, steadyLog service)

/-- The core while another container of the AMF has been created: it stands in the
place of the first one, and has not logged anything. -/
def replacedCore : CoreSnapshot where
  containers := steadyCore.containers.map fun entry =>
    if entry.1 = .string "amf" then (.string "amf",
      ⟨.string "other", .null, .string "created", .string "0001-01-01T00:00:00Z", .int 0, .int 0,
        .null⟩)
    else entry
  logs := steadyCore.logs.filter fun entry => entry.1 ≠ "amf"

theorem coreIssues_steadyCore : coreIssues steadyCore = .ok {} := by decide +kernel

theorem coreIssues_replacedCore :
    ∃ pending, coreIssues replacedCore = .ok { pending } ∧ pending ≠ [] := by
  have fatal : (coreIssues replacedCore).map CoreIssues.fatal = .ok [] := by decide +kernel
  have pending : (coreIssues replacedCore).map CoreIssues.pending ≠ .ok [] := by decide +kernel
  cases issues : coreIssues replacedCore with
  | error error => simp [issues, Except.map] at fatal
  | ok found =>
      rcases found with ⟨fatal', pending'⟩
      simp only [issues, Except.map, Except.ok.injEq, ne_eq] at fatal pending
      subst fatal
      exact ⟨pending', rfl, pending⟩

theorem CoreWait.assess_passed :
    (wait.assess settings deadline now pending).passed =
      (wait.passed || decide (pending = [] ∧
        settings.stableSeconds ≤ now - wait.stableSince.getD now ∧ now < deadline)) := by
  unfold assess
  split
  case isTrue some => simp [some]
  case isFalse none =>
    rw [ne_eq, not_not] at none
    dsimp only
    split
    case isTrue reached => simp [none, reached]
    case isFalse unreached => simp [none, unreached]

/-- The wait after polls without fatal issues, the last one first. -/
def waitAfter (settings : WaitSettings) (deadline : ℚ) : List (Poll × List String) → CoreWait
  | [] => {}
  | (poll, pending) :: earlier =>
      let wait := waitAfter settings deadline earlier
      CoreWait.assess settings deadline poll.now pending { wait with
        snapshot := poll.snapshot
        identities := (trackIdentities poll.snapshot coreServices wait.identities).2 }

/-- The identities known after snapshots, the last one first. -/
def identitiesAfter : List CoreSnapshot → List (String × CoreIdentity)
  | [] => []
  | snapshot :: earlier => (trackIdentities snapshot coreServices (identitiesAfter earlier)).2

theorem waitAfter_identities {polled : List (Poll × List String)} :
    (waitAfter settings deadline polled).identities =
      identitiesAfter (polled.map fun entry => entry.1.snapshot) := by
  induction polled with
  | nil => rfl
  | cons entry polled ih => simp [waitAfter, identitiesAfter, ih]

/-- The loop of a wait whose second snapshot shows the other container. -/
def disturbedWatch : List (Event CoreProbe) :=
  roundTrace ⟨5, 1, 1⟩ 5 0 steadyCore ++ (roundTrace ⟨5, 1, 1⟩ 5 1 replacedCore ++
    (roundTrace ⟨5, 1, 1⟩ 5 2 steadyCore ++
      [⟨.monotonic, 3⟩, ⟨.readCore 5, .ok steadyCore⟩, ⟨.monotonic, 3⟩]))

def disturbedTrace : List (Event CoreProbe) :=
  ⟨.monotonic, 0⟩ :: (disturbedWatch ++ [⟨.monotonic, 3⟩])

theorem watch_disturbed :
    ∃ after : CoreWait, after.passed = true ∧
      (watch ⟨5, 1, 1⟩ 5 4).Runs {} disturbedWatch (.ok ()) after := by
  rcases coreIssues_replacedCore with ⟨pending, replaced, some⟩
  let first : List (Poll × List String) := [(⟨steadyCore, 0⟩, [])]
  let second : List (Poll × List String) := (⟨replacedCore, 1⟩, pending) :: first
  let third : List (Poll × List String) := (⟨steadyCore, 2⟩, []) :: second
  let fourth : List (Poll × List String) := (⟨steadyCore, 3⟩, []) :: third
  have polledFirst : (poll ⟨5, 1, 1⟩ 5).Runs {} [⟨.readCore 5, .ok steadyCore⟩, ⟨.monotonic, 0⟩]
      (.ok (waitAfter ⟨5, 1, 1⟩ 5 first).passed) (waitAfter ⟨5, 1, 1⟩ 5 first) :=
    runs_poll coreIssues_steadyCore (by decide +kernel) rfl
  have polledSecond : (poll ⟨5, 1, 1⟩ 5).Runs (waitAfter ⟨5, 1, 1⟩ 5 first)
      [⟨.readCore 5, .ok replacedCore⟩, ⟨.monotonic, 1⟩]
      (.ok (waitAfter ⟨5, 1, 1⟩ 5 second).passed) (waitAfter ⟨5, 1, 1⟩ 5 second) :=
    runs_poll replaced (by rw [waitAfter_identities]; decide +kernel) rfl
  have polledThird : (poll ⟨5, 1, 1⟩ 5).Runs (waitAfter ⟨5, 1, 1⟩ 5 second)
      [⟨.readCore 5, .ok steadyCore⟩, ⟨.monotonic, 2⟩]
      (.ok (waitAfter ⟨5, 1, 1⟩ 5 third).passed) (waitAfter ⟨5, 1, 1⟩ 5 third) :=
    runs_poll coreIssues_steadyCore (by
      rw [waitAfter_identities]
      change (trackIdentities steadyCore coreServices
        (identitiesAfter [replacedCore, steadyCore])).1 = []
      decide +kernel) rfl
  have polledFourth : (poll ⟨5, 1, 1⟩ 5).Runs (waitAfter ⟨5, 1, 1⟩ 5 third)
      [⟨.readCore 5, .ok steadyCore⟩, ⟨.monotonic, 3⟩]
      (.ok (waitAfter ⟨5, 1, 1⟩ 5 fourth).passed) (waitAfter ⟨5, 1, 1⟩ 5 fourth) :=
    runs_poll coreIssues_steadyCore (by
      rw [waitAfter_identities]
      change (trackIdentities steadyCore coreServices
        (identitiesAfter [steadyCore, replacedCore, steadyCore])).1 = []
      decide +kernel) rfl
  have passedFirst : (waitAfter ⟨5, 1, 1⟩ 5 first).passed = false := by
    simp only [first, waitAfter, CoreWait.assess_passed]
    decide +kernel
  have passedSecond : (waitAfter ⟨5, 1, 1⟩ 5 second).passed = false := by
    simp [second, waitAfter, CoreWait.assess_passed, passedFirst, some]
  have stableSecond : (waitAfter ⟨5, 1, 1⟩ 5 second).stableSince = none := by
    simp [second, waitAfter, CoreWait.assess_stableSince, some]
  have passedThird : (waitAfter ⟨5, 1, 1⟩ 5 third).passed = false := by
    simp only [third, waitAfter, CoreWait.assess_passed, passedSecond, stableSecond]
    decide +kernel
  have stableThird : (waitAfter ⟨5, 1, 1⟩ 5 third).stableSince = Option.some 2 := by
    simp [third, waitAfter, CoreWait.assess_stableSince, stableSecond]
  have passedFourth : (waitAfter ⟨5, 1, 1⟩ 5 fourth).passed = true := by
    simp only [fourth, waitAfter, CoreWait.assess_passed, passedThird, stableThird]
    decide +kernel
  refine ⟨waitAfter ⟨5, 1, 1⟩ 5 fourth, passedFourth, ?_⟩
  refine runs_watch_again (by decide) polledFirst passedFirst ?_
  refine runs_watch_again (by decide) polledSecond passedSecond ?_
  refine runs_watch_again (by decide) polledThird passedThird ?_
  exact runs_watch_stop (by decide) polledFourth passedFourth

/-- The disturbed wait passes. -/
theorem waitCoreReady_disturbed :
    ∃ result after, (waitCoreReady ⟨5, 1, 1⟩ 4).Runs {} disturbedTrace (.ok result) after ∧
      result.passed = true := by
  rcases watch_disturbed with ⟨after, passed, watched⟩
  refine ⟨⟨after.passed, after.detail, roundMillis (3 - 0), after.snapshot⟩, after, ?_, passed⟩
  have deadline : (0 : ℚ) + (5 : ℤ) = 5 := by decide +kernel
  rw [waitCoreReady, if_neg (by decide), runs_bind_iff]
  refine .inr ⟨[⟨.monotonic, 0⟩], 0, {}, _, rfl, runs_coreMonotonic_iff.mpr (by simp), ?_⟩
  rw [runs_bind_iff]
  refine .inr ⟨disturbedWatch, (), after, [⟨.monotonic, 3⟩], rfl, ?_, ?_⟩
  · rw [guardedWatch, runs_bind_iff]
    refine .inr ⟨_, .ok (), after, [], (List.append_nil _).symm, ?_, runs_pure_iff.mpr (by simp)⟩
    rw [runs_attempt_iff, deadline]
    exact ⟨.ok (), rfl, watched⟩
  · rw [runs_bind_iff]
    refine .inr ⟨[⟨.monotonic, 3⟩], 3, after, [], rfl, runs_coreMonotonic_iff.mpr (by simp), ?_⟩
    exact runs_pure_iff.mpr (by simp)

/-- Every service shows, in every poll after one in which it ran, the identity
that it had there. -/
def ShownThroughout (polls : List Poll) : Prop :=
  ∀ service ∈ coreServices, ∀ (k l : ℕ) (first later : Poll) (identity : CoreIdentity), k ≤ l →
    polls[k]? = some first → polls[l]? = some later →
      first.snapshot.identity service = some identity →
        (later.snapshot.container service).map CoreContainer.identity = some identity

theorem polls_disturbedTrace :
    polls disturbedTrace =
      [⟨steadyCore, 0⟩, ⟨replacedCore, 1⟩, ⟨steadyCore, 2⟩, ⟨steadyCore, 3⟩] := by
  rfl

/-- A wait passes although a service showed another identity in between. -/
theorem not_shownThroughout :
    ∃ result after, (waitCoreReady ⟨5, 1, 1⟩ 4).Runs {} disturbedTrace (.ok result) after ∧
      (clockReadings disturbedTrace).Pairwise (· ≤ ·) ∧ result.passed = true ∧
      ¬ShownThroughout (polls disturbedTrace) := by
  rcases waitCoreReady_disturbed with ⟨result, after, runs, passed⟩
  refine ⟨result, after, runs, ?_, passed, ?_⟩
  · change List.Pairwise (· ≤ ·) ([0, 0, 0, 0, 1, 1, 1, 2, 2, 2, 3, 3, 3] : List ℚ)
    decide
  · intro shown
    have amf := shown "amf" (by decide) 0 1 _ _ (.string "amf", .string "T0") (by decide)
      (by rw [polls_disturbedTrace]; rfl) (by rw [polls_disturbedTrace]; rfl) (by decide +kernel)
    exact absurd amf (by decide +kernel)

theorem waitCoreReady_sound_disturbed :
    ∃ started rest, disturbedTrace = ⟨.monotonic, started⟩ :: rest ∧
      StableCore ⟨5, 1, 1⟩ (started + (5 : ℤ))
        [⟨steadyCore, 0⟩, ⟨replacedCore, 1⟩, ⟨steadyCore, 2⟩, ⟨steadyCore, 3⟩] := by
  rcases waitCoreReady_disturbed with ⟨result, after, runs, passed⟩
  rcases waitCoreReady_sound ⟨5, 1, 1⟩ 4 disturbedTrace result after runs passed with
    ⟨started, rest, split, _, stable⟩
  rw [← polls_disturbedTrace]
  exact ⟨started, rest, split, stable⟩

end FivegLab
