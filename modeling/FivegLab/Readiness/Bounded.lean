import FivegLab.JsonDecoder
import FivegLab.Orchestration.Baseline
import FivegLab.Program.Conclude
import FivegLab.Readiness.Stability
import Mathlib.Data.Rat.Floor
import Mathlib.Tactic.Linarith

/-!
# How long the waits take

On a clock that advances by a sleep exactly, and by a command no more than its
time limit, both waits end soon after their deadlines.  Their loops poll and
sleep: every round either sleeps a whole interval or reaches the deadline, so
the number of intervals that remain decreases.
-/

namespace FivegLab

open Routine Host

/-- The clock while the host answers.  A command takes at most the time it was given;
an interrupted sleep is shorter. -/
def hostClock : Answers Host ℚ := fun now op reply later =>
  match op, reply with
  | .monotonic, reading => reading = now ∧ later = now
  | .sleep seconds, .ok () => later = now + seconds
  | .sleep seconds, .error _ => now ≤ later ∧ later ≤ now + seconds
  | .spawn _ _ timeout, _ => now ≤ later ∧ later ≤ now + timeout
  | .subprocess _ timeout, _ => now ≤ later ∧ later ≤ now + timeout
  | _, _ => later = now

/-- The rounds of a loop that sleeps an interval after each of them. -/
def roundsLeft (interval remaining : ℚ) : ℕ := ⌈remaining / interval⌉.toNat

theorem roundsLeft_pos {interval remaining : ℚ} (positive : 0 < interval)
    (remains : 0 < remaining) : 0 < roundsLeft interval remaining := by
  have quotient : 0 < remaining / interval := div_pos remains positive
  have ceiling : 0 < ⌈remaining / interval⌉ := Int.ceil_pos.mpr quotient
  unfold roundsLeft
  omega

/-- A sleep that is cut at the deadline leaves fewer rounds. -/
theorem roundsLeft_sleep {interval now later deadline : ℚ} (positive : 0 < interval)
    (before : now < deadline) (advanced : now ≤ later) :
    roundsLeft interval (deadline - (later + min interval (max 0 (deadline - later)))) <
      roundsLeft interval (deadline - now) := by
  have remains : 0 < roundsLeft interval (deadline - now) :=
    roundsLeft_pos positive (sub_pos.mpr before)
  unfold roundsLeft at remains ⊢
  rcases le_total (deadline - later) interval with short | long
  · have reached : deadline - (later + min interval (max 0 (deadline - later))) ≤ 0 := by
      rcases le_total 0 (deadline - later) with ahead | passed
      · rw [max_eq_right ahead, min_eq_right short]
        linarith
      · rw [max_eq_left passed, min_eq_right positive.le]
        linarith
    have quotient := div_nonpos_of_nonpos_of_nonneg reached positive.le
    have ceiling :
        ⌈(deadline - (later + min interval (max 0 (deadline - later)))) / interval⌉ ≤ 0 :=
      Int.ceil_le.mpr (by simpa using quotient)
    omega
  · have slept : min interval (max 0 (deadline - later)) = interval := by
      rw [max_eq_right (positive.le.trans long), min_eq_left long]
    have quotient : (deadline - (later + interval)) / interval ≤
        (deadline - now) / interval - 1 := by
      rw [div_sub_one positive.ne', div_le_div_iff_of_pos_right positive]
      linarith
    have ceiling := Int.ceil_mono quotient
    rw [Int.ceil_sub_one] at ceiling
    rw [slept]
    omega

/-- A sleep that is cut at the deadline does not go on past it. -/
theorem sleep_lt {interval later deadline extra : ℚ} (positive : 0 < interval) (slack : 0 < extra)
    (soon : later < deadline + extra) :
    later + min interval (max 0 (deadline - later)) < deadline + extra := by
  rcases le_total 0 (deadline - later) with ahead | passed
  · have short := min_le_right interval (max 0 (deadline - later))
    rw [max_eq_right ahead] at short ⊢
    linarith
  · rw [max_eq_left passed, min_eq_right positive.le]
    linarith

theorem readTimeout_lt {remaining : ℚ} (remains : 0 < remaining) :
    (readTimeout remaining : ℚ) < remaining + 1 := by
  have positive : 0 < remaining.ceil := Rat.lt_ceil_iff.mpr (by simpa using remains)
  have limit : (readTimeout remaining : ℤ) ≤ remaining.ceil := by
    unfold readTimeout
    omega
  have near : (remaining.ceil : ℚ) < remaining + 1 := Rat.ceil_lt
  have cast : ((readTimeout remaining : ℤ) : ℚ) ≤ remaining.ceil := Int.cast_le.mpr limit
  rw [Int.cast_natCast] at cast
  exact cast.trans_lt near

section

variable {now : ℚ}

theorem concludes_monotonic {post : Except Raised ℚ → List (Event Host) → ℚ → Prop}
    (holds : post (.ok now) [⟨.monotonic, now⟩] now) :
    monotonic.Concludes hostClock now post := by
  refine concludes_call (I := Host) .monotonic ?_
  rintro reading _ ⟨rfl, rfl⟩
  exact holds

theorem concludes_spawn {args : List String} {environment : List (String × String)} {timeout : ℕ}
    {post : Except Raised ProcessEnd → List (Event Host) → ℚ → Prop}
    (holds : ∀ ended later, now ≤ later → later ≤ now + timeout →
      post (.ok ended) [⟨.spawn args environment timeout, ended⟩] later) :
    (spawn args environment timeout).Concludes hostClock now post := by
  refine concludes_call (I := Host) (.spawn args environment timeout) ?_
  rintro ended later ⟨advanced, takes⟩
  exact holds ended later advanced takes

/-- No command is run. -/
def Silent (trace : List (Event Host)) : Prop :=
  ∀ event ∈ trace, ∀ args environment timeout, event.op ≠ .spawn args environment timeout

theorem concludes_pause {seconds : ℚ} {post : Except Raised Unit → List (Event Host) → ℚ → Prop}
    (slept : ∀ trace, Silent trace → post (.ok ()) trace (now + seconds))
    (interrupted : ∀ error trace later, Silent trace → now ≤ later → later ≤ now + seconds →
      post (.error error) trace later) :
    (pause seconds).Concludes hostClock now post := by
  refine concludes_bind (concludes_call (I := Host) (.sleep seconds) ?_)
  rintro (error | _) later takes
  · exact concludes_raise (interrupted error _ later (by simp [Silent]) takes.1 takes.2)
  · obtain rfl : later = now + seconds := takes
    exact concludes_pure (slept _ (by simp [Silent]))

/-- A sleep takes its time, or raises an exception before. -/
theorem concludes_sleep {seconds : ℚ} {post : Except Raised Unit → List (Event Host) → ℚ → Prop}
    (slept : ∀ trace, Silent trace → post (.ok ()) trace (now + seconds))
    (raised : ∀ error trace later, Silent trace → now ≤ later →
      (0 ≤ seconds → later ≤ now + seconds) → post (.error error) trace later) :
    (sleep seconds).Concludes hostClock now post := by
  have refused : ∀ error, post (.error error) [] now := by
    intro error
    exact raised error [] now (by simp [Silent]) le_rfl fun positive => by linarith
  unfold sleep
  split
  case isTrue => exact concludes_raise (refused _)
  case isFalse =>
    split
    case isTrue => exact concludes_raise (refused _)
    case isFalse =>
      refine concludes_pause slept ?_
      intro error trace later silent advanced takes
      exact raised error trace later silent advanced fun _ => takes

end

/-- A part of a reading of the core does not end a second after the deadline, or
later, if it did not begin then. -/
def EndsSoon (deadline now : ℚ) {α : Type} : Except Raised α → List (Event Host) → ℚ → Prop :=
  fun _ _ later => now ≤ later ∧ (now < deadline + 1 → later < deadline + 1)

theorem endsSoon_refl {deadline now : ℚ} {α : Type} {ended : Except Raised α}
    {trace : List (Event Host)} : EndsSoon deadline now ended trace now :=
  ⟨le_rfl, id⟩

/-- Parts that end soon make a whole that ends soon. -/
theorem concludes_bind_soon {α β : Type} {deadline now : ℚ} {first : HostM α}
    {next : α → HostM β} (ends : first.Concludes hostClock now (EndsSoon deadline now))
    (continues : ∀ value middle,
      (next value).Concludes hostClock middle (EndsSoon deadline middle)) :
    (first >>= next).Concludes hostClock now (EndsSoon deadline now) := by
  refine concludes_bind (ends.mono ?_)
  rintro (error | value) trace middle ⟨advanced, soon⟩
  · exact ⟨advanced, soon⟩
  · refine (continues value middle).mono ?_
    rintro ended rest later ⟨more, soonLater⟩
    exact ⟨advanced.trans more, fun early => soonLater (soon early)⟩

theorem execute_soon {deadline now : ℚ} (args : List String) (ahead : 0 < deadline - now) :
    (execute args (readTimeout (deadline - now))).Concludes hostClock now
      (EndsSoon deadline now) := by
  refine concludes_bind (concludes_spawn ?_)
  intro ended later advanced takes
  have limit := readTimeout_lt ahead
  exact concludes_ofExcept ⟨advanced, fun _ => by linarith⟩

theorem readCommand_soon (deadline now : ℚ) (values : List Json) :
    (readCommand deadline values).Concludes hostClock now (EndsSoon deadline now) := by
  refine concludes_bind (concludes_monotonic ?_)
  dsimp only
  split
  case isTrue => exact concludes_raise endsSoon_refl
  case isFalse ahead =>
    refine concludes_bind (concludes_ofExcept ?_)
    cases commandArguments values with
    | error error => exact endsSoon_refl
    | ok args =>
        refine concludes_bind_soon (execute_soon args (not_le.mp ahead)) ?_
        intro result middle
        split
        case isTrue => exact concludes_raise endsSoon_refl
        case isFalse => exact concludes_pure endsSoon_refl

theorem readLog_soon (deadline now : ℚ) (service : Json) (container : CoreContainer) :
    (readLog deadline service container).Concludes hostClock now (EndsSoon deadline now) := by
  unfold readLog
  split
  · exact concludes_pure endsSoon_refl
  · refine concludes_bind_soon (readCommand_soon _ _ _) ?_
    intro output middle
    exact concludes_pure endsSoon_refl

theorem readContainers_soon (deadline now : ℚ) (inspected : List Json) (snapshot : CoreSnapshot) :
    (readContainers deadline inspected snapshot).Concludes hostClock now
      (EndsSoon deadline now) := by
  induction inspected generalizing snapshot now with
  | nil => exact concludes_pure endsSoon_refl
  | cons container rest ih =>
      refine concludes_bind_soon (concludes_ofExcept endsSoon_refl) ?_
      rintro ⟨service, container⟩ middle
      refine concludes_bind_soon (readLog_soon deadline middle service container) ?_
      intro log later
      exact ih later _

variable [JsonLibrary]

/-- A reading of the core ends soon, whatever its commands print. -/
theorem readCore_soon (deadline now : ℚ) :
    (readCore deadline).Concludes hostClock now (EndsSoon deadline now) := by
  refine concludes_bind_soon (readCommand_soon _ _ _) ?_
  intro ids middle
  split
  · exact concludes_pure endsSoon_refl
  · refine concludes_bind_soon (readCommand_soon _ _ _) ?_
    intro text later
    refine concludes_bind_soon (concludes_ofExcept endsSoon_refl) ?_
    intro loaded later
    refine concludes_bind_soon (concludes_ofExcept endsSoon_refl) ?_
    intro containers later
    exact readContainers_soon deadline later containers {}

/-- The clock while the host serves the wait. -/
def coreClock : Answers CoreProbe ℚ := coreProbeOnHost.serving hostClock

theorem coreProbeOnHost_concludes (op : CoreProbeOp) (now : ℚ) :
    (coreProbeOnHost op).Concludes hostClock now fun _ _ _ => True := by
  cases op with
  | monotonic =>
      exact Program.concludes_call fun reading later _ => Program.concludes_done trivial
  | sleep seconds =>
      exact concludes_ending (concludes_sleep (fun _ _ => trivial) fun _ _ _ _ _ _ => trivial)
  | readCore deadline =>
      exact concludes_ending ((readCore_soon deadline now).mono fun _ _ _ _ => trivial)

section

variable {now : ℚ}

theorem concludes_coreMonotonic {post : Except Raised ℚ → List (Event CoreProbe) → ℚ → Prop}
    (holds : post (.ok now) [⟨.monotonic, now⟩] now) :
    CoreProbe.monotonic.Concludes coreClock now post := by
  refine concludes_call (I := CoreProbe) .monotonic ?_
  rintro reading later ⟨trace, runs, admits⟩
  have clock : (Program.call (I := Host) .monotonic .done).Concludes hostClock now
      fun reading _ later => reading = now ∧ later = now :=
    Program.concludes_call fun reading later answer => Program.concludes_done answer
  rcases clock.ends runs admits with ⟨rfl, rfl⟩
  exact holds

theorem concludes_coreSleep {seconds : ℚ}
    {post : Except Raised Unit → List (Event CoreProbe) → ℚ → Prop} (positive : 0 ≤ seconds)
    (slept : post (.ok ()) [⟨.sleep seconds, .ok ()⟩] (now + seconds))
    (raised : ∀ error later, now ≤ later → later ≤ now + seconds →
      post (.error error) [⟨.sleep seconds, .error error⟩] later) :
    (CoreProbe.sleep seconds).Concludes coreClock now post := by
  refine concludes_bind (concludes_call (I := CoreProbe) (.sleep seconds) ?_)
  rintro ended later ⟨trace, runs, admits⟩
  have takes : (sleep seconds).ending.Concludes hostClock now fun ended _ later =>
      now ≤ later ∧ later ≤ now + seconds ∧ (ended = .ok () → later = now + seconds) :=
    concludes_ending (concludes_sleep (fun _ _ => ⟨by linarith, le_rfl, fun _ => rfl⟩)
      fun error _ later _ advanced limit => ⟨advanced, limit positive, by simp⟩)
  rcases takes.ends runs admits with ⟨advanced, limit, whole⟩
  cases ended with
  | error error => exact concludes_raise (raised error later advanced limit)
  | ok =>
      rcases whole rfl with rfl
      exact concludes_pure slept

theorem concludes_readCore {deadline : ℚ}
    {post : Except Raised CoreSnapshot → List (Event CoreProbe) → ℚ → Prop}
    (holds : ∀ ended later, now ≤ later → (now < deadline + 1 → later < deadline + 1) →
      post ended [⟨.readCore deadline, ended⟩] later) :
    (CoreProbe.readCore deadline).Concludes coreClock now post := by
  refine concludes_bind (concludes_call (I := CoreProbe) (.readCore deadline) ?_)
  rintro ended later ⟨trace, runs, admits⟩
  rcases (concludes_ending (readCore_soon deadline now)).ends runs admits with ⟨advanced, soon⟩
  exact concludes_ofExcept (holds ended later advanced soon)

end

/-- One poll reads the core once. -/
theorem poll_concludes (settings : WaitSettings) {deadline now : ℚ} (before : now < deadline) :
    (poll settings deadline).Concludes coreClock now fun _ trace later =>
      (coreReads trace).length = 1 ∧ now ≤ later ∧ later < deadline + 1 := by
  refine concludes_bind (concludes_readCore ?_)
  intro ended later advanced soon
  have holds := And.intro advanced (soon (before.trans (lt_add_one deadline)))
  cases ended with
  | error error => exact ⟨rfl, holds⟩
  | ok snapshot =>
      refine concludes_bind (concludes_update ?_)
      refine concludes_bind (concludes_ofExcept ?_)
      cases coreIssues snapshot with
      | error error => exact ⟨rfl, holds⟩
      | ok issues =>
          refine concludes_bind (concludes_state fun wait => ?_)
          refine concludes_bind (concludes_update ?_)
          dsimp only
          split
          · exact concludes_bind (concludes_update (concludes_pure ⟨rfl, holds⟩))
          · refine concludes_bind (concludes_coreMonotonic ?_)
            refine concludes_bind (concludes_update ?_)
            exact concludes_bind (concludes_state fun wait => concludes_pure ⟨rfl, holds⟩)

section

omit [JsonLibrary]

@[simp]
theorem coreReads_nil : coreReads [] = [] := rfl

@[simp]
theorem coreReads_append (first rest : List (Event CoreProbe)) :
    coreReads (first ++ rest) = coreReads first ++ coreReads rest :=
  List.filterMap_append

@[simp]
theorem coreReads_monotonic (now : ℚ) (rest : List (Event CoreProbe)) :
    coreReads (⟨.monotonic, now⟩ :: rest) = coreReads rest := rfl

@[simp]
theorem coreReads_sleep (seconds : ℚ) (ended : Except Raised Unit)
    (rest : List (Event CoreProbe)) :
    coreReads (⟨.sleep seconds, ended⟩ :: rest) = coreReads rest := rfl

end

/-- The loop polls at most once for each interval that remains. -/
theorem watch_concludes (settings : WaitSettings) (positive : 0 < settings.interval)
    {rounds : ℕ} {deadline now : ℚ}
    (enough : roundsLeft settings.interval (deadline - now) < rounds) (soon : now < deadline + 1) :
    (watch settings deadline rounds).Concludes coreClock now fun _ trace later =>
      (coreReads trace).length ≤ roundsLeft settings.interval (deadline - now) ∧
        later < deadline + 1 := by
  induction rounds generalizing now with
  | zero => omega
  | succ rounds ih =>
      refine concludes_bind (concludes_coreMonotonic ?_)
      dsimp only
      split
      case isFalse => exact concludes_pure ⟨Nat.zero_le _, soon⟩
      case isTrue before =>
        have remains : 0 < roundsLeft settings.interval (deadline - now) :=
          roundsLeft_pos positive (sub_pos.mpr before)
        refine concludes_bind ((poll_concludes settings before).mono ?_)
        rintro (error | past) trace middle ⟨once, advanced, soonMiddle⟩
        · refine ⟨?_, soonMiddle⟩
          simp only [List.singleton_append, coreReads_monotonic, once]
          omega
        · cases past with
          | true =>
              refine concludes_pure ⟨?_, soonMiddle⟩
              simp only [List.append_nil, List.singleton_append, coreReads_monotonic, once]
              omega
          | false =>
              have decreases := roundsLeft_sleep positive before advanced
              have duration : 0 ≤ min settings.interval (max 0 (deadline - middle)) :=
                le_min positive.le (le_max_left _ _)
              have limit := sleep_lt positive one_pos soonMiddle
              refine concludes_bind (concludes_coreMonotonic ?_)
              refine concludes_bind (concludes_coreSleep duration ?_ ?_)
              · refine (ih (by omega) limit).mono ?_
                rintro ended rest later ⟨fewer, soonLater⟩
                refine ⟨?_, soonLater⟩
                simp only [List.singleton_append, coreReads_append, coreReads_monotonic,
                  coreReads_sleep, List.length_append, once]
                omega
              · intro error later _ takes
                refine ⟨?_, takes.trans_lt limit⟩
                simp only [List.singleton_append, coreReads_append, coreReads_monotonic,
                  coreReads_sleep, coreReads_nil, List.append_nil, once]
                omega

/-- The settings that `wait_core_ready` accepts. -/
def WaitSettings.Admitted (settings : WaitSettings) : Prop :=
  0 < settings.timeout ∧ 0 < settings.stableSeconds ∧ settings.stableSeconds < settings.timeout ∧
    0 < settings.interval

theorem waitCoreReady_concludes {settings : WaitSettings} (admitted : settings.Admitted)
    {rounds : ℕ} {start : ℚ} (enough : roundsLeft settings.interval settings.timeout < rounds) :
    (waitCoreReady settings rounds).Concludes coreClock start fun _ trace finish =>
      (coreReads trace).length ≤ roundsLeft settings.interval settings.timeout ∧
        finish < start + settings.timeout + 1 := by
  rcases admitted with ⟨timeout, stable, within, positive⟩
  have accepted : ¬(settings.timeout ≤ 0 ∨ settings.stableSeconds ≤ 0 ∨
      settings.timeout ≤ settings.stableSeconds ∨ settings.interval ≤ 0) := by
    rintro (refused | refused | refused | refused)
    · omega
    · omega
    · omega
    · exact absurd refused (not_le.mpr positive)
  have lasts : (0 : ℚ) < settings.timeout := Int.cast_pos.mpr timeout
  have remaining : start + settings.timeout - start = (settings.timeout : ℚ) :=
    add_sub_cancel_left _ _
  unfold waitCoreReady
  rw [if_neg accepted]
  refine concludes_bind (concludes_coreMonotonic ?_)
  have watched : (watch settings (start + settings.timeout) rounds).Concludes coreClock start
      fun _ trace finish =>
        (coreReads trace).length ≤ roundsLeft settings.interval settings.timeout ∧
          finish < start + settings.timeout + 1 := by
    have soon : start < start + settings.timeout + 1 := by linarith
    have concludes := watch_concludes settings positive (remaining.symm ▸ enough) soon
    rwa [remaining] at concludes
  refine concludes_bind (concludes_bind (concludes_attempt (watched.mono ?_)))
  rintro ended trace middle ⟨polled, soon⟩
  have reported : ∀ first : List (Event CoreProbe), coreReads first = coreReads trace →
      (do
        let finished ← CoreProbe.monotonic
        let wait ← state
        return ⟨wait.passed, wait.detail, roundMillis (finished - start), wait.snapshot⟩ :
          CoreM ReadinessResult).Concludes coreClock middle fun _ rest finish =>
        (coreReads (first ++ rest)).length ≤ roundsLeft settings.interval settings.timeout ∧
          finish < start + settings.timeout + 1 := by
    intro first same
    refine concludes_bind (concludes_coreMonotonic ?_)
    refine concludes_bind (concludes_state fun wait => concludes_pure ⟨?_, soon⟩)
    simpa [same] using polled
  cases ended with
  | ok => exact concludes_pure (reported _ (by simp))
  | error error =>
      dsimp only
      split
      · exact concludes_update (reported _ (by simp))
      · exact concludes_raise ⟨by simpa using polled, soon⟩

/-- `wait_core_ready` on the host. -/
def waitOnHost (settings : WaitSettings) (rounds : ℕ) : HostM ReadinessResult :=
  within {} ((waitCoreReady settings rounds).realize coreProbeOnHost)

theorem waitOnHost_default (rounds : ℕ) : waitOnHost {} rounds = waitCoreReadyOnHost rounds := rfl

theorem waitOnHost_concludes {settings : WaitSettings} (admitted : settings.Admitted)
    {rounds : ℕ} {start : ℚ} (enough : roundsLeft settings.interval settings.timeout < rounds) :
    (waitOnHost settings rounds).Concludes hostClock start fun ended trace finish =>
      ∃ probes wait, (waitCoreReady settings rounds).Runs {} probes ended wait ∧
        Served coreProbeOnHost probes trace ∧
        (coreReads probes).length ≤ roundsLeft settings.interval settings.timeout ∧
        finish < start + settings.timeout + 1 :=
  concludes_within_realize coreProbeOnHost_concludes (waitCoreReady_concludes admitted enough)

section

omit [JsonLibrary]

/-- The attempts to ask the gNB: each lists its nodes first. -/
def ngAttempts (trace : List (Event Host)) : ℕ :=
  trace.countP fun event =>
    match event.op with
    | .spawn args _ _ => args = cliDump "gnb"
    | _ => false

/-- No command is given more time than the limit. -/
def Limited (limit : ℕ) (trace : List (Event Host)) : Prop :=
  ∀ event ∈ trace, ∀ args environment timeout, event.op = .spawn args environment timeout →
    timeout ≤ limit

/-- What a part of the wait makes of the attempts and of the clock. -/
structure Spent (attempts limit : ℕ) (duration now : ℚ) (trace : List (Event Host)) (later : ℚ) :
    Prop where
  attempts : ngAttempts trace = attempts
  limited : Limited limit trace
  advanced : now ≤ later
  short : later ≤ now + duration

theorem ngAttempts_append (first rest : List (Event Host)) :
    ngAttempts (first ++ rest) = ngAttempts first + ngAttempts rest :=
  List.countP_append

theorem Limited.append {limit : ℕ} {first rest : List (Event Host)} (limited : Limited limit first)
    (limitedRest : Limited limit rest) : Limited limit (first ++ rest) := by
  intro event mem
  rcases List.mem_append.mp mem with mem | mem
  · exact limited event mem
  · exact limitedRest event mem

theorem Limited.mono {limit wider : ℕ} {trace : List (Event Host)} (limited : Limited limit trace)
    (le : limit ≤ wider) : Limited wider trace :=
  fun event mem args environment timeout same =>
    (limited event mem args environment timeout same).trans le

theorem Spent.append {attempts more limit : ℕ} {duration longer now middle later : ℚ}
    {first rest : List (Event Host)} (spent : Spent attempts limit duration now first middle)
    (spentRest : Spent more limit longer middle rest later) :
    Spent (attempts + more) limit (duration + longer) now (first ++ rest) later where
  attempts := by rw [ngAttempts_append, spent.attempts, spentRest.attempts]
  limited := spent.limited.append spentRest.limited
  advanced := spent.advanced.trans spentRest.advanced
  short := by linarith [spent.short, spentRest.short]

theorem Silent.spent {limit : ℕ} {trace : List (Event Host)} (silent : Silent trace) (now : ℚ) :
    Spent 0 limit 0 now trace now where
  attempts := by
    refine List.countP_eq_zero.mpr ?_
    rintro ⟨op, reply⟩ mem
    cases op with
    | spawn args environment timeout => exact absurd rfl (silent _ mem args environment timeout)
    | _ => simp
  limited event mem args environment timeout same :=
    absurd same (silent event mem args environment timeout)
  advanced := le_rfl
  short := (add_zero now).ge

theorem silent_nil : Silent [] := by simp [Silent]

theorem silent_getSignal (signal : Signal) (reply : Disposition) :
    Silent [⟨.getSignal signal, reply⟩] := by simp [Silent]

theorem silent_setSignal (signal : Signal) (disposition reply : Disposition) :
    Silent [⟨.setSignal signal disposition, reply⟩] := by simp [Silent]

theorem silent_monotonic (now : ℚ) : Silent [⟨.monotonic, now⟩] := by simp [Silent]

theorem interruptOnTerm_spends (previous : Disposition) (now : ℚ) :
    (interruptOnTerm previous).Concludes hostClock now fun ended trace later =>
      ended = .ok () ∧ later = now ∧ Silent trace := by
  unfold interruptOnTerm
  split
  · refine concludes_bind (concludes_call (I := Host) (.setSignal .term .interrupting) ?_)
    rintro replaced _ rfl
    exact concludes_pure ⟨rfl, rfl, silent_setSignal _ _ replaced⟩
  · exact concludes_pure ⟨rfl, rfl, silent_nil⟩

theorem runCommand_spends (args : List String) (timeout : ℕ) (now : ℚ) :
    (runCommand args timeout []).Concludes hostClock now fun _ trace later =>
      Spent (if args = cliDump "gnb" then 1 else 0) timeout timeout now trace later := by
  refine concludes_bind (concludes_call (I := Host) (.getSignal .term) ?_)
  rintro previous _ rfl
  refine concludes_bind ((interruptOnTerm_spends previous _).mono ?_)
  rintro ended first begun ⟨rfl, rfl, silent⟩
  refine concludes_bind (concludes_spawn ?_)
  intro ended later advanced takes
  have spent : Spent (if args = cliDump "gnb" then 1 else 0) timeout timeout begun
      [⟨.spawn args [] timeout, ended⟩] later :=
    ⟨by simp [ngAttempts], by simp [Limited], advanced, takes⟩
  refine concludes_bind (concludes_call (I := Host) (.setSignal .term previous) ?_)
  rintro replaced finished rfl
  have asked : Spent 0 timeout 0 begun [⟨.getSignal .term, previous⟩] begun :=
    (silent_getSignal .term previous).spent begun
  have restored : Spent 0 timeout 0 finished [⟨.setSignal .term previous, replaced⟩] finished :=
    (silent_setSignal .term previous replaced).spent finished
  refine concludes_ofExcept ?_
  simpa using asked.append ((silent.spent begun).append (spent.append restored))

/-- An attempt lists the nodes once, and runs at most two commands. -/
theorem runUeransimCli_spends (subcommand : String) (timeout : ℕ) (now : ℚ) :
    (runUeransimCli "gnb" subcommand timeout).Concludes hostClock now fun _ trace later =>
      Spent 1 timeout (2 * timeout) now trace later := by
  refine concludes_bind ((runCommand_spends (cliDump "gnb") timeout now).mono ?_)
  intro ended first middle listed
  rw [if_pos rfl] at listed
  have limit : (0 : ℚ) ≤ timeout := Nat.cast_nonneg timeout
  have alone : Spent 1 timeout (2 * timeout) now first middle :=
    { listed with short := by linarith [listed.short] }
  cases ended with
  | error error => exact alone
  | ok dump =>
      dsimp only
      split
      · exact concludes_pure (by simpa using alone)
      next node _ =>
        refine concludes_bind ((runCommand_spends _ timeout middle).mono ?_)
        intro answered rest later spent
        have other : cliExec "gnb" node subcommand ≠ cliDump "gnb" := by simp [cliExec, cliDump]
        rw [if_neg other] at spent
        have both : Spent 1 timeout (2 * timeout) now (first ++ rest) later := by
          simpa [two_mul] using listed.append spent
        cases answered with
        | error error => exact both
        | ok answer => exact concludes_pure (by simpa using both)

theorem attemptTimeout_le (remaining : ℚ) : attemptTimeout remaining ≤ 3 := by
  unfold attemptTimeout
  omega

/-- Both commands of an attempt fit into what remains, or into two seconds. -/
theorem attemptTimeout_short {remaining : ℚ} (remains : 0 < remaining) :
    2 * (attemptTimeout remaining : ℚ) < remaining + 2 := by
  have half : ((remaining / 2).floor : ℚ) ≤ remaining / 2 := Rat.floor_le _
  have bound : (attemptTimeout remaining : ℤ) ≤ max 1 (remaining / 2).floor := by
    unfold attemptTimeout
    omega
  rcases le_total (remaining / 2).floor 1 with short | long
  · rw [max_eq_left short] at bound
    have cast : ((attemptTimeout remaining : ℤ) : ℚ) ≤ (1 : ℤ) := Int.cast_le.mpr bound
    push_cast at cast
    linarith
  · rw [max_eq_right long] at bound
    have cast : ((attemptTimeout remaining : ℤ) : ℚ) ≤ (remaining / 2).floor :=
      Int.cast_le.mpr bound
    rw [Int.cast_natCast] at cast
    linarith

/-- What the wait makes of the attempts and of the clock, from an instant on. -/
structure NgPolled (deadline now : ℚ) (trace : List (Event Host)) (later : ℚ) : Prop where
  attempts : ngAttempts trace ≤ roundsLeft 1 (deadline - now)
  limited : Limited 3 trace
  soon : now < deadline → later < deadline + 2
  atOnce : deadline ≤ now → later = now

theorem NgPolled.of_attempt {deadline now later : ℚ} {trace : List (Event Host)}
    (before : now < deadline) (attempts : ngAttempts trace = 1) (limited : Limited 3 trace)
    (soon : later < deadline + 2) : NgPolled deadline now trace later where
  attempts := by
    have least := roundsLeft_pos one_pos (sub_pos.mpr before)
    omega
  limited := limited
  soon _ := soon
  atOnce past := absurd past (not_le.mpr before)

/-- An attempt, and the wait from the end of the sleep after it. -/
theorem NgPolled.again {deadline now woken later : ℚ} {first rest : List (Event Host)}
    (before : now < deadline) (attempts : ngAttempts first = 1) (limited : Limited 3 first)
    (fewer : roundsLeft 1 (deadline - woken) < roundsLeft 1 (deadline - now))
    (soon : woken < deadline + 2) (polled : NgPolled deadline woken rest later) :
    NgPolled deadline now (first ++ rest) later where
  attempts := by
    have more := polled.attempts
    rw [ngAttempts_append]
    omega
  limited := limited.append polled.limited
  soon _ := by
    rcases lt_or_ge woken deadline with early | past
    · exact polled.soon early
    · rw [polled.atOnce past]
      exact soon
  atOnce past := absurd past (not_le.mpr before)

/-- Every round of the loop makes an attempt that ends within two seconds of the
deadline, and the sleep after it leaves fewer rounds. -/
theorem pollNgSetup_concludes {rounds : ℕ} {deadline now : ℚ} {observed : String}
    (enough : roundsLeft 1 (deadline - now) < rounds) :
    (pollNgSetup deadline rounds observed).Concludes hostClock now fun _ trace later =>
      NgPolled deadline now trace later := by
  induction rounds generalizing now observed with
  | zero => omega
  | succ rounds ih =>
      have reading : Spent 0 3 0 now [⟨.monotonic, now⟩] now := (silent_monotonic now).spent now
      refine concludes_bind (concludes_monotonic ?_)
      dsimp only
      split
      case isTrue passed =>
        have past : deadline ≤ now := sub_nonpos.mp passed
        refine concludes_pure ⟨?_, reading.limited, fun ahead => ?_, fun _ => rfl⟩
        · rw [List.append_nil, reading.attempts]
          exact Nat.zero_le _
        · exact absurd past (not_le.mpr ahead)
      case isFalse remains =>
        have ahead : 0 < deadline - now := not_le.mp remains
        have before : now < deadline := sub_pos.mp ahead
        refine concludes_bind ((runUeransimCli_spends "status" _ now).mono ?_)
        intro attempt trace middle spent
        have soon : middle < deadline + 2 := by
          have short := attemptTimeout_short ahead
          linarith [spent.short]
        have limited : Limited 3 trace := spent.limited.mono (attemptTimeout_le _)
        have tried : NgPolled deadline now ([⟨.monotonic, now⟩] ++ trace) middle := by
          refine .of_attempt before ?_ (reading.limited.append limited) soon
          rw [ngAttempts_append, reading.attempts, spent.attempts]
        cases attempt with
        | error error => exact tried
        | ok attempt =>
            dsimp only
            split
            · exact concludes_pure (by simpa using tried)
            · have decreases := roundsLeft_sleep one_pos before spent.advanced
              have limit := sleep_lt one_pos two_pos soon
              have paused : ∀ slept, Silent slept →
                  ngAttempts ([⟨.monotonic, now⟩] ++
                    (trace ++ ([⟨.monotonic, middle⟩] ++ slept))) = 1 ∧
                  Limited 3 ([⟨.monotonic, now⟩] ++
                    (trace ++ ([⟨.monotonic, middle⟩] ++ slept))) := by
                intro slept silent
                have again : Spent 0 3 0 middle [⟨.monotonic, middle⟩] middle :=
                  (silent_monotonic middle).spent middle
                have quiet : Spent 0 3 0 middle slept middle := silent.spent middle
                constructor
                · simp only [ngAttempts_append, reading.attempts, spent.attempts, again.attempts,
                    quiet.attempts]
                · exact reading.limited.append (limited.append (again.limited.append quiet.limited))
              refine concludes_bind (concludes_monotonic ?_)
              refine concludes_bind (concludes_sleep ?_ ?_)
              · intro slept silent
                rcases paused slept silent with ⟨once, within⟩
                refine concludes_bind ((ih (by omega)).mono ?_)
                intro ended rest later polled
                have whole := NgPolled.again before once within decreases limit polled
                simp only [List.append_assoc] at whole
                cases ended with
                | error error => exact whole
                | ok more => exact concludes_pure (by simpa using whole)
              · intro error slept later silent advanced takes
                rcases paused slept silent with ⟨once, within⟩
                have positive : (0 : ℚ) ≤ min 1 (max 0 (deadline - middle)) :=
                  le_min zero_le_one (le_max_left _ _)
                exact .of_attempt before once within ((takes positive).trans_lt limit)

theorem waitForNgSetup_concludes {rounds : ℕ} {timeout start : ℚ}
    (enough : roundsLeft 1 timeout < rounds) :
    (waitForNgSetup rounds timeout).Concludes hostClock start fun _ trace finish =>
      NgPolled (start + timeout) start trace finish := by
  have remaining : start + timeout - start = timeout := add_sub_cancel_left _ _
  refine concludes_bind (concludes_monotonic ?_)
  refine (pollNgSetup_concludes (remaining.symm ▸ enough)).mono ?_
  intro ended trace finish polled
  have reading : Spent 0 3 0 start [⟨.monotonic, start⟩] start :=
    (silent_monotonic start).spent start
  refine ⟨?_, reading.limited.append polled.limited, polled.soon, polled.atOnce⟩
  rw [ngAttempts_append, reading.attempts, zero_add]
  exact polled.attempts

end

omit [JsonLibrary] in
theorem roundsLeft_lt_iff {interval remaining : ℚ} {rounds : ℕ} :
    roundsLeft interval remaining < rounds ↔ 0 < rounds ∧ ⌈remaining / interval⌉ < rounds := by
  unfold roundsLeft
  omega

/-- On the clock, both waits end.  The wait for the core polls at most once for each
interval, and ends less than a second after its deadline.  The wait for the NG setup
makes at most one attempt for each second, gives no command more than three seconds,
and ends less than two seconds after its deadline; without time it ends at once. -/
theorem waits_bounded :
    (∀ (settings : WaitSettings) (rounds : ℕ) (start : ℚ), settings.Admitted →
      ⌈settings.timeout / settings.interval⌉ < rounds →
      (waitOnHost settings rounds).Concludes hostClock start fun ended trace finish =>
        ∃ probes wait, (waitCoreReady settings rounds).Runs {} probes ended wait ∧
          Served coreProbeOnHost probes trace ∧
          (coreReads probes).length ≤ ⌈settings.timeout / settings.interval⌉ ∧
          finish < start + settings.timeout + 1) ∧
    ∀ (timeout : ℚ) (rounds : ℕ) (start : ℚ), 0 < rounds → ⌈timeout⌉ < rounds →
      (waitForNgSetup rounds timeout).Concludes hostClock start fun _ trace finish =>
        ngAttempts trace ≤ max 0 ⌈timeout⌉ ∧ Limited 3 trace ∧
          (0 < timeout → finish < start + timeout + 2) ∧ (timeout ≤ 0 → finish = start) := by
  constructor
  · intro settings rounds start admitted enough
    have lasts : (0 : ℚ) < settings.timeout := Int.cast_pos.mpr admitted.1
    have ceiling : 0 < ⌈settings.timeout / settings.interval⌉ :=
      Int.ceil_pos.mpr (div_pos lasts admitted.2.2.2)
    have fuel : roundsLeft settings.interval settings.timeout < rounds :=
      roundsLeft_lt_iff.mpr ⟨by omega, enough⟩
    refine (waitOnHost_concludes admitted fuel).mono ?_
    rintro ended trace finish ⟨probes, wait, runs, served, polled, soon⟩
    refine ⟨probes, wait, runs, served, ?_, soon⟩
    unfold roundsLeft at polled
    omega
  · intro timeout rounds start some enough
    have fuel : roundsLeft 1 timeout < rounds :=
      roundsLeft_lt_iff.mpr ⟨some, by rwa [div_one]⟩
    refine (waitForNgSetup_concludes fuel).mono ?_
    intro ended trace finish polled
    have attempts := polled.attempts
    have soon := polled.soon
    have atOnce := polled.atOnce
    rw [add_sub_cancel_left, roundsLeft, div_one] at attempts
    exact ⟨by omega, polled.limited, fun lasts => soon (by linarith),
      fun past => atOnce (by linarith)⟩

omit [JsonLibrary] in
/-- The default settings, and the longest wait of a baseline run. -/
theorem waits_bounded_default :
    let := decoder (fun _ => "0.0") ⟨4300, 1000⟩
    ((waitOnHost {} 61).Concludes hostClock 0 fun ended trace finish =>
      ∃ probes wait, (waitCoreReady {} 61).Runs {} probes ended wait ∧
        Served coreProbeOnHost probes trace ∧
        (coreReads probes).length ≤ ⌈((120 : ℤ) : ℚ) / 2⌉ ∧ finish < 0 + ((120 : ℤ) : ℚ) + 1) ∧
    (waitForNgSetup 31 30).Concludes hostClock 0 fun _ trace finish =>
      ngAttempts trace ≤ max 0 ⌈(30 : ℚ)⌉ ∧ Limited 3 trace ∧
        ((0 : ℚ) < 30 → finish < 0 + 30 + 2) ∧ ((30 : ℚ) ≤ 0 → finish = 0) := by
  intro library
  have rounds : ⌈((120 : ℤ) : ℚ) / 2⌉ < (61 : ℕ) := by norm_num
  have attempts : ⌈(30 : ℚ)⌉ < (31 : ℕ) := by norm_num
  exact ⟨waits_bounded.1 {} 61 0 (by simp [WaitSettings.Admitted]) rounds,
    waits_bounded.2 30 31 0 (by decide) attempts⟩

omit [JsonLibrary] in
/-- A deadline that has passed two seconds ago is missed by two seconds. -/
theorem waitForNgSetup_late :
    ¬∀ (timeout : ℚ) (rounds : ℕ) (start : ℚ), 0 < rounds → ⌈timeout⌉ < rounds →
      (waitForNgSetup rounds timeout).Concludes hostClock start fun _ trace finish =>
        ngAttempts trace ≤ max 0 ⌈timeout⌉ ∧ Limited 3 trace ∧ finish < start + timeout + 2 := by
  intro bounded
  have rounds : ⌈(-2 : ℚ)⌉ < (1 : ℕ) := by decide
  have concludes := bounded (-2) 1 0 one_pos rounds ()
  have clock : monotonic.Runs () [⟨.monotonic, (0 : ℚ)⟩] (.ok 0) () :=
    runs_monotonic_iff.mpr ⟨0, rfl, rfl⟩
  have runs : (waitForNgSetup 1 (-2)).Runs () [⟨.monotonic, (0 : ℚ)⟩, ⟨.monotonic, (0 : ℚ)⟩]
      (.ok ([], setupAssertion false "NG Setup did not become ready before the deadline")) () := by
    refine clock.bind (clock.bind ?_)
    rw [if_pos (by norm_num)]
    exact runs_pure_iff.mpr ⟨rfl, rfl, rfl⟩
  have admits : Admits hostClock 0 [⟨.monotonic, (0 : ℚ)⟩, ⟨.monotonic, (0 : ℚ)⟩] 0 :=
    .cons ⟨rfl, rfl⟩ (.cons ⟨rfl, rfl⟩ (.nil 0))
  have missed := (concludes.ends runs admits).2.2
  norm_num at missed

end FivegLab
